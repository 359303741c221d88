import SetupScript.Failure

/-!
# Reading characters of a document

A cursor stands in the text of a document and knows its line and column. Scanning reads from the
cursor on and can fail; `peek` looks ahead and gives the end mark where the text is over, or fails
where the text breaks off.
-/

namespace SetupScript.Yaml

/-- Stands for the end of the text, which cannot hold it. -/
def endMark : Char := '\x00'

def isBreak (c : Char) : Bool :=
  c == '\n' || c == '\r' || c == '\x85' || c == '\u2028' || c == '\u2029'

def endsLine (c : Char) : Bool := c == endMark || isBreak c

/-- Ends of lines and spaces, but not tabs. -/
def endsItem (c : Char) : Bool := c == ' ' || endsLine c

def endsWord (c : Char) : Bool := c == '\t' || endsItem c

def isInlineSpace (c : Char) : Bool := c == ' ' || c == '\t'

def isNameChar (c : Char) : Bool := c.isAlphanum || c == '-' || c == '_'

/-- Documents hold printable characters, tabs and line breaks. -/
def isAllowed (c : Char) : Bool :=
  let n := c.toNat
  n == 0x9 || n == 0xA || n == 0xD || n == 0x85 || (0x20 ≤ n && n ≤ 0x7E) ||
    (0xA0 ≤ n && n ≤ 0xFFFD) || 0x10000 ≤ n

/-- A text that breaks off has a defect behind its last readable character. -/
structure Cursor where
  rest : List Char
  beyond : Option Defect
  index : Nat
  line : Nat
  column : Nat

namespace Cursor

def start (text : List Char) (beyond : Option Defect) : Cursor := ⟨text, beyond, 0, 0, 0⟩

/-- Byte order marks have no width, and a carriage return before a line feed ends no line. -/
def forward (c : Cursor) : Cursor :=
  match c.rest with
  | [] => c
  | x :: rest =>
    if isBreak x && !(x == '\r' && rest.head? == some '\n') then
      { c with rest, index := c.index + 1, line := c.line + 1, column := 0 }
    else
      let column := if x == '\ufeff' then c.column else c.column + 1
      { c with rest, index := c.index + 1, column }

def skip : Nat → Cursor → Cursor
  | 0, c => c
  | n + 1, c => skip n c.forward

end Cursor

abbrev Scan := StateT Cursor (Except Defect)

namespace Scan

def fail {α : Type} (detail : String) : Scan α := throw (.invalidYaml detail)

/-- Fails if the text breaks off before `n` more characters. -/
def need (n : Nat) : Scan Unit := do
  let c ← get
  match c.beyond with
  | some d => if c.rest.length < n then throw d
  | none => return

/-- The character that is `n` places ahead. -/
def peekAt (n : Nat) : Scan Char := do
  match (← get).rest.drop n with
  | x :: _ => return x
  | [] =>
    need (n + 1)
    return endMark

def peek : Scan Char := peekAt 0

def column : Scan Nat := return (← get).column

/-- Goes over some characters and looks at the one after them. -/
def skip (n : Nat) : Scan Unit := do
  need (n + 1)
  modify (Cursor.skip n)

def forward : Scan Unit := skip 1

/-- How many characters are left, as a bound for loops. -/
def left : Scan Nat := return (← get).rest.length

/-- Reads characters as long as they satisfy `p`. -/
def run (p : Char → Bool) : Scan (List Char) := do
  let taken := (← get).rest.takeWhile p
  skip taken.length
  return taken

/-- Reads a line break; those of other scripts are kept, the rest count as line feeds. -/
def lineBreak? : Scan (Option Char) := do
  let c ← peek
  if c == '\r' || c == '\n' || c == '\x85' then
    if c == '\r' && (← peekAt 1) == '\n' then skip 2 else forward
    return some '\n'
  else if isBreak c then
    forward
    return some c
  else return none

/-- Whether the mark of a document's start or end follows. -/
def atMark (mark : List Char) : Scan Bool := do
  need mark.length
  if mark.isPrefixOf (← get).rest then return endsWord (← peekAt mark.length) else return false

def documentStart : List Char := ['-', '-', '-']

def documentEnd : List Char := ['.', '.', '.']

def atSeparator : Scan Bool := do
  return (← atMark documentStart) || (← atMark documentEnd)

/-- Reads the spaces and the comment at the end of a line, and the break after them. -/
def restOfLine : Scan Unit := do
  let _ ← run (· == ' ')
  if (← peek) == '#' then
    let _ ← run (!endsLine ·)
  if endsLine (← peek) then
    let _ ← lineBreak?
  else fail "expected a comment or a line break"

end Scan

end SetupScript.Yaml
