import SetupScript.Text.CodePoints
import SetupScript.Yaml.Cursor

/-!
# Scanning texts

The four ways of writing a text: plain, between single or double quotes, and as a block of lines
that keeps its line breaks or folds them into spaces.
-/

namespace SetupScript.Yaml.Scan

/-- A line break between two lines of text becomes a space, unless more breaks follow. -/
def folded (first : Char) (more : List Char) : List Char :=
  (if first != '\n' then [first] else if more.isEmpty then [' '] else []) ++ more

/-! ## Plain texts -/

def isFlowMark (c : Char) : Bool := [',', '[', ']', '\x7b', '\x7d'].contains c

/-- Whether a plain text ends before `c`, which `next` follows. -/
def plainStops (flow : Bool) (c next : Char) : Bool :=
  endsWord c || (c == ':' && (endsWord next || (flow && isFlowMark next))) ||
    (flow && (c == '?' || isFlowMark c))

def plainPart (flow : Bool) : List Char → List Char
  | [] => []
  | c :: cs => if plainStops flow c (cs.headD endMark) then [] else c :: plainPart flow cs

/-- The empty lines and the spaces before the next word, or nothing before a separator. -/
def plainBreaks : Nat → Scan (Option (List Char))
  | 0 => return some []
  | n + 1 => do
    let _ ← run (· == ' ')
    match ← lineBreak? with
    | none => return some []
    | some b =>
      if ← atSeparator then return none
      else return (← plainBreaks n).map (b :: ·)

/-- The space between two words, and whether it spans lines. -/
def plainSpace : Scan (List Char × Bool) := do
  let spaces ← run (· == ' ')
  match ← lineBreak? with
  | none => return (spaces, false)
  | some b =>
    if ← atSeparator then return ([], true)
    else match ← plainBreaks ((← left) + 1) with
      | none => return ([], true)
      | some more => return (folded b more, true)

/-- Reads words as long as they are indented; `space` comes before the first one. -/
def plainWords (flow : Bool) (indent : Nat) :
    Nat → List Char → Bool → Scan (List Char × Bool)
  | 0, _, newline => return ([], newline)
  | n + 1, space, newline => do
    let part := plainPart flow (← get).rest
    need (part.length + 1)
    if (← peekAt part.length) == ':' then need (part.length + 2)
    if (← peek) == '#' || part.isEmpty then return ([], newline)
    else
      skip part.length
      let word := Text.ofChars part
      let (next, newline) ← plainSpace
      if next.isEmpty || (← peek) == '#' || (!flow && (← column) < indent) then
        return (space ++ word, newline)
      else
        let (more, newline) ← plainWords flow indent n next newline
        return (space ++ word ++ more, newline)

/-- A plain text, and whether the scan went past its last line. -/
def plain (flow : Bool) (indent : Nat) : Scan (String × Bool) := do
  let (cs, newline) ← plainWords flow indent ((← left) + 1) [] false
  return (String.ofList cs, newline)

/-! ## Quoted texts -/

/-- The characters that one letter after a backslash stands for. -/
def shortEscapes : List (Char × Char) :=
  [('0', '\x00'), ('a', '\x07'), ('b', '\x08'), ('t', '\t'), ('\t', '\t'), ('n', '\n'),
    ('v', '\x0b'), ('f', '\x0c'), ('r', '\r'), ('e', '\x1b'), (' ', ' '), ('"', '"'),
    ('\\', '\\'), ('/', '/'), ('N', '\x85'), ('_', '\u00a0'), ('L', '\u2028'), ('P', '\u2029')]

/-- The number of digits of a code after its letter. -/
def codeEscapes : List (Char × Nat) := [('x', 2), ('u', 4), ('U', 8)]

def hexValue? (c : Char) : Option Nat :=
  if '0' ≤ c && c ≤ '9' then some (c.toNat - 48)
  else if 'a' ≤ c && c ≤ 'f' then some (c.toNat - 87)
  else if 'A' ≤ c && c ≤ 'F' then some (c.toNat - 55)
  else none

def hexNumber? (cs : List Char) : Option Nat :=
  cs.foldl (fun n c => do return (← n) * 16 + (← hexValue? c)) (some 0)

/-- Codes end at 10FFFF, and those from 80000000 on are not even numbers to the program. A surrogate
is a code like any other. -/
def codeCharacter (n : Nat) : Scan (List Char) :=
  if n ≤ 0x10FFFF then return Text.ofCode n
  else if n < 0x80000000 then throw .scalarOutOfRange
  else throw .scalarTooLarge

/-- The empty lines within a quoted text, and the spaces before its next word. -/
def quotedBreaks : Nat → Scan (List Char)
  | 0 => return []
  | n + 1 => do
    if ← atSeparator then fail "found a document separator in a quoted text"
    let _ ← run isInlineSpace
    match ← lineBreak? with
    | none => return []
    | some b => return b :: (← quotedBreaks n)

/-- Reads what follows a backslash. -/
def escaped : Scan (List Char) := do
  let c ← peek
  match shortEscapes.lookup c, codeEscapes.lookup c with
  | some x, _ =>
    forward
    return [x]
  | none, some width =>
    forward
    match hexNumber? (← (List.range width).mapM peekAt) with
    | none => fail "expected hexadecimal digits"
    | some n =>
      let cs ← codeCharacter n
      skip width
      return cs
  | none, none =>
    if isBreak c then
      let _ ← lineBreak?
      quotedBreaks ((← left) + 1)
    else fail "found an unknown escape"

/-- Spaces stay as they are, line breaks are folded. -/
def quotedSpace : Scan (List Char) := do
  let spaces ← run isInlineSpace
  match ← lineBreak? with
  | some b => return folded b (← quotedBreaks ((← left) + 1))
  | none =>
    if (← peek) == endMark then fail "found the end of the stream in a quoted text"
    else return spaces

def isQuotedWord (c : Char) : Bool := !(endsWord c || c == '\'' || c == '"' || c == '\\')

/-- One piece of a quoted text, or nothing at its closing quote. -/
def quotedPiece (double : Bool) : Scan (Option (List Char)) := do
  let c ← peek
  if !double && c == '\'' then
    if (← peekAt 1) == '\'' then
      skip 2
      return some ['\'']
    else return none
  else if double && c == '"' then return none
  else if double && c == '\\' then
    forward
    return some (← escaped)
  else if c == '\'' || c == '"' || c == '\\' then
    forward
    return some [c]
  else if endsWord c then return some (← quotedSpace)
  else return some (Text.ofChars (← run isQuotedWord))

def quotedPieces (double : Bool) : Nat → Scan (List Char)
  | 0 => return []
  | n + 1 => do
    match ← quotedPiece double with
    | none =>
      forward
      return []
    | some cs => return cs ++ (← quotedPieces double n)

def quoted (double : Bool) : Scan String := do
  forward
  return String.ofList (← quotedPieces double ((← left) + 1))

/-! ## Blocks of lines -/

/-- What happens to the line breaks at the end of a block. -/
inductive Ending where
  | strip
  | clip
  | keep

def endingOf? (c : Char) : Option Ending :=
  if c == '+' then some .keep else if c == '-' then some .strip else none

/-- Reads the sign of an ending, if there is one. -/
def ending? : Scan (Option Ending) := do
  let e := endingOf? (← peek)
  if e.isSome then forward
  return e

/-- Reads the number of columns that a block is indented by, if it is given. -/
def indentation? : Scan (Option Nat) := do
  let c ← peek
  if '0' ≤ c && c ≤ '9' then
    if c == '0' then fail "expected an indentation from 1 to 9"
    forward
    return some (c.toNat - 48)
  else return none

/-- The sign and the number can come in either order. -/
def blockHeader : Scan (Ending × Option Nat) := do
  let first ← ending?
  let width ← indentation?
  let second ← if first.isNone && width.isSome then ending? else pure none
  if !endsItem (← peek) then fail "expected the end of a block's first line"
  restOfLine
  return ((first <|> second).getD .clip, width)

/-- The empty lines before a block, and the widest indentation among them. -/
def blankLines : Nat → Nat → Scan (List Char × Nat)
  | 0, widest => return ([], widest)
  | n + 1, widest => do
    match ← lineBreak? with
    | some b =>
      let (more, widest) ← blankLines n widest
      return (b :: more, widest)
    | none =>
      if (← peek) == ' ' then
        forward
        blankLines n (max widest (← column))
      else return ([], widest)

/-- Skips the indentation of a line. -/
def indentTo (indent : Nat) : Nat → Scan Unit
  | 0 => return
  | n + 1 => do
    if (← column) < indent && (← peek) == ' ' then
      forward
      indentTo indent n

/-- The empty lines within a block. -/
def blockBreaks (indent : Nat) : Nat → Scan (List Char)
  | 0 => return []
  | n + 1 => do
    indentTo indent indent
    match ← lineBreak? with
    | none => return []
    | some b => return b :: (← blockBreaks indent n)

/-- Reads the lines of a block after the empty lines `breaks`. The last line break and the empty
lines after it come apart. -/
def blockLines (fold : Bool) (indent : Nat) :
    Nat → List Char → Scan (List Char × List Char × List Char)
  | 0, breaks => return ([], [], breaks)
  | n + 1, breaks => do
    if (← column) != indent || (← peek) == endMark then return ([], [], breaks)
    else
      let wordFirst := !isInlineSpace (← peek)
      let line := Text.ofChars (← run (!endsLine ·))
      let last := (← lineBreak?).toList
      let next ← blockBreaks indent ((← left) + 1)
      if (← column) != indent || (← peek) == endMark then return (breaks ++ line, last, next)
      else
        let joint :=
          if fold && last == ['\n'] && wordFirst && !isInlineSpace (← peek) then
            if next.isEmpty then [' '] else []
          else last
        let (more, last, next) ← blockLines fold indent n next
        return (breaks ++ line ++ joint ++ more, last, next)

/-- A block is indented further than what it belongs to, by at least one column. -/
def block (fold : Bool) (outer : Int) : Scan String := do
  forward
  let (ending, width) ← blockHeader
  let least := max 1 (outer + 1).toNat
  let (breaks, indent) ← match width with
    | none => do
      let (breaks, widest) ← blankLines ((← left) + 1) 0
      pure (breaks, max least widest)
    | some n => do
      let indent := least + n - 1
      pure (← blockBreaks indent ((← left) + 1), indent)
  let (text, last, trailing) ← blockLines fold indent ((← left) + 1) breaks
  return String.ofList (match ending with
    | .strip => text
    | .clip => text ++ last
    | .keep => text ++ last ++ trailing)

end SetupScript.Yaml.Scan
