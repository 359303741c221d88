import SetupScript.Yaml.Token.Marks

/-!
# Token streams

`Token.stream` cuts a text into tokens. Indentation opens and closes blocks outside of brackets. A
node on one line becomes a key only when a colon follows it, so every token is kept together with
what has to be told before it, and nothing is ever put between tokens.
-/

namespace SetupScript.Yaml

/-- A token, and whether a key or also the mapping of that key begins there. -/
structure Entry where
  token : Token
  key : Bool
  mapping : Bool

def Entry.tokens (e : Entry) : List Token :=
  (if e.mapping then [.blockMappingStart] else []) ++ (if e.key then [.key] else []) ++ [e.token]

/-- A node that is a key if a colon follows it. A `required` one starts a line of a mapping. -/
structure Candidate where
  number : Nat
  required : Bool
  place : Cursor

/-- Where the reading of tokens stands. `pending` belongs to the innermost bracket and `outer` to
the brackets around it, `ready` tells that a key could start here, and the first `settled` entries
were sure before the last step. -/
structure Reader where
  cursor : Cursor
  entries : Array Entry
  settled : Nat
  indents : List Nat
  pending : Option Candidate
  outer : List (Option Candidate)
  ready : Bool

/-- The number of entries before the first one that can still become a key. -/
def Reader.sure (r : Reader) : Nat :=
  ((r.pending :: r.outer).filterMap id).foldl (fun n c => min n c.number) r.entries.size

abbrev Reading := ExceptT Defect (StateM Reader)

namespace Reading

def fail {α : Type} (detail : String) : Reading α := throw (.invalidYaml detail)

/-- Scans from the place of the cursor on. -/
def scan {α : Type} (x : Scan α) : Reading α := do
  match StateT.run x (← get).cursor with
  | .error d => throw d
  | .ok (a, c) =>
    modify fun r => { r with cursor := c }
    return a

/-- Whether a bracket is open. -/
def inFlow : Reading Bool := return !(← get).outer.isEmpty

/-- The column of the innermost block; outside of all blocks it is before the first column. -/
def indent : Reading Int := do
  match (← get).indents with
  | [] => return -1
  | i :: _ => return i

def emit (t : Token) : Reading Unit :=
  modify fun r => { r with entries := r.entries.push ⟨t, false, false⟩ }

def setReady (b : Bool) : Reading Unit := modify fun r => { r with ready := b }

/-! ## Blocks -/

/-- Closes the blocks that are indented further than `column`. -/
def unwind (column : Int) : Reading Unit := do
  if !(← inFlow) then
    let closed := (← get).indents.takeWhile fun (i : Nat) => column < i
    modify fun r => { r with indents := r.indents.drop closed.length }
    closed.forM fun _ => emit .blockEnd

/-- Opens a block at a column that is indented further, and tells whether it did. -/
def deepen (column : Nat) : Reading Bool := do
  if (← indent) < column then
    modify fun r => { r with indents := column :: r.indents }
    return true
  else return false

/-! ## Keys -/

def dropCandidate : Reading Unit := do
  if (← get).pending.any (·.required) then fail "could not find expected ':'"
  modify fun r => { r with pending := none }

/-- The node that starts here can be a key. -/
def offerCandidate : Reading Unit := do
  let r ← get
  if r.ready then
    let required := !(← inFlow) && (← indent) == (r.cursor.column : Int)
    dropCandidate
    modify fun r => { r with pending := some ⟨r.entries.size, required, r.cursor⟩ }

/-- Keys stand on one line and have at most 1024 characters. -/
def Candidate.isStale (c : Candidate) (here : Cursor) : Bool :=
  c.place.line != here.line || 1024 < here.index - c.place.index

def dropStale : Reading Unit := do
  let r ← get
  let stale (c : Option Candidate) : Bool := c.any (Candidate.isStale · r.cursor)
  if (r.pending :: r.outer).any fun c => stale c && c.any (·.required) then
    fail "could not find expected ':'"
  let keep (c : Option Candidate) := if stale c then none else c
  modify fun r => { r with pending := keep r.pending, outer := r.outer.map keep }

/-- Outside of brackets an entry can only stand where a key could, and it opens a block. -/
def startEntry (start : Token) (refusal : String) : Reading Unit := do
  if !(← inFlow) then
    if !(← get).ready then fail refusal
    let column := (← get).cursor.column
    if ← deepen column then emit start

/-! ## Tokens -/

/-- Goes to the next token; a line break makes room for a key outside of brackets. -/
def skipBlank : Nat → Reading Unit
  | 0 => return
  | n + 1 => do
    if (← get).cursor.index == 0 && (← scan Scan.peek) == '\ufeff' then scan Scan.forward
    let _ ← scan (Scan.run (· == ' '))
    if (← scan Scan.peek) == '#' then
      let _ ← scan (Scan.run (!endsLine ·))
    if (← scan Scan.lineBreak?).isSome then
      if !(← inFlow) then setReady true
      skipBlank n

def mark (t : Token) : Reading Unit := do
  scan Scan.forward
  emit t

/-- Closes all blocks before a mark that stands between documents. -/
def leaveDocument : Reading Unit := do
  unwind (-1)
  dropCandidate
  setReady false

def separator (t : Token) : Reading Unit := do
  leaveDocument
  scan (Scan.skip 3)
  emit t

def openBracket (t : Token) : Reading Unit := do
  offerCandidate
  modify fun r => { r with pending := none, outer := r.pending :: r.outer, ready := true }
  mark t

def closeBracket (t : Token) : Reading Unit := do
  dropCandidate
  match (← get).outer with
  | [] => fail "found a closing bracket that was not opened"
  | pending :: outer =>
    modify fun r => { r with pending := pending, outer := outer, ready := false }
    mark t

def flowEntry : Reading Unit := do
  setReady true
  dropCandidate
  mark .flowEntry

def blockEntry : Reading Unit := do
  startEntry .blockSequenceStart "sequence entries are not allowed here"
  setReady true
  dropCandidate
  mark .blockEntry

/-- A key that a question mark announces. -/
def key : Reading Unit := do
  startEntry .blockMappingStart "mapping keys are not allowed here"
  setReady (!(← inFlow))
  dropCandidate
  mark .key

/-- A colon makes the pending node a key; without one, the key is empty. -/
def value : Reading Unit := do
  match (← get).pending with
  | some c =>
    let starts ← if ← inFlow then pure false else deepen c.place.column
    modify fun r => { r with
      pending := none
      entries := r.entries.modify c.number fun e => { e with key := true, mapping := starts }
      ready := false }
  | none =>
    startEntry .blockMappingStart "mapping values are not allowed here"
    setReady (!(← inFlow))
  mark .value

/-- A node, or what stands before one, can be a key. -/
def node (x : Scan Token) : Reading Unit := do
  offerCandidate
  setReady false
  emit (← scan x)

/-- A block of lines ends at a line break. -/
def lines (fold : Bool) : Reading Unit := do
  setReady true
  dropCandidate
  let outer ← indent
  emit (.scalar (← scan (Scan.block fold outer)) false)

def word : Reading Unit := do
  offerCandidate
  let flow ← inFlow
  let (s, newline) ← scan (Scan.plain flow ((← indent) + 1).toNat)
  setReady newline
  emit (.scalar s true)

/-- Signs that begin something else than a plain text. -/
def signs : List Char :=
  ['-', '?', ':', ',', '[', ']', '\x7b', '\x7d', '#', '&', '*', '!', '|', '>', '\'', '"', '%', '@',
    '\x60']

/-- Whether a plain text can begin with `c` before `next`. -/
def startsWord (flow : Bool) (c next : Char) : Bool :=
  !(endsWord c || signs.contains c) ||
    (!endsWord next && (c == '-' || (!flow && (c == '?' || c == ':'))))

/-- Reads the next token with what belongs before it, and tells whether the stream goes on. -/
def next : Reading Bool := do
  skipBlank ((← scan Scan.left) + 1)
  dropStale
  let column ← scan Scan.column
  unwind column
  let c ← scan Scan.peek
  let following ← scan (Scan.peekAt 1)
  let flow ← inFlow
  if c == endMark then
    leaveDocument
    emit .streamEnd
    return false
  if c == '%' && column == 0 then
    leaveDocument
    emit (.directive (← scan Scan.directive))
  else if column == 0 && (← scan (Scan.atMark Scan.documentStart)) then separator .documentStart
  else if column == 0 && (← scan (Scan.atMark Scan.documentEnd)) then separator .documentEnd
  else if c == '[' then openBracket .flowSequenceStart
  else if c == '\x7b' then openBracket .flowMappingStart
  else if c == ']' then closeBracket .flowSequenceEnd
  else if c == '\x7d' then closeBracket .flowMappingEnd
  else if c == ',' then flowEntry
  else if c == '-' && endsWord following then blockEntry
  else if c == '?' && (flow || endsWord following) then key
  else if c == ':' && (flow || endsWord following) then value
  else if c == '*' then node (return .alias (← Scan.anchorName))
  else if c == '&' then node (return .anchor (← Scan.anchorName))
  else if c == '!' then node (return .tag (← Scan.tag))
  else if c == '|' && !flow then lines false
  else if c == '>' && !flow then lines true
  else if c == '\'' then node (return .scalar (← Scan.quoted false) false)
  else if c == '"' then node (return .scalar (← Scan.quoted true) false)
  else if startsWord flow c following then word
  else fail "found a character that cannot start any token"
  return true

def all : Nat → Reading Unit
  | 0 => return
  | n + 1 => do
    modify fun r => { r with settled := r.sure }
    if ← next then
      dropStale
      all n

end Reading

namespace Token

/-- The tokens of a text. If it cannot be read to its end, the last one tells why, and stands
before the first one that was not sure by then. -/
def stream (text : List Char) (beyond : Option Defect) : List Token :=
  let start : Reader := ⟨Cursor.start text beyond, #[], 0, [], none, [], true⟩
  let (result, r) := (Reading.all (text.length + 1)).run start
  match result with
  | .ok () => r.entries.toList.flatMap Entry.tokens
  | .error d => (r.entries.toList.take r.settled).flatMap Entry.tokens ++ [.broken d]

end Token

end SetupScript.Yaml
