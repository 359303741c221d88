import SetupScript.Yaml.Node
import SetupScript.Yaml.Token.Stream

/-!
# Documents

`Document.ofTokens` reads the only document of a stream. A node gets its number before its parts
are read, and its name is known to them, so that an alias can lead back to a collection that is
still open. Fuel bounds the depth of the reading, of which every few steps take a token.
-/

namespace SetupScript.Yaml

/-- The tokens that are left, the nodes so far, the numbers of those that have a name, and how many
collections are open. -/
structure Source where
  tokens : List Token
  nodes : Array Node
  anchors : List (String × Nat)
  depth : Nat

abbrev Parse := StateT Source (Except Defect)

namespace Parse

def fail {α : Type} (detail : String) : Parse α := throw (.invalidYaml detail)

def peek : Parse Token := do
  match (← get).tokens with
  | [] => return .streamEnd
  | .broken d :: _ => throw d
  | t :: _ => return t

def advance : Parse Unit := modify fun s => { s with tokens := s.tokens.drop 1 }

/-- Takes a token if it comes next. -/
def accept (t : Token) : Parse Bool := do
  if (← peek) == t then
    advance
    return true
  else return false

def expect (t : Token) (detail : String) : Parse Unit := do
  if !(← accept t) then fail detail

/-! ## Directives -/

/-- The short forms of tags. -/
abbrev Handles := List (String × String)

/-- Reads directives; there is one version, 1, and each handle is given once. -/
def directives : Nat → (versioned : Bool) → Handles → Parse Handles
  | 0, _, handles => return handles
  | n + 1, versioned, handles => do
    match ← peek with
    | .directive d =>
      advance
      match d with
      | .version major _ =>
        if versioned then fail "found a second version"
        if major != 1 then fail "found an unknown version"
        directives n true handles
      | .handle name tagStart =>
        if (handles.lookup name).isSome then fail "found a second meaning of a handle"
        directives n versioned ((name, tagStart) :: handles)
      | .other => directives n versioned handles
    | _ => return handles

/-- Handles that no directive gives. -/
def usualHandles : Handles := [("!", "!"), ("!!", Tag.common)]

/-! ## Names and tags of nodes -/

structure Properties where
  anchor : Option String
  tag : Option String

def anchor? : Parse (Option String) := do
  match ← peek with
  | .anchor name =>
    advance
    return some name
  | _ => return none

def tag? : Parse (Option TagText) := do
  match ← peek with
  | .tag t =>
    advance
    return some t
  | _ => return none

def written (handles : Handles) (t : TagText) : Parse String := do
  match t.handle with
  | none => return t.suffix
  | some handle =>
    match handles.lookup handle with
    | some tagStart => return tagStart ++ t.suffix
    | none => fail "found an undefined tag handle"

/-- A name and a tag come in either order. -/
def properties (handles : Handles) : Parse Properties := do
  let before ← anchor?
  let tag ← tag?
  let anchor ← if before.isNone && tag.isSome then anchor? else pure before
  match tag with
  | some t => return ⟨anchor, some (← written handles t)⟩
  | none => return ⟨anchor, none⟩

/-- The tag of a collection that has none or only an exclamation mark is the usual one. -/
def Properties.collectionTag (p : Properties) (usual : Tag) : Tag :=
  match p.tag with
  | none => usual
  | some name => if name == "!" then usual else .ofName name

/-- Without a tag, plain texts tell their tags and others are just text. An exclamation mark makes
any text count as plain. -/
def Properties.textTag (p : Properties) (text : String) (plain : Bool) : Tag :=
  match p.tag with
  | none => if plain then .ofPlain text else .text
  | some name => if name == "!" then .ofPlain text else .ofName name

/-! ## Nodes -/

def add (x : Node) : Parse Nat := do
  let s ← get
  set { s with nodes := s.nodes.push x }
  return s.nodes.size

/-- Adds a node under its name, which has to be new. -/
def addNamed (anchor : Option String) (x : Node) : Parse Nat := do
  let known := (← get).anchors
  if anchor.any fun a => (known.lookup a).isSome then fail "found a duplicate anchor"
  let n ← add x
  if let some a := anchor then modify fun s => { s with anchors := (a, n) :: s.anchors }
  return n

def empty : Parse Nat := add .empty

def scalar (p : Properties) (text : String) (plain : Bool) : Parse Nat :=
  addNamed p.anchor ⟨p.textTag text plain, .text text⟩

/-- Collections can stand in each other this deep. -/
def depthLimit : Nat := 485

/-- Adds a collection and then reads what it holds. -/
def fill (anchor : Option String) (tag : Tag) (content : Parse Content) : Parse Nat := do
  let n ← addNamed anchor ⟨tag, .sequence []⟩
  let depth := (← get).depth
  if depthLimit ≤ depth then throw .nestedTooDeep
  modify fun s => { s with depth := depth + 1 }
  let c ← content
  modify fun s => { s with depth, nodes := s.nodes.modify n fun x => { x with content := c } }
  return n

def sequence (p : Properties) (items : Parse (List Nat)) : Parse Nat :=
  fill p.anchor (p.collectionTag .sequence) (.sequence <$> items)

def mapping (p : Properties) (pairs : Parse (List (Nat × Nat))) : Parse Nat :=
  fill p.anchor (p.collectionTag .mapping) (.mapping <$> pairs)

/-- Where a node stands: in brackets, in a block, or as a part of a mapping in a block, where the
entries of a sequence need not be indented further. -/
inductive Place where
  | flow
  | block
  | field
deriving DecidableEq

variable (handles : Handles)

mutual

def node : Nat → Place → Parse Nat
  | 0, _ => fail "found no end of the nodes"
  | n + 1, place => do
    if let .alias name ← peek then
      advance
      match (← get).anchors.lookup name with
      | some x => return x
      | none => fail "found an undefined alias"
    let p ← properties handles
    match ← peek with
    | .scalar text plain =>
      advance
      scalar p text plain
    | .flowSequenceStart => sequence p (advance *> flowItems n true)
    | .flowMappingStart => mapping p (advance *> flowPairs n true)
    | t =>
      if t == .blockEntry && place == .field then sequence p (looseItems n)
      else if t == .blockSequenceStart && place != .flow then sequence p (advance *> blockItems n)
      else if t == .blockMappingStart && place != .flow then mapping p (advance *> blockPairs n)
      else if p.anchor.isSome || p.tag.isSome then scalar p "" true
      else fail "expected the node content"

/-- A node, or an empty one before a token that cannot begin any. -/
def nodeUnless : Nat → Place → List Token → Parse Nat
  | 0, _, _ => fail "found no end of the nodes"
  | n + 1, place, stops => do
    if stops.contains (← peek) then empty
    else node n place

def blockItems : Nat → Parse (List Nat)
  | 0 => fail "found no end of the nodes"
  | n + 1 => do
    if ← accept .blockEntry then
      let x ← nodeUnless n .block [.blockEntry, .blockEnd]
      return x :: (← blockItems n)
    else
      expect .blockEnd "expected the end of a block"
      return []

/-- The entries of a sequence that is indented like the key it belongs to. -/
def looseItems : Nat → Parse (List Nat)
  | 0 => fail "found no end of the nodes"
  | n + 1 => do
    if ← accept .blockEntry then
      let x ← nodeUnless n .block [.blockEntry, .key, .value, .blockEnd]
      return x :: (← looseItems n)
    else return []

def blockPairs : Nat → Parse (List (Nat × Nat))
  | 0 => fail "found no end of the nodes"
  | n + 1 => do
    if ← accept .key then
      let k ← nodeUnless n .field [.key, .value, .blockEnd]
      let x ← valueAfter n .field [.key, .value, .blockEnd]
      return (k, x) :: (← blockPairs n)
    else
      expect .blockEnd "expected the end of a block"
      return []

/-- The value of a pair, if there is one. -/
def valueAfter : Nat → Place → List Token → Parse Nat
  | 0, _, _ => fail "found no end of the nodes"
  | n + 1, place, stops => do
    if ← accept .value then nodeUnless n place stops
    else empty

/-- An item in brackets can be a single pair. -/
def flowItems : Nat → (first : Bool) → Parse (List Nat)
  | 0, _ => fail "found no end of the nodes"
  | n + 1, first => do
    if ← accept .flowSequenceEnd then return []
    if !first then expect .flowEntry "expected a comma or a closing bracket"
    if (← peek) == .key then
      let x ← mapping ⟨none, none⟩ (advance *> flowPair n)
      return x :: (← flowItems n false)
    else if ← accept .flowSequenceEnd then return []
    else
      let x ← node n .flow
      return x :: (← flowItems n false)

/-- The rest of a single pair. -/
def flowPair : Nat → Parse (List (Nat × Nat))
  | 0 => fail "found no end of the nodes"
  | n + 1 => do
    let k ← nodeUnless n .flow [.value, .flowEntry, .flowSequenceEnd]
    let x ← valueAfter n .flow [.flowEntry, .flowSequenceEnd]
    return [(k, x)]

def flowPairs : Nat → (first : Bool) → Parse (List (Nat × Nat))
  | 0, _ => fail "found no end of the nodes"
  | n + 1, first => do
    if ← accept .flowMappingEnd then return []
    if !first then expect .flowEntry "expected a comma or a closing bracket"
    if ← accept .key then
      let k ← nodeUnless n .flow [.value, .flowEntry, .flowMappingEnd]
      let x ← valueAfter n .flow [.flowEntry, .flowMappingEnd]
      return (k, x) :: (← flowPairs n false)
    else if ← accept .flowMappingEnd then return []
    else
      let k ← node n .flow
      let x ← empty
      return (k, x) :: (← flowPairs n false)

end

/-! ## Streams -/

/-- The root, without a node if the next document or the end of the stream follows. -/
def root (fuel : Nat) : Parse Nat := do
  match ← peek with
  | .directive _ => empty
  | t =>
    if [.documentStart, .documentEnd, .streamEnd].contains t then empty
    else node handles fuel .block

/-- The first document can begin without a mark. -/
def document (fuel : Nat) : Parse Nat := do
  match ← peek with
  | .streamEnd => empty
  | .directive _ =>
    let handles ← directives fuel false []
    expect .documentStart "expected the start of a document"
    root (handles ++ usualHandles) fuel
  | _ =>
    if ← accept .documentStart then root usualHandles fuel
    else node usualHandles fuel .block

def skipEnds : Nat → Parse Unit
  | 0 => return
  | n + 1 => do
    if ← accept .documentEnd then skipEnds n

/-- Whether the stream is over; a second document is one too many. -/
def finish (fuel : Nat) : Parse Unit := do
  skipEnds fuel
  if (← peek) != .streamEnd then
    let _ ← directives fuel false []
    expect .documentStart "expected the start of a document"
    fail "expected a single document"

end Parse

/-- The document of a stream; an empty stream counts as an empty node. -/
def Document.ofTokens (ts : List Token) : Except Defect Document := do
  let fuel := 4 * ts.length + 4
  let (root, s) ← (Parse.document fuel <* Parse.finish fuel).run ⟨ts, #[], [], 0⟩
  return ⟨s.nodes, root⟩

end SetupScript.Yaml
