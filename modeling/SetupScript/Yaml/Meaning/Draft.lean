import SetupScript.Yaml.Node
import SetupScript.Yaml.Scalar

/-!
# Drafts of values

What has been read of a document at some time. A node that is met gets its value once: a scalar at
once, a collection as an empty one at a place of a graph, to be filled in later. `Drafting.link`
gives the value of a node.
-/

namespace SetupScript.Yaml

/-- The nodes, whose pairs and tags merging changes, the values of the nodes met so far, the
collections made for them, and the nodes whose collections are still empty, with their places. -/
structure Draft where
  nodes : Array Node
  links : Array (Option Link)
  graph : Graph
  waiting : Array (Nat × Nat)

abbrev Drafting := StateT Draft (Except Defect)

namespace Drafting

def fail {α : Type} (detail : String) : Drafting α := throw (.invalidYaml detail)

def node (n : Nat) : Drafting Node := return (← get).nodes[n]?.getD .empty

def tag (n : Nat) : Drafting Tag := return (← node n).tag

/-- The text of a node; that of a mapping is the text of its key `=`. Through aliases such a key
can lead back to its mapping, and then there is no end of it. -/
def textWithin : Nat → Nat → Drafting (Option String)
  | 0, _ => throw .nestedTooDeep
  | fuel + 1, n => do
    match (← node n).content with
    | .text s => return some s
    | .sequence _ => return none
    | .mapping ps =>
      match ← ps.findM? fun p => return (← tag p.1) == .value with
      | some (_, x) => textWithin fuel x
      | none => return none

def text (n : Nat) : Drafting (Option String) := do
  textWithin ((← get).nodes.size + 1) n

/-- Reads a node that is no collection. The text of a moment has to be its own. -/
def scalar (n : Nat) (x : Node) : Drafting Scalar := do
  if !x.tag.isScalar then fail "could not determine a constructor for the tag"
  match ← text n with
  | none => fail "expected a scalar node"
  | some s =>
    if x.tag == .timestamp && x.content.isMapping then throw .momentNotText
    else match x.tag.read s with
      | .ok v => return v
      | .error d => throw d

/-- Adds a collection to the graph. -/
def place (c : Collection) : Drafting Nat := do
  let d ← get
  set { d with graph := d.graph.push c }
  return d.graph.size

/-- The value of a node. -/
def link (n : Nat) : Drafting Link := do
  match (← get).links[n]?.join with
  | some l => return l
  | none =>
    let x ← node n
    let l ←
      if x.tag.isCollection then do
        let p ← place (.list [])
        modify fun d => { d with waiting := d.waiting.push (n, p) }
        pure (.place p)
      else .scalar <$> scalar n x
    modify fun d => { d with links := d.links.modify n fun _ => some l }
    return l

end Drafting

end SetupScript.Yaml
