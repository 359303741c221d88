import SetupScript.Value.Slots
import SetupScript.Yaml.Document
import SetupScript.Yaml.Meaning.Merge

/-!
# Meaning of documents

The value of a document, or what is wrong in it. Values are read in rounds: what a collection holds
is read after everything that was met before the collection. So of several defects the outermost
ones come first.
-/

namespace SetupScript.Yaml

/-- A key of a mapping that is read, and the node that it comes from. -/
structure Key where
  scalar : Scalar
  origin : Option Nat

/-- Equal scalars are one key, and so is a scalar that equals nothing if it comes from one node. -/
def Key.same (a b : Key) : Bool := a.origin == b.origin || a.scalar.same b.scalar

/-- A key that is there already keeps its place and spelling and gets the new value. -/
def putKey (es : List (Key × Link)) (k : Key) (l : Link) : List (Key × Link) :=
  if es.any (·.1.same k) then es.map fun e => if e.1.same k then (e.1, l) else e
  else es ++ [(k, l)]

namespace Drafting

/-- Nodes that spell the word for a value that is no number all stand for the same one. -/
def key (n : Nat) : Drafting Key := do
  match ← link n with
  | .place _ => fail "found a key that is a collection"
  | .scalar s =>
    let common := (← tag n) == .float && (← text n).any isNanWord
    return ⟨s, if common then none else some n⟩

/-- The fields of a mapping. -/
def entries (n : Nat) : Drafting (List (Scalar × Link)) := do
  flatten n
  let es ← (← pairs n).foldlM (fun es p => do
    let k ← key p.1
    return putKey es k (← link p.2)) []
  return es.map fun e => (e.1.scalar, e.2)

/-- The only pair of a mapping, as an item of a list of pairs. -/
def onlyPair (n : Nat) : Drafting Link := do
  match (← node n).content with
  | .mapping [(k, x)] =>
    let first ← link k
    let second ← link x
    return .place (← place (.pair first second))
  | _ => fail "expected a mapping with one pair"

/-- What a collection holds, as its tag says. -/
def collection (n : Nat) : Drafting Collection := do
  let x ← node n
  match x.tag, x.content with
  | .sequence, .sequence xs => return .list (← xs.mapM link)
  | .mapping, .mapping _ => return .map (← entries n)
  | .set, .mapping _ => return .set (inSlots ((← entries n).map (·.1)))
  | .orderedMap, .sequence xs => return .list (← xs.mapM onlyPair)
  | .pairs, .sequence xs => return .list (← xs.mapM onlyPair)
  | _, _ => fail "expected a collection of another kind"

/-- Fills in the collection of a node at its place. -/
def fillIn (waiting : Nat × Nat) : Drafting Unit := do
  let c ← collection waiting.1
  modify fun d => { d with graph := d.graph.modify waiting.2 fun _ => c }

/-- Reads round by round until no collection waits. -/
def rounds : Nat → Drafting Unit
  | 0 => return
  | n + 1 => do
    let waiting := (← get).waiting
    if !waiting.isEmpty then
      modify fun d => { d with waiting := #[] }
      waiting.forM fillIn
      rounds n

end Drafting

/-- Each round fills in a collection, and each collection waits once. -/
def Document.meaning (x : Document) : Except Defect Value := do
  let start : Draft := ⟨x.nodes, x.nodes.map fun _ => none, #[], #[]⟩
  let (root, d) ← (Drafting.link x.root <* Drafting.rounds (x.nodes.size + 1)).run start
  return root.within d.graph

end SetupScript.Yaml
