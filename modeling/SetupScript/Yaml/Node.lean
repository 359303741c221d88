import SetupScript.Yaml.Tag

/-!
# Nodes

The nodes of a document. An alias names a node that is there already, so a node can stand in
several collections and in itself; the collections therefore hold the numbers of nodes.
-/

namespace SetupScript.Yaml

inductive Content where
  | text (s : String)
  | sequence (items : List Nat)
  | mapping (pairs : List (Nat × Nat))

structure Node where
  tag : Tag
  content : Content

/-- Nodes by their numbers, and the number of the outermost one. -/
structure Document where
  nodes : Array Node
  root : Nat

namespace Content

/-- The pairs of a mapping; other nodes have none. -/
def pairs : Content → List (Nat × Nat)
  | .mapping ps => ps
  | _ => []

def isMapping : Content → Bool
  | .mapping _ => true
  | _ => false

end Content

/-- Stands where a node is left out. -/
def Node.empty : Node := ⟨.null, .text ""⟩

end SetupScript.Yaml
