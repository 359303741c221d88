import SetupScript.Value

/-!
# Scalars of values

`Value.scalars` lists the scalars in a value, however deep they are, keys among them. In a graph
each collection is visited once.
-/

namespace SetupScript

def Collection.scalars : Collection → List Scalar
  | .list xs => xs.filterMap Link.scalar?
  | .pair a b => [a, b].filterMap Link.scalar?
  | .set ss => ss
  | .map es => es.flatMap fun e => e.1 :: e.2.scalar?.toList

/-- The places of the collections that stand in a collection. -/
def Collection.places : Collection → List Nat
  | .list xs => xs.filterMap Link.place?
  | .pair a b => [a, b].filterMap Link.place?
  | .set _ => []
  | .map es => es.filterMap (·.2.place?)

namespace Graph

/-- The places that can be reached from some, besides those that are known. Each step settles one
link, so there are no more steps than links. -/
def reach (g : Graph) : Nat → (known todo : List Nat) → List Nat
  | 0, known, _ => known
  | _ + 1, known, [] => known
  | n + 1, known, p :: todo =>
    if known.contains p then reach g n known todo
    else reach g n (p :: known) ((g[p]?.map Collection.places).getD [] ++ todo)

def links (g : Graph) : Nat := g.foldl (fun n c => n + c.places.length) 0

def scalarsFrom (g : Graph) (place : Nat) : List Scalar :=
  (g.reach (g.links + 2) [] [place]).flatMap fun p => (g[p]?.map Collection.scalars).getD []

end Graph

mutual

def Value.scalars : Value → List Scalar
  | .scalar s => [s]
  | .list vs => Value.scalarsOfItems vs
  | .pair a b => a.scalars ++ b.scalars
  | .set ss => ss
  | .map fs => Value.scalarsOfFields fs
  | .inGraph g n => g.scalarsFrom n

def Value.scalarsOfItems : List Value → List Scalar
  | [] => []
  | v :: vs => v.scalars ++ Value.scalarsOfItems vs

def Value.scalarsOfFields : List (Scalar × Value) → List Scalar
  | [] => []
  | (k, v) :: fs => k :: v.scalars ++ Value.scalarsOfFields fs

end

end SetupScript
