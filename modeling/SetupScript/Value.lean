import SetupScript.Calendar
import SetupScript.Number.Binary64
import SetupScript.Text.CodePoints

/-!
# Descriptor values

What a project descriptor holds: scalars, lists, and mappings whose keys are scalars and whose
order is kept. Collections that are shared, or that hold themselves, stand in a graph, and
`Value.outermost` writes out one level of it. `Fields.field?` finds a field of a mapping;
`Fields.field` reads an absent field as null.
-/

namespace SetupScript

inductive Scalar where
  | null
  | bool (b : Bool)
  | int (n : Int)
  | float (x : Binary64)
  | text (s : String)
  | bytes (bs : List UInt8)
  | date (d : Date)
  | moment (m : Moment)
deriving DecidableEq, Inhabited

namespace Scalar

/-- The whole number that a scalar counts as among keys; truth values count as 0 and 1. -/
def toInt? : Scalar → Option Int
  | .bool b => some (if b then 1 else 0)
  | .int n => some n
  | .float x => x.toInt?
  | _ => none

/-- Whether two scalars are one key of a mapping. -/
def same : Scalar → Scalar → Bool
  | .float x, .float y => x.same y
  | .moment m, .moment n => m.same n
  | a, b =>
    a == b || match a.toInt?, b.toInt? with
      | some i, some j => i == j
      | _, _ => false

/-- Nulls, zeros, false and empty texts count as nothing. -/
def isNothing : Scalar → Bool
  | .null => true
  | .bool b => !b
  | .int n => n == 0
  | .float x => x.isZero
  | .text s => s.isEmpty
  | .bytes bs => bs.isEmpty
  | .date _ => false
  | .moment _ => false

end Scalar

/-- What stands in a collection of a graph: a scalar, or the collection at a place. -/
inductive Link where
  | scalar (s : Scalar)
  | place (n : Nat)
deriving DecidableEq

inductive Collection where
  | list (items : List Link)
  | pair (first second : Link)
  | set (items : List Scalar)
  | map (entries : List (Scalar × Link))
deriving DecidableEq

/-- Collections by their places. They can hold each other and themselves. -/
abbrev Graph := Array Collection

/-- A value written out, or the collection at a place of a graph. -/
inductive Value where
  | scalar (s : Scalar)
  | list (items : List Value)
  | pair (first second : Value)
  | set (items : List Scalar)
  | map (entries : List (Scalar × Value))
  | inGraph (g : Graph) (place : Nat)

/-- The fields of a mapping, in order. -/
abbrev Fields := List (Scalar × Value)

/-- The value that a link leads to. -/
def Link.within (g : Graph) : Link → Value
  | .scalar s => .scalar s
  | .place n => .inGraph g n

def Link.scalar? : Link → Option Scalar
  | .scalar s => some s
  | .place _ => none

def Link.place? : Link → Option Nat
  | .scalar _ => none
  | .place n => some n

/-- The collection with its parts in the same graph. -/
def Collection.within (g : Graph) : Collection → Value
  | .list xs => .list (xs.map (Link.within g))
  | .pair a b => .pair (a.within g) (b.within g)
  | .set ss => .set ss
  | .map es => .map (es.map fun e => (e.1, e.2.within g))

namespace Value

abbrev null : Value := .scalar .null

abbrev bool (b : Bool) : Value := .scalar (.bool b)

abbrev int (n : Int) : Value := .scalar (.int n)

abbrev text (s : String) : Value := .scalar (.text s)

instance : Inhabited Value := ⟨null⟩

/-- The same value, written out at least at its outside. -/
def outermost : Value → Value
  | .inGraph g n => (g[n]?.map (Collection.within g)).getD null
  | v => v

def isNull : Value → Bool
  | .scalar .null => true
  | _ => false

/-- Scalars that are nothing and empty collections. -/
def isNothing (v : Value) : Bool :=
  match v.outermost with
  | .scalar s => s.isNothing
  | .list xs => xs.isEmpty
  | .set xs => xs.isEmpty
  | .map es => es.isEmpty
  | _ => false

def text? : Value → Option String
  | .scalar (.text s) => some s
  | _ => none

def list? (v : Value) : Option (List Value) :=
  match v.outermost with
  | .list xs => some xs
  | _ => none

def fields? (v : Value) : Option Fields :=
  match v.outermost with
  | .map fs => some fs
  | _ => none

/-- What a value yields one by one: the characters of a text, the numbers of bytes, the items of a
collection, the keys of a mapping. -/
def items? (v : Value) : Option (List Value) :=
  match v.outermost with
  | .scalar (.text s) => some ((Text.units s.toList).map fun u => text (String.ofList u))
  | .scalar (.bytes bs) => some (bs.map fun b => int b.toNat)
  | .list xs => some xs
  | .pair a b => some [a, b]
  | .set xs => some (xs.map scalar)
  | .map es => some (es.map fun e => scalar e.1)
  | _ => none

end Value

namespace Fields

def field? (fs : Fields) (key : String) : Option Value :=
  (fs.find? fun f => f.1 == .text key).map (·.2)

def field (fs : Fields) (key : String) : Value :=
  (fs.field? key).getD .null

/-- A key that is there already keeps its place and spelling and gets the new value. -/
def put (fs : Fields) (key : Scalar) (v : Value) : Fields :=
  if fs.any (·.1.same key) then fs.map fun f => if f.1.same key then (f.1, v) else f
  else fs ++ [(key, v)]

end Fields

end SetupScript
