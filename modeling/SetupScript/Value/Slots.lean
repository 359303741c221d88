import SetupScript.Value

/-!
# Order of sets

A set of numbers keeps them in a row of slots and lists them as they stand there, so it does not
list them as they were written. `Scalar.residue?` is where a number belongs, `Slots.put` finds a
free slot for it, and `inSlots` is the order that comes of it. Empty texts belong where zero does.
Sets with other members list them as written.
-/

namespace SetupScript

/-- Numbers that are equal modulo this prime belong to the same slot. -/
def residuePrime : Nat := twoTo 61 - 1

/-- The residue with its sign, as a word of 64 bits. Minus one belongs where minus two does. -/
def signedResidue (negative : Bool) (r : Nat) : Nat :=
  if !negative || r == 0 then r else twoTo 64 - (if r == 1 then 2 else r)

/-- The residue of a finite number is exact for fractions too, since two has an inverse. -/
def Binary64.residue? (x : Binary64) : Option Nat :=
  match x.meaning with
  | .finite negative m e =>
    some (signedResidue negative (m * twoTo (e % 61).toNat % residuePrime))
  | .infinite negative => some (signedResidue negative 314159)
  | .notANumber => none

def Scalar.residue? : Scalar → Option Nat
  | .bool b => some (if b then 1 else 0)
  | .int n => some (signedResidue (n < 0) (n.natAbs % residuePrime))
  | .float x => x.residue?
  | .text "" => some 0
  | .bytes [] => some 0
  | _ => none

/-- A row of slots, some of which hold a member. Their number is a power of two. -/
abbrev Slots := Array (Option Scalar)

namespace Slots

/-- The least power of two above a number, if the fuel suffices to reach it from `size`. -/
def sizeAbove (n : Nat) : (fuel size : Nat) → Nat
  | 0, size => size
  | fuel + 1, size => if size ≤ n then sizeAbove n fuel (2 * size) else size

/-- Eight slots hold up to four members; more members have more than two slots each. -/
def empty (members : Nat) : Slots :=
  Array.replicate (if members ≤ 4 then 8 else sizeAbove (2 * members) members 8) none

def isFree (row : Slots) (slot : Nat) : Bool := row[slot]?.join.isNone

/-- The first free slot from a slot on, which looks at nine more if the row has so many. -/
def freeFrom? (row : Slots) (slot : Nat) : Option Nat :=
  (List.range' slot (if slot + 9 < row.size then 10 else 1)).find? row.isFree

/-- Goes on from slot to slot until one is free. Five digits of the residue, in base two, leave at
each step; when none are left the steps go round the whole row. -/
def put (row : Slots) (x : Scalar) : (fuel residue slot : Nat) → Slots
  | 0, _, _ => row
  | fuel + 1, residue, slot =>
    match row.freeFrom? slot with
    | some i => row.setIfInBounds i (some x)
    | none =>
      let rest := residue / 32
      put row x fuel rest ((5 * slot + 1 + rest) % row.size)

def insert (row : Slots) (x : Scalar × Nat) : Slots :=
  row.put x.1 (row.size + 13) x.2 (x.2 % row.size)

end Slots

/-- The members of a set in the order in which it lists them. -/
def inSlots (members : List Scalar) : List Scalar :=
  match members.mapM fun s => s.residue?.map fun r => (s, r) with
  | none => members
  | some placed =>
    let row := placed.foldl Slots.insert (Slots.empty placed.length)
    row.toList.filterMap id

end SetupScript
