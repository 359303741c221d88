import SetupScript.Number.Binary64

/-!
# Shortest decimal numerals

The decimal numeral with the fewest digits that rounds back to a binary number. `shortest` walks
the decimal grids from coarse to fine; on each it looks at the two neighbours of the value, and
the first grid with a neighbour inside the interval of numbers that round to the value wins.
-/

namespace SetupScript

namespace Shortest

/-- A positive number `num / den` with the ends `low` and `high`, over the same `den`, of the
numbers that round to it. -/
structure Interval where
  num : Nat
  den : Nat
  low : Nat
  high : Nat
  closed : Bool

/-- The gap below a power of two is half the gap above it. -/
def Interval.of (m : Nat) (e : Int) : Interval :=
  let scale := twoTo e.toNat
  let low := if m == twoTo 52 && e > -1074 then 4 * m - 1 else 4 * m - 2
  ⟨4 * m * scale, 4 * twoTo (-e).toNat, low * scale, (4 * m + 2) * scale, m % 2 == 0⟩

/-- Whether `n * 10 ^ k` lies in the interval. -/
def Interval.holds (i : Interval) (n : Nat) (k : Int) : Bool :=
  let point := n * tenTo k.toNat * i.den
  let unit := tenTo (-k).toNat
  if i.closed then i.low * unit ≤ point && point ≤ i.high * unit
  else i.low * unit < point && point < i.high * unit

/-- The number of digits before the decimal point, or less the number of zeros that follow it. -/
def pointPlace (num den : Nat) : Int :=
  if den ≤ num then (Nat.toDigits 10 (num / den)).length
  else
    let zeros := ((List.range 400).find? fun j => decide (den ≤ num * tenTo (j + 1))).getD 0
    Int.neg zeros

/-- The better of the value's neighbours on the grid of multiples of `10 ^ k`. -/
def onGrid (i : Interval) (k : Int) : Option Nat :=
  let num := i.num * tenTo (-k).toNat
  let den := i.den * tenTo k.toNat
  let down := num / den
  let rest := num % den
  match i.holds down k, i.holds (down + 1) k with
  | true, true =>
    if 2 * rest < den then some down
    else if 2 * rest > den then some (down + 1)
    else some (down + down % 2)
  | true, false => some down
  | false, true => some (down + 1)
  | false, false => none

/-- Digits and the place of the point among them; seventeen digits are always enough. -/
def shortest (m : Nat) (e : Int) : List Char × Int :=
  let i := Interval.of m e
  let place := pointPlace i.num i.den
  let hit := (List.range 17).findSome? fun j =>
    let k := place - ((j : Nat) + 1 : Int)
    (onGrid i k).map fun n => (Nat.toDigits 10 n, k)
  match hit with
  | some (ds, k) =>
    (ds.reverse.dropWhile (· == '0') |>.reverse, k + ds.length)
  | none => (['0'], 1)

end Shortest

namespace Binary64

/-- Written with a point and at least one digit on either side of it from 0.0001 up to below
10^16, and else with a power of ten of at least two digits and a sign. -/
def decimalText (digits : List Char) (place : Int) : List Char :=
  if place ≤ -4 || place > 16 then
    let e := place - 1
    let ds := Nat.toDigits 10 e.natAbs
    let exponent := (if e < 0 then '-' else '+') :: (if ds.length < 2 then '0' :: ds else ds)
    match digits with
    | [] => []
    | [d] => d :: 'e' :: exponent
    | d :: rest => d :: '.' :: rest ++ 'e' :: exponent
  else if place ≤ 0 then
    '0' :: '.' :: List.replicate (-place).toNat '0' ++ digits
  else
    let before := digits.take place.toNat
    let after := digits.drop place.toNat
    before ++ List.replicate (place.toNat - before.length) '0' ++ '.' ::
      (if after.isEmpty then ['0'] else after)

def written (x : Binary64) : String :=
  match x.meaning with
  | .notANumber => "nan"
  | .infinite negative => if negative then "-inf" else "inf"
  | .finite negative m e =>
    let body := if m == 0 then ['0', '.', '0']
      else
        let d := Shortest.shortest m e
        decimalText d.1 d.2
    String.ofList (if negative then '-' :: body else body)

end Binary64

end SetupScript
