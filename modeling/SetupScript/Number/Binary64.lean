import SetupScript.Number.Power

/-!
# Binary floating point numbers

Numbers of 64 bits: a sign, a significand of 53 bits and a power of two, the two infinities, and
values that are no number. `ofRatio` rounds a quotient of naturals to the nearest such number, and
of two nearest ones to that with the even significand.
-/

namespace SetupScript

structure Binary64 where
  bits : UInt64
deriving DecidableEq

namespace Binary64

/-- What the bits stand for; a finite number is `significand * 2 ^ exponent`. -/
inductive Meaning where
  | finite (negative : Bool) (significand : Nat) (exponent : Int)
  | infinite (negative : Bool)
  | notANumber

def meaning (x : Binary64) : Meaning :=
  let n := x.bits.toNat
  let negative := n / twoTo 63 == 1
  let field : Nat := n / twoTo 52 % twoTo 11
  let fraction := n % twoTo 52
  if field == 2047 then if fraction == 0 then .infinite negative else .notANumber
  else if field == 0 then .finite negative fraction (-1074)
  else .finite negative (twoTo 52 + fraction) ((field : Int) - 1075)

/-- The number with the given bits below the sign. -/
def withSign (negative : Bool) (low : Nat) : Binary64 :=
  ⟨UInt64.ofNat (if negative then twoTo 63 + low else low)⟩

def infinity (negative : Bool) : Binary64 := withSign negative (2047 * twoTo 52)

def nan : Binary64 := withSign false (2047 * twoTo 52 + twoTo 51)

def zero (negative : Bool) : Binary64 := withSign negative 0

/-- The quotient rounded to a whole number, a half to the even neighbour. -/
def roundHalfEven (num den : Nat) : Nat :=
  let q := num / den
  let r := num % den
  if 2 * r < den then q
  else if 2 * r > den then q + 1
  else q + q % 2

/-- The number nearest to `num / den`; too large quotients give infinity. -/
def ofRatio (negative : Bool) (num den : Nat) : Binary64 :=
  if num == 0 || den == 0 then zero negative
  else
    let estimate : Int := (Nat.log2 num : Int) - Nat.log2 den
    let below := if estimate ≥ 0 then num < den * twoTo estimate.toNat
      else num * twoTo (-estimate).toNat < den
    let magnitude := if below then estimate - 1 else estimate
    let exponent := max (-1074) (magnitude - 52)
    let m := if exponent ≥ 0 then roundHalfEven num (den * twoTo exponent.toNat)
      else roundHalfEven (num * twoTo (-exponent).toNat) den
    let low := if m < twoTo 52 then m
      else (exponent + 1075).toNat * twoTo 52 + (m - twoTo 52)
    if low < 2047 * twoTo 52 then withSign negative low else infinity negative

/-- The number nearest to `digits * 10 ^ exponent`. -/
def ofDecimal (negative : Bool) (digits : Nat) (exponent : Int) : Binary64 :=
  let size : Int := (Nat.toDigits 10 digits).length + exponent
  if digits == 0 || size < -330 then zero negative
  else if size > 310 then infinity negative
  else if exponent ≥ 0 then ofRatio negative (digits * tenTo exponent.toNat) 1
  else ofRatio negative digits (tenTo (-exponent).toNat)

def isZero (x : Binary64) : Bool :=
  match x.meaning with
  | .finite _ 0 _ => true
  | _ => false

/-- The integer that equals the number, if there is one. -/
def toInt? (x : Binary64) : Option Int :=
  match x.meaning with
  | .finite negative m e =>
    let magnitude := if e ≥ 0 then some (m * twoTo e.toNat)
      else if m % twoTo (-e).toNat == 0 then some (m / twoTo (-e).toNat)
      else none
    magnitude.map fun n => if negative then -(n : Int) else n
  | _ => none

/-- Zeros of either sign are the same, and no value that is no number is the same as any. -/
def same (x y : Binary64) : Bool :=
  match x.meaning, y.meaning with
  | .notANumber, _ => false
  | _, .notANumber => false
  | _, _ => x == y || (x.isZero && y.isZero)

end Binary64

end SetupScript
