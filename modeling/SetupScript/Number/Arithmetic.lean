import SetupScript.Number.Binary64

/-!
# Sums and products of binary numbers

Exact results, rounded once. An exact sum of zero is positive unless both parts are negative zeros.
-/

namespace SetupScript.Binary64

/-- The number nearest to `n * 2 ^ exponent`. -/
def ofScaled (negative : Bool) (n : Nat) (exponent : Int) : Binary64 :=
  if exponent ≥ 0 then ofRatio negative (n * twoTo exponent.toNat) 1
  else ofRatio negative n (twoTo (-exponent).toNat)

def neg (x : Binary64) : Binary64 :=
  match x.meaning with
  | .finite negative _ _ => withSign (!negative) (x.bits.toNat % twoTo 63)
  | .infinite negative => infinity (!negative)
  | .notANumber => nan

def ofNat (n : Nat) : Binary64 := ofScaled false n 0

def isInfinite (x : Binary64) : Bool :=
  match x.meaning with
  | .infinite _ => true
  | _ => false

def mul (x y : Binary64) : Binary64 :=
  match x.meaning, y.meaning with
  | .finite a m d, .finite b n e => ofScaled (a != b) (m * n) (d + e)
  | .finite a m _, .infinite b => if m == 0 then nan else infinity (a != b)
  | .infinite a, .finite b n _ => if n == 0 then nan else infinity (a != b)
  | .infinite a, .infinite b => infinity (a != b)
  | _, _ => nan

/-- The significand as an integer, at a lower power of two. -/
def aligned (negative : Bool) (m : Nat) (exponent least : Int) : Int :=
  let n : Int := (m * twoTo (exponent - least).toNat : Nat)
  if negative then -n else n

def add (x y : Binary64) : Binary64 :=
  match x.meaning, y.meaning with
  | .finite a m d, .finite b n e =>
    let least := min d e
    let sum := aligned a m d least + aligned b n e least
    if sum == 0 then zero (a && b) else ofScaled (sum < 0) sum.natAbs least
  | .finite _ _ _, .infinite b => infinity b
  | .infinite a, .finite _ _ _ => infinity a
  | .infinite a, .infinite b => if a == b then infinity a else nan
  | _, _ => nan

end SetupScript.Binary64
