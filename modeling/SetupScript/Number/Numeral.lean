import SetupScript.Number.Binary64
import SetupScript.Text.Blank
import SetupScript.Text.Decimal

/-!
# Numerals

Numbers read from text, with blanks around them and digits of any script. `Numeral.integer?` reads
whole numbers to a base and `Numeral.real?` reads decimal fractions.
-/

namespace SetupScript.Numeral

/-- Removes a sign and tells whether it is a minus. -/
def sign : List Char → Bool × List Char
  | '-' :: cs => (true, cs)
  | '+' :: cs => (false, cs)
  | cs => (false, cs)

/-- Letters continue the digits after nine. -/
def digit? (base : Nat) (c : Char) : Option Nat :=
  let value := match Text.digitValue? c with
    | some n => some n
    | none =>
      if 'a' ≤ c && c ≤ 'z' then some (c.toNat - 87)
      else if 'A' ≤ c && c ≤ 'Z' then some (c.toNat - 55)
      else none
  value.filter (· < base)

def ofDigits (base : Nat) (ds : List Nat) : Nat :=
  ds.foldl (fun n d => base * n + d) 0

/-- The letters that follow a zero before the digits to a base. -/
def baseLetters : Nat → List Char
  | 2 => ['b', 'B']
  | 8 => ['o', 'O']
  | 16 => ['x', 'X']
  | _ => []

def dropBase (base : Nat) : List Char → List Char
  | '0' :: c :: cs => if (baseLetters base).contains c then cs else '0' :: c :: cs
  | cs => cs

/-- Blanks at the ends of a numeral; the four separators of ASCII are none. -/
def isBlank (c : Char) : Bool := Text.isBlank c && !('\x1c' ≤ c && c ≤ '\x1f')

/-- Decimal numerals can be too long to be read. -/
def integer? (base : Nat) (s : List Char) : Option Int := do
  let (negative, cs) := sign (Text.trim isBlank s)
  let ds ← (dropBase base cs).mapM (digit? base)
  if ds.isEmpty || (base == 10 && Text.digitLimit < ds.length) then none
  let n : Int := ofDigits base ds
  return if negative then -n else n

/-- A power of ten, which is 0 when nothing is written. -/
def exponent? : List Char → Option Int
  | [] => some 0
  | c :: cs => do
    if c != 'e' && c != 'E' then none
    let (negative, cs) := sign cs
    let ds ← cs.mapM (digit? 10)
    if ds.isEmpty then none
    let n : Int := ofDigits 10 ds
    return if negative then -n else n

def isDigit (c : Char) : Bool := (digit? 10 c).isSome

def fractionPart : List Char → List Char × List Char
  | '.' :: cs => (cs.takeWhile isDigit, cs.dropWhile isDigit)
  | cs => ([], cs)

/-- Infinities and values that are no number are written as words. -/
def real? (s : List Char) : Option Binary64 := do
  let (negative, cs) := sign (Text.trim isBlank s)
  let word := String.ofList (cs.map Char.toLower)
  if word == "inf" || word == "infinity" then return .infinity negative
  if word == "nan" then return .nan
  let whole := cs.takeWhile isDigit
  let (fraction, cs) := fractionPart (cs.dropWhile isDigit)
  let exponent ← exponent? cs
  let ds ← (whole ++ fraction).mapM (digit? 10)
  if ds.isEmpty then none
  return .ofDecimal negative (ofDigits 10 ds) (exponent - fraction.length)

end SetupScript.Numeral
