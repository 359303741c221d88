import SetupScript.Number.Arithmetic
import SetupScript.Number.Numeral
import SetupScript.Text.Base64
import SetupScript.Text.Case
import SetupScript.Failure
import SetupScript.Yaml.Tag

/-!
# Scalars

The value that a text has under its tag. `Tag.read` refuses texts that are no value of the tag;
plain texts, whose tag follows from the text, can still be out of range.
-/

namespace SetupScript.Yaml

open Text

def truthWords : List (String × Bool) :=
  [("yes", true), ("no", false), ("true", true), ("false", false), ("on", true), ("off", false)]

def readTruth (s : String) : Except Defect Bool :=
  match truthWords.lookup (toLower s) with
  | some b => .ok b
  | none => .error .scalarNotTruth

def inRange {α : Type} : Option α → Except Defect α
  | some x => .ok x
  | none => .error .scalarOutOfRange

/-! ## Numbers -/

def withoutUnderscores (s : String) : List Char := s.toList.filter (· != '_')

/-- Underscores are left out, and a sign in front is told apart; something has to be there. -/
def signed (s : String) : Except Defect (Bool × List Char) :=
  match withoutUnderscores s with
  | [] => .error .scalarEmpty
  | cs => .ok (Numeral.sign cs)

/-- The digits of a number to base sixty, highest first. -/
def ofSixtieths (ds : List Int) : Int := ds.foldl (fun n d => 60 * n + d) 0

/-- A zero in front makes a number octal, unless a letter names another base. -/
def magnitude : List Char → Except Defect Int
  | [] => .error .scalarEmpty
  | ['0'] => .ok 0
  | '0' :: 'b' :: ds => inRange (Numeral.integer? 2 ds)
  | '0' :: 'x' :: ds => inRange (Numeral.integer? 16 ds)
  | '0' :: ds => inRange (Numeral.integer? 8 ('0' :: ds))
  | cs =>
    if cs.contains ':' then
      inRange (((splitAll (· == ':') cs).mapM (Numeral.integer? 10)).map ofSixtieths)
    else inRange (Numeral.integer? 10 cs)

def readInteger (s : String) : Except Defect Int := do
  let (negative, cs) ← signed s
  let n ← magnitude cs
  return if negative then -n else n

/-- Adds the digits of a number to base sixty, lowest first, to `sum`; `unit` is what the next one
counts. -/
def addSixtieths (sum : Binary64) (unit : Nat) : List Binary64 → Except Defect Binary64
  | [] => .ok sum
  | d :: ds =>
    let factor := Binary64.ofNat unit
    if factor.isInfinite then .error .scalarTooLarge
    else addSixtieths (sum.add (d.mul factor)) (unit * 60) ds

def infinityWord : List Char := ['.', 'i', 'n', 'f']

def nanWord : List Char := ['.', 'n', 'a', 'n']

/-- Whether a text spells the word for a value that is no number. -/
def isNanWord (s : String) : Bool :=
  match signed (toLower s) with
  | .ok (_, cs) => cs == nanWord
  | .error _ => false

def readReal (s : String) : Except Defect Binary64 := do
  let (negative, cs) ← signed (toLower s)
  let x ←
    if cs == infinityWord then .ok (Binary64.infinity false)
    else if cs == nanWord then .ok Binary64.nan
    else if cs.contains ':' then do
      let ds ← inRange ((splitAll (· == ':') cs).mapM Numeral.real?)
      addSixtieths (.zero false) 1 ds.reverse
    else inRange (Numeral.real? cs)
  return if negative then x.neg else x

/-! ## Dates -/

/-- Reads from the front of a text. -/
abbrev Reads := StateT (List Char) Option

namespace Reads

def digits (least most : Nat) : Reads Nat := do
  let cs ← get
  let ds := (cs.take most).takeWhile Char.isDigit
  if ds.length < least then failure
  set (cs.drop ds.length)
  return Numeral.ofDigits 10 (ds.map fun c => c.toNat - 48)

def char (p : Char → Bool) : Reads Char := do
  match ← get with
  | [] => failure
  | c :: cs =>
    if !p c then failure
    set cs
    return c

def blanks : Reads Nat := do
  let bs := (← get).takeWhile fun c => c == ' ' || c == '\t'
  modify (·.drop bs.length)
  return bs.length

/-- Microseconds; further digits are cut off. -/
def fraction : Reads Nat := do
  let ds := (← get).takeWhile Char.isDigit
  modify (·.drop ds.length)
  let kept := ds.take 6
  return Numeral.ofDigits 10 (kept.map fun c => c.toNat - 48) * tenTo (6 - kept.length)

/-- Seconds east of universal time. -/
def offset : Reads Int := do
  let c ← char fun c => c == 'Z' || c == '+' || c == '-'
  if c == 'Z' then return 0
  let hours ← digits 1 2
  let minutes : Nat ← (char (· == ':') *> digits 2 2) <|> pure 0
  let seconds : Int := (60 * hours + minutes) * 60
  return if c == '-' then -seconds else seconds

def date : Reads Date := do
  let year ← digits 4 4
  let _ ← char (· == '-')
  let month ← digits 1 2
  let _ ← char (· == '-')
  return ⟨year, month, ← digits 1 2⟩

def separator : Reads Unit := do
  if (← blanks) == 0 then
    let _ ← char fun c => c == 'T' || c == 't'

def moment (d : Date) : Reads Moment := do
  separator
  let hour ← digits 1 2
  let _ ← char (· == ':')
  let minute ← digits 2 2
  let _ ← char (· == ':')
  let second ← digits 2 2
  let micro : Nat ← (char (· == '.') *> fraction) <|> pure 0
  let zone ← (blanks *> some <$> offset) <|> pure none
  return ⟨d, hour, minute, second, micro, zone⟩

end Reads

/-- A date, or a moment where a time of day follows. -/
def dateOrMoment : Reads (Date ⊕ Moment) := do
  let d ← Reads.date
  if (← get).isEmpty then return .inl d
  else return .inr (← Reads.moment d)

def readTimestamp (s : String) : Except Defect Scalar :=
  match dateOrMoment.run (Tag.withoutFeed s.toList) with
  | some (.inl d, []) => if d.valid then .ok (.date d) else .error .scalarOutOfRange
  | some (.inr m, []) => if m.valid then .ok (.moment m) else .error .scalarOutOfRange
  | _ => .error .scalarNotMoment

/-! ## All tags -/

def readBytes (s : String) : Except Defect (List UInt8) :=
  if s.toList.any fun c => 0x7F < c.toNat then .error (.invalidYaml "expected ASCII characters")
  else match bytesOfBase64? s.toList with
    | some bs => .ok bs
    | none => .error (.invalidYaml "expected whole groups of base 64")

/-- Tags of collections and of parts of mappings have no texts. -/
def Tag.read (t : Tag) (s : String) : Except Defect Scalar :=
  match t with
  | .null => .ok .null
  | .bool => .bool <$> readTruth s
  | .int => .int <$> readInteger s
  | .float => .float <$> readReal s
  | .binary => .bytes <$> readBytes s
  | .timestamp => readTimestamp s
  | .text => .ok (.text s)
  | _ => .error (.invalidYaml "could not determine a constructor for the tag")

end SetupScript.Yaml
