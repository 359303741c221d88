import SetupScript.Text.Quoted

/-!
# Application ids

Ids made from random bytes: 32 digits to base sixteen in five groups, of which some bits say that
they are random.
-/

namespace SetupScript.Guid

/-- Puts the marks of a random id into its seventh and ninth byte. -/
def marked (place : Nat) (b : UInt8) : UInt8 :=
  if place == 6 then b % 16 + 64
  else if place == 8 then b % 64 + 128
  else b

/-- A hyphen follows the fourth, sixth, eighth and tenth byte. -/
def afterByte (place : Nat) : List Char :=
  if [3, 5, 7, 9].contains place then ['-'] else []

def text (bytes : List UInt8) : String :=
  String.ofList (bytes.zipIdx.flatMap fun (b, place) =>
    Text.hexDigits 2 (marked place b).toNat ++ afterByte place)

end SetupScript.Guid
