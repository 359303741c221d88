/-!
# Base 64

Bytes written with 64 characters, each for six bits. Characters outside of the alphabet are passed
over, and equals signs that complete a group of four end the text.
-/

namespace SetupScript.Text

def sextet? (c : Char) : Option Nat :=
  if 'A' ≤ c && c ≤ 'Z' then some (c.toNat - 65)
  else if 'a' ≤ c && c ≤ 'z' then some (c.toNat - 71)
  else if '0' ≤ c && c ≤ '9' then some (c.toNat + 4)
  else if c == '+' then some 62
  else if c == '/' then some 63
  else none

/-- The sextets of a text; `filled` of them are in the open group, and `pads` equals signs came
since the last one. A group that stays open is refused. -/
def sextets? : List Char → (filled pads : Nat) → Option (List Nat)
  | [], filled, _ => if filled == 0 then some [] else none
  | c :: cs, filled, pads =>
    if c == '=' then
      if filled < 2 then sextets? cs filled pads
      else if 4 ≤ filled + pads + 1 then some []
      else sextets? cs filled (pads + 1)
    else match sextet? c with
      | none => sextets? cs filled pads
      | some x => (sextets? cs ((filled + 1) % 4) 0).map (x :: ·)

/-- Four sextets are three bytes, and a shorter last group one byte less than sextets. -/
def bytesOfSextets : List Nat → List UInt8
  | a :: b :: c :: d :: rest =>
    UInt8.ofNat (a * 4 + b / 16) :: UInt8.ofNat (b % 16 * 16 + c / 4) ::
      UInt8.ofNat (c % 4 * 64 + d) :: bytesOfSextets rest
  | [a, b, c] => [UInt8.ofNat (a * 4 + b / 16), UInt8.ofNat (b % 16 * 16 + c / 4)]
  | [a, b] => [UInt8.ofNat (a * 4 + b / 16)]
  | _ => []

def bytesOfBase64? (cs : List Char) : Option (List UInt8) :=
  (sextets? cs 0 0).map bytesOfSextets

end SetupScript.Text
