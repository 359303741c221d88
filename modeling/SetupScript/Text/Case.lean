import SetupScript.Text.Blank
import SetupScript.Text.CaseTable

/-!
# Upper and lower case

Case forms of single characters and of texts. A character's upper form can be longer than one
character; forms that depend on the neighbours are left out, as they never turn a letter into one
that a keyword is written with.
-/

namespace SetupScript.Text

def shifted (n : Nat) (d : Int) : Char :=
  Char.ofNat (Int.toNat (n + d))

def upper (c : Char) : List Char :=
  let n := c.toNat
  match upperRuns.find? (·.contains n) with
  | some r => [shifted n r.shift]
  | none =>
    match upperExpansions.find? (·.1 == n) with
    | some (_, ms) => ms.map Char.ofNat
    | none => [c]

/-- The dotted capital I alone has a lower form of two characters. -/
def lower (c : Char) : List Char :=
  let n := c.toNat
  if n == 0x130 then ['i', Char.ofNat 0x307]
  else match lowerRuns.find? (·.contains n) with
    | some r => [shifted n r.shift]
    | none => [c]

def toUpper (s : String) : String :=
  String.ofList (s.toList.flatMap upper)

def toLower (s : String) : String :=
  String.ofList (s.toList.flatMap lower)

/-- Only the first character is put into its upper form. -/
def capitalizeList : List Char → List Char
  | [] => []
  | c :: cs => upper c ++ cs

def capitalize (s : String) : String :=
  String.ofList (capitalizeList s.toList)

/-- Hyphens, underscores and blanks separate the words of a name. -/
def isWordBreak (c : Char) : Bool :=
  c == '-' || c == '_' || isBlank c

/-- The words of a name, each with its first character in upper form, without what separated
them. -/
def joinedWords (s : String) : String :=
  String.ofList ((splitAll isWordBreak s.toList).flatMap capitalizeList)

end SetupScript.Text
