/-!
# Blanks

The characters that separate words, and cutting them off the ends of a text. `trim` and
`trimRight` are stated for any class of characters, so that line feeds can be cut off alone.
-/

namespace SetupScript.Text

/-- The white space of Unicode 14: the separators of words, lines and paragraphs. -/
def isBlank (c : Char) : Bool :=
  let n := c.toNat
  (9 ≤ n && n ≤ 13) || (28 ≤ n && n ≤ 32) || n == 0x85 || n == 0xA0 || n == 0x1680 ||
    (0x2000 ≤ n && n ≤ 0x200A) || n == 0x2028 || n == 0x2029 || n == 0x202F || n == 0x205F ||
    n == 0x3000

variable {α : Type}

/-- Drops the longest end whose elements all satisfy `p`. -/
def trimRight (p : α → Bool) (xs : List α) : List α :=
  (xs.reverse.dropWhile p).reverse

def trim (p : α → Bool) (xs : List α) : List α :=
  trimRight p (xs.dropWhile p)

/-- Cuts at every element that satisfies `p`; there is one piece more than cuts. -/
def splitAll (p : α → Bool) : List α → List (List α)
  | [] => [[]]
  | x :: xs =>
    if p x then [] :: splitAll p xs
    else match splitAll p xs with
      | [] => [[x]]
      | w :: ws => (x :: w) :: ws

/-- Cuts at the first element that satisfies `p` and drops it. -/
def cutFirst (p : α → Bool) : List α → List α × Option (List α)
  | [] => ([], none)
  | x :: xs =>
    if p x then ([], some xs)
    else
      let r := cutFirst p xs
      (x :: r.1, r.2)

/-- The text without the blanks at both ends. -/
def strip (s : String) : String :=
  String.ofList (trim isBlank s.toList)

/-- The text without the blanks at its end. -/
def stripRight (s : String) : String :=
  String.ofList (trimRight isBlank s.toList)

/-- The text without the line feeds at both ends. -/
def stripLines (s : String) : String :=
  String.ofList (trim (· == '\n') s.toList)

end SetupScript.Text
