/-!
# Texts as code points

A text is a row of code points, among them surrogates, which are no characters. Such a text is kept
as a string in which `mark` and a character after it stand for a surrogate, and two marks for one.
`codes` reads a string in this way, and `ofCodes` writes it.

Surrogates come from escapes, and from the names of files: there each byte that is part of no
character is one of the surrogates from DC80 to DCFF (`ofBytes`). Such a name can be passed to the
system again (`isNameable`), but a text that holds any surrogate cannot be written to a file
(`isEncodable`). Two surrogates stay two, also where together they could spell a character.
-/

namespace SetupScript.Text

/-- The last code point before the surrogates, to which no character is assigned. -/
def mark : Char := '\ud7ff'

def isSurrogate (n : Nat) : Bool := 0xD800 ≤ n && n ≤ 0xDFFF

/-- How far above a surrogate the character lies that stands for it after a mark. -/
def standInOffset : Nat := 0x800

def isStandIn (c : Char) : Bool := isSurrogate (c.toNat - standInOffset)

/-- The characters that stand for a code point. -/
def ofCode (n : Nat) : List Char :=
  if isSurrogate n then [mark, Char.ofNat (n + standInOffset)]
  else if Char.ofNat n == mark then [mark, mark]
  else [Char.ofNat n]

def ofCodes (ns : List Nat) : String := String.ofList (ns.flatMap ofCode)

/-- The text of characters that stand for themselves. -/
def ofChars (cs : List Char) : List Char := cs.flatMap fun c => ofCode c.toNat

/-- Cuts a text into pieces that stand for one code point each. -/
def units : List Char → List (List Char)
  | [] => []
  | [c] => [[c]]
  | c :: d :: cs =>
    if c == mark && (d == mark || isStandIn d) then [c, d] :: units cs else [c] :: units (d :: cs)

def codeOf : List Char → Nat
  | [c] => c.toNat
  | [_, d] => if isStandIn d then d.toNat - standInOffset else d.toNat
  | _ => 0

def codes (s : String) : List Nat := (units s.toList).map codeOf

/-! ## Files -/

/-- Whether there are bytes for a text. -/
def isEncodable (s : String) : Bool := (codes s).all fun n => !isSurrogate n

/-- The bytes of a text, none if it holds a surrogate. -/
def toBytes (s : String) : ByteArray :=
  if isEncodable s then (String.ofList ((codes s).map Char.ofNat)).toUTF8 else ByteArray.empty

/-! ## Names of files -/

/-- The surrogate that stands for a byte. -/
def byteCode (b : UInt8) : Nat := 0xDC00 + b.toNat

def isByteCode (n : Nat) : Bool := 0xDC80 ≤ n && n ≤ 0xDCFF

/-- The code points that bytes spell from place `i` on, bytes that are part of no character by
their surrogates. -/
def codesFrom (bytes : ByteArray) : Nat → Nat → List Nat
  | 0, _ => []
  | n + 1, i =>
    match bytes.utf8DecodeChar? i, bytes.data[i]? with
    | some c, _ => c.toNat :: codesFrom bytes n (i + c.utf8Size)
    | none, some b => byteCode b :: codesFrom bytes n (i + 1)
    | none, none => []

/-- The name that bytes spell. -/
def ofBytes (bytes : ByteArray) : String := ofCodes (codesFrom bytes bytes.size 0)

/-- Whether a name can be passed to the system, which takes all bytes but zeros. -/
def isNameable (s : String) : Bool :=
  (codes s).all fun n => n != 0 && (!isSurrogate n || isByteCode n)

def nameBytes (s : String) : List UInt8 :=
  (codes s).flatMap fun n =>
    if isByteCode n then [n.toUInt8] else String.utf8EncodeChar (Char.ofNat n)

def nameSize (s : String) : Nat := (nameBytes s).length

end SetupScript.Text
