import SetupScript.Text.Pattern

/-!
# Well-formed identifiers and file names

The shapes that an application's id and its display name must have, as patterns. `fillsLine` is how
a pattern is put to a text: it may leave out one line feed at the very end.
-/

namespace SetupScript.Names

open Text Text.Pattern

def isHexDigit (c : Char) : Bool :=
  ('0' ≤ c && c ≤ '9') || ('a' ≤ c && c ≤ 'f') || ('A' ≤ c && c ≤ 'F')

def hexDigits (n : Nat) : Pattern := inTurn (List.replicate n (one isHexDigit))

/-- Five groups of hexadecimal digits with hyphens between them. -/
def uuid : Pattern :=
  inTurn [hexDigits 8, char '-', hexDigits 4, char '-', hexDigits 4, char '-', hexDigits 4,
    char '-', hexDigits 12]

def isUuid (cs : List Char) : Bool := uuid.accepts cs

/-- The characters that no file name can hold: control characters and those with a meaning in
paths and commands. -/
def isReserved (c : Char) : Bool :=
  c.toNat < 0x20 || ['<', '>', ':', '"', '/', '\\', '|', '?', '*'].contains c

/-- File names end neither in a dot nor in a space. -/
def isNameEnd (c : Char) : Bool := !isReserved c && c != '.' && c != ' '

def fileName : Pattern := inOrder (many (one (!isReserved ·))) (one isNameEnd)

/-- Whether a pattern accepts a text, or the text up to a line feed at its very end. -/
def fillsLine (p : Pattern) (cs : List Char) : Bool :=
  p.accepts cs || (cs.getLast? == some '\n' && p.accepts cs.dropLast)

def acceptsId (s : String) : Bool := fillsLine uuid s.toList

def acceptsName (s : String) : Bool := fillsLine fileName s.toList

end SetupScript.Names
