import SetupScript.Text.CodePoints
import SetupScript.Text.Printable

/-!
# Quoted text

A text between quotes, with the backslash, the closing quote and every character that cannot be
printed written as an escape. `quoteFor` picks the quote: the double one only where it saves
escapes.
-/

namespace SetupScript.Text

def hexDigit (n : Nat) : Char :=
  if n < 10 then Char.ofNat (48 + n) else Char.ofNat (87 + n)

/-- The lowest `width` digits to base sixteen, highest first. -/
def hexDigits (width n : Nat) : List Char :=
  match width with
  | 0 => []
  | w + 1 => hexDigits w (n / 16) ++ [hexDigit (n % 16)]

/-- An escape has two, four or eight digits, as few as hold the code point. -/
def codeEscape (n : Nat) : List Char :=
  if n < 0x100 then '\\' :: 'x' :: hexDigits 2 n
  else if n < 0x10000 then '\\' :: 'u' :: hexDigits 4 n
  else '\\' :: 'U' :: hexDigits 8 n

def quoteFor (hasSingle hasDouble : Bool) : Char :=
  if hasSingle && !hasDouble then '"' else '\''

def escapeIn (quote c : Char) : List Char :=
  if c == quote || c == '\\' then ['\\', c]
  else if c == '\t' then ['\\', 't']
  else if c == '\n' then ['\\', 'n']
  else if c == '\r' then ['\\', 'r']
  else if isPrintable c then [c]
  else codeEscape c.toNat

/-- A surrogate has only its escape, and so has a mark. -/
def escapeUnit (quote : Char) : List Char → List Char
  | [c] => escapeIn quote c
  | u => codeEscape (codeOf u)

def quoted (s : String) : String :=
  let cs := s.toList
  let q := quoteFor (cs.contains '\'') (cs.contains '"')
  String.ofList (q :: (units cs).flatMap (escapeUnit q) ++ [q])

/-- Bytes are quoted as the characters of their codes, of which those above 126 are escaped. -/
def quotedBytes (bs : List UInt8) : String :=
  let cs := bs.map fun b => Char.ofNat b.toNat
  let q := quoteFor (cs.contains '\'') (cs.contains '"')
  let escape := fun c : Char => if c.toNat < 0x7F then escapeIn q c else codeEscape c.toNat
  String.ofList ('b' :: q :: cs.flatMap escape ++ [q])

end SetupScript.Text
