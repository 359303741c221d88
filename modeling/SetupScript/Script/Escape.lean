/-!
# Escapes in a script

Three ways of writing text where the script compiler reads signs: as the argument of a constant,
as a quoted value, and as a word among the arguments of a program.
-/

namespace SetupScript.Script

/-- The signs that end or split an argument of a constant are written by their codes, and an
ampersand is doubled. -/
def escapeChar (c : Char) : List Char :=
  if c == '%' then ['%', '2', '5']
  else if c == ',' then ['%', '2', 'c']
  else if c == '|' then ['%', '7', 'c']
  else if c == '\x7d' then ['%', '7', 'd']
  else if c == '&' then ['&', '&']
  else [c]

def constantArgument (s : String) : String :=
  String.ofList (s.toList.flatMap escapeChar)

/-- A quote inside a quoted value is written twice. -/
def doubleQuote (c : Char) : List Char :=
  if c == '"' then ['"', '"'] else [c]

/-- A constant that the installer replaces by its value. -/
def constant (name : String) : String := "\x7b" ++ name ++ "\x7d"

end SetupScript.Script
