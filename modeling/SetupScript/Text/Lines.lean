/-!
# Line ends

Texts whose lines all end alike.
-/

namespace SetupScript.Text

/-- A carriage return, alone or before a line feed, ends a line as a line feed does. -/
def unifyLines : List Char → List Char
  | [] => []
  | '\r' :: '\n' :: cs => '\n' :: unifyLines cs
  | c :: cs => (if c == '\r' then '\n' else c) :: unifyLines cs

end SetupScript.Text
