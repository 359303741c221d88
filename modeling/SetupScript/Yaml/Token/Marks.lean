import SetupScript.Yaml.Token
import SetupScript.Yaml.Token.Text

/-!
# Scanning marks

Directives before a document, and the names and tags that stand before a node.
-/

namespace SetupScript.Yaml.Scan

/-- The name of an anchor or an alias, after its sign. -/
def anchorName : Scan String := do
  forward
  let name ← run isNameChar
  if name.isEmpty then fail "expected a name of letters, digits, hyphens and underscores"
  let c ← peek
  if endsWord c || ['?', ':', ',', ']', '\x7d', '%', '@', '\x60'].contains c then
    return String.ofList name
  else fail "expected the end of a name"

def isUriChar (c : Char) : Bool :=
  c.isAlphanum || ['-', ';', '/', '?', ':', '@', '&', '=', '+', '$', ',', '_', '.', '!', '~', '*',
    '\'', '(', ')', '[', ']'].contains c

/-- Bytes written by their codes, as many as follow each other. -/
def uriBytes : Nat → Scan (List UInt8)
  | 0 => return []
  | n + 1 => do
    if (← peek) == '%' then
      forward
      match hexNumber? [← peek, ← peekAt 1] with
      | none => fail "expected two hexadecimal digits"
      | some b =>
        skip 2
        return UInt8.ofNat b :: (← uriBytes n)
    else return []

def uriParts : Nat → Scan (List Char)
  | 0 => return []
  | n + 1 => do
    let part ← run isUriChar
    if (← peek) == '%' then
      match String.fromUTF8? ⟨(← uriBytes ((← left) + 1)).toArray⟩ with
      | none => fail "expected the bytes of a character"
      | some s => return part ++ s.toList ++ (← uriParts n)
    else return part

def uri : Scan String := do
  let cs ← uriParts ((← left) + 1)
  if cs.isEmpty then fail "expected a tag"
  return String.ofList cs

/-- One exclamation mark, or a word between two of them. -/
def tagHandle : Scan String := do
  if (← peek) != '!' then fail "expected an exclamation mark"
  if (← peekAt 1) == ' ' then
    forward
    return "!"
  else
    forward
    let name ← run isNameChar
    if (← peek) != '!' then fail "expected an exclamation mark"
    forward
    return String.ofList ('!' :: name ++ ['!'])

/-- Whether a second exclamation mark comes before the end of a tag. -/
def namesHandle : Scan Bool := do
  let name := ((← get).rest.drop 1).takeWhile fun c => !(endsItem c || c == '!')
  return (← peekAt (name.length + 1)) == '!'

def tag : Scan TagText := do
  let c ← peekAt 1
  let t ←
    if c == '<' then do
      skip 2
      let suffix ← uri
      if (← peek) != '>' then fail "expected the end of a tag"
      forward
      pure ⟨none, suffix⟩
    else if endsWord c then do
      forward
      pure ⟨none, "!"⟩
    else if ← namesHandle then do
      let handle ← tagHandle
      pure ⟨some handle, ← uri⟩
    else do
      forward
      pure ⟨some "!", ← uri⟩
  if endsItem (← peek) then return t
  else fail "expected a space after a tag"

/-- A number of a version; one with too many digits cannot be read. -/
def versionNumber : Scan Nat := do
  let ds ← run Char.isDigit
  if ds.isEmpty then fail "expected a number"
  if Text.digitLimit < ds.length then throw .scalarOutOfRange
  return ds.foldl (fun n d => 10 * n + (d.toNat - 48)) 0

def versionDirective : Scan Directive := do
  let _ ← run (· == ' ')
  let major ← versionNumber
  if (← peek) != '.' then fail "expected a point"
  forward
  let minor ← versionNumber
  if endsItem (← peek) then return .version major minor
  else fail "expected a number"

def handleDirective : Scan Directive := do
  let _ ← run (· == ' ')
  let handle ← tagHandle
  if (← peek) != ' ' then fail "expected a space"
  let _ ← run (· == ' ')
  let tagStart ← uri
  if endsItem (← peek) then return .handle handle tagStart
  else fail "expected a space"

def directive : Scan Directive := do
  forward
  let name ← run isNameChar
  if name.isEmpty then fail "expected the name of a directive"
  if !endsItem (← peek) then fail "expected the end of a name"
  let d ←
    if name == ['Y', 'A', 'M', 'L'] then versionDirective
    else if name == ['T', 'A', 'G'] then handleDirective
    else do
      let _ ← run (!endsLine ·)
      pure .other
  restOfLine
  return d

end SetupScript.Yaml.Scan
