import SetupScript.Failure

/-!
# Tokens of a document

The pieces that a document is cut into. Indentation shows as start and end tokens of blocks. The
last token either ends the stream or tells what is wrong from there on.
-/

namespace SetupScript.Yaml

/-- A tag as written: a handle, unless the tag is written out, and what follows it. -/
structure TagText where
  handle : Option String
  suffix : String
deriving DecidableEq

inductive Directive where
  | version (major minor : Nat)
  | handle (name tagStart : String)
  | other
deriving DecidableEq

inductive Token where
  | streamEnd
  | broken (d : Defect)
  | directive (d : Directive)
  | documentStart
  | documentEnd
  | blockSequenceStart
  | blockMappingStart
  | blockEnd
  | flowSequenceStart
  | flowSequenceEnd
  | flowMappingStart
  | flowMappingEnd
  | blockEntry
  | flowEntry
  | key
  | value
  | alias (name : String)
  | anchor (name : String)
  | tag (t : TagText)
  | scalar (text : String) (plain : Bool)
deriving DecidableEq

end SetupScript.Yaml
