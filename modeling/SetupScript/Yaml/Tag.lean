import SetupScript.Text.Pattern

/-!
# Tags

What kind of thing a node is. `Tag.ofName` reads a tag that is written out, and `Tag.ofPlain` finds
the tag of a plain text by the patterns of truth values, numbers, dates and the like.
-/

namespace SetupScript.Yaml

inductive Tag where
  | null
  | bool
  | int
  | float
  | binary
  | timestamp
  | text
  | orderedMap
  | pairs
  | set
  | sequence
  | mapping
  | merge
  | value
  | other (name : String)
deriving DecidableEq

namespace Tag

/-- Where the names of the common tags start. -/
def common : String := "tag:yaml.org,2002:"

def names : List (String × Tag) :=
  [("null", .null), ("bool", .bool), ("int", .int), ("float", .float), ("binary", .binary),
    ("timestamp", .timestamp), ("str", .text), ("omap", .orderedMap), ("pairs", .pairs),
    ("set", .set), ("seq", .sequence), ("map", .mapping), ("merge", .merge), ("value", .value)]

def ofName (name : String) : Tag :=
  match names.find? fun n => common ++ n.1 == name with
  | some (_, t) => t
  | none => .other name

/-- Tags whose nodes are read from a text. -/
def isScalar : Tag → Bool
  | null | bool | int | float | binary | timestamp | text => true
  | _ => false

/-- Tags whose nodes are read part by part. -/
def isCollection : Tag → Bool
  | sequence | mapping | set | orderedMap | pairs => true
  | _ => false

/-! ## Plain texts -/

section Patterns

open Text Text.Pattern

def nulls : Pattern := anyOf (["~", "null", "Null", "NULL", ""].map word)

def truthValues : Pattern :=
  anyOf (["yes", "Yes", "YES", "no", "No", "NO", "true", "True", "TRUE", "false", "False", "FALSE",
    "on", "On", "ON", "off", "Off", "OFF"].map word)

def sign : Pattern := maybe (oneOf "+-")

def digit : Pattern := between '0' '9'

def digits : Pattern := many (oneOf "0123456789_")

/-- Digits of a number that does not start with a zero. -/
def counted : Pattern := inOrder (between '1' '9') digits

/-- The parts of a number to base sixty after the first one. -/
def sixtieths : Pattern :=
  oneOrMore (inTurn [char ':', maybe (between '0' '5'), digit])

def integers : Pattern :=
  anyOf [
    inTurn [sign, word "0b", oneOrMore (oneOf "01_")],
    inTurn [sign, word "0", oneOrMore (oneOf "01234567_")],
    inOrder sign (eitherOf (word "0") counted),
    inTurn [sign, word "0x", oneOrMore (oneOf "0123456789abcdefABCDEF_")],
    inTurn [sign, counted, sixtieths]]

def powerOfTen : Pattern := maybe (inTurn [oneOf "eE", oneOf "+-", oneOrMore digit])

def reals : Pattern :=
  anyOf [
    inTurn [sign, digit, digits, char '.', digits, powerOfTen],
    inTurn [char '.', digit, digits, powerOfTen],
    inTurn [sign, digit, digits, sixtieths, char '.', digits],
    inTurn [sign, char '.', anyOf (["inf", "Inf", "INF"].map word)],
    inOrder (char '.') (anyOf (["nan", "NaN", "NAN"].map word))]

def twoDigits : Pattern := inOrder digit digit

def oneOrTwoDigits : Pattern := inOrder digit (maybe digit)

def year : Pattern := inOrder twoDigits twoDigits

def offset : Pattern :=
  eitherOf (char 'Z')
    (inTurn [oneOf "+-", oneOrTwoDigits, maybe (inOrder (char ':') twoDigits)])

def timestamps : Pattern :=
  anyOf [
    inTurn [year, char '-', twoDigits, char '-', twoDigits],
    inTurn [year, char '-', oneOrTwoDigits, char '-', oneOrTwoDigits,
      eitherOf (oneOf "Tt") (oneOrMore (oneOf " \t")),
      oneOrTwoDigits, char ':', twoDigits, char ':', twoDigits,
      maybe (inOrder (char '.') (many digit)),
      maybe (inOrder (many (oneOf " \t")) offset)]]

/-- The tags of plain texts and their patterns; the first pattern that accepts a text decides. -/
def resolvers : List (Pattern × Tag) :=
  [(truthValues, .bool), (reals, .float), (integers, .int), (word "<<", .merge), (nulls, .null),
    (timestamps, .timestamp), (word "=", .value),
    (oneOf "!&*", .other (common ++ "yaml"))]

end Patterns

/-- A line feed at the end of a text does not count, unless it is all there is. -/
def withoutFeed (cs : List Char) : List Char :=
  if 1 < cs.length && cs.getLast? == some '\n' then cs.dropLast else cs

def ofPlain (s : String) : Tag :=
  let cs := withoutFeed s.toList
  match resolvers.find? (·.1.accepts cs) with
  | some (_, t) => t
  | none => .text

end Tag

end SetupScript.Yaml
