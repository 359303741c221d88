import SetupScript.Number.Shortest
import SetupScript.Text.Decimal
import SetupScript.Text.Quoted
import SetupScript.Value.Scalars

/-!
# Values in messages

How a message shows a value that it refuses: texts quoted, lists in brackets, mappings in braces,
dates and moments by their parts, and dots for a collection within itself. `Value.isWritable` tells
whether whole numbers have too many digits for a text. The other limit is left out: a value that
aliases nest some thousand levels deep has a text here, but none where the depth of a recursion is
bounded, as it is for reading (`Yaml.Parse.depthLimit`).
-/

namespace SetupScript

def joinComma (parts : List String) : String :=
  ", ".intercalate parts

def Date.written (d : Date) : String :=
  "datetime.date(" ++ joinComma [toString d.year, toString d.month, toString d.day] ++ ")"

/-- An offset is shown as whole days, which can be negative, and the seconds beyond them. -/
def offsetWritten (seconds : Int) : String :=
  if seconds == 0 then "datetime.timezone.utc"
  else
    let days := seconds.fdiv 86400
    let rest := seconds.fmod 86400
    let parts := (if days == 0 then [] else ["days=" ++ toString days]) ++
      (if rest == 0 then [] else ["seconds=" ++ toString rest])
    "datetime.timezone(datetime.timedelta(" ++ joinComma parts ++ "))"

/-- Seconds and microseconds are left out where only zeros follow. -/
def Moment.written (m : Moment) : String :=
  let minutes := [m.date.year, m.date.month, m.date.day, m.hour, m.minute]
  let numbers := if m.microsecond != 0 then minutes ++ [m.second, m.microsecond]
    else if m.second != 0 then minutes ++ [m.second]
    else minutes
  let zone := match m.offset with
    | none => []
    | some o => ["tzinfo=" ++ offsetWritten o]
  "datetime.datetime(" ++ joinComma (numbers.map toString ++ zone) ++ ")"

def Scalar.written : Scalar → String
  | .null => "None"
  | .bool true => "True"
  | .bool false => "False"
  | .int n => toString n
  | .float x => x.written
  | .text s => Text.quoted s
  | .bytes bs => Text.quotedBytes bs
  | .date d => d.written
  | .moment m => m.written

def inBrackets (parts : List String) : String := "[" ++ joinComma parts ++ "]"

def inParentheses (parts : List String) : String := "(" ++ joinComma parts ++ ")"

def inBraces (parts : List String) : String := "\x7b" ++ joinComma parts ++ "\x7d"

def writtenSet (ss : List Scalar) : String :=
  if ss.isEmpty then "set()" else inBraces (ss.map Scalar.written)

/-! ## Graphs -/

/-- The text of a collection whose parts have the texts that `f` gives them. -/
def Collection.writtenWith (f : Link → String) : Collection → String
  | .list xs => inBrackets (xs.map f)
  | .pair a b => inParentheses [f a, f b]
  | .set ss => writtenSet ss
  | .map es => inBraces (es.map fun e => e.1.written ++ ": " ++ f e.2)

/-- The text of a collection within itself. -/
def Collection.dots : Collection → String
  | .list _ => inBrackets ["..."]
  | .pair .. => inParentheses ["..."]
  | .set _ => inBraces ["..."]
  | .map _ => inBraces ["..."]

/-- The text of what stands in the collections at the places `around`. No more collections than
there are in the graph can stand in each other before one comes again. -/
def Graph.written (g : Graph) : Nat → (around : List Nat) → Link → String
  | _, _, .scalar s => s.written
  | 0, _, .place _ => ""
  | n + 1, around, .place p =>
    match g[p]? with
    | none => Scalar.null.written
    | some c => if around.contains p then c.dots else c.writtenWith (g.written n (p :: around))

/-! ## Values -/

mutual

def Value.written : Value → String
  | .scalar s => s.written
  | .list xs => inBrackets (Value.writtenItems xs)
  | .pair a b => inParentheses [a.written, b.written]
  | .set ss => writtenSet ss
  | .map es => inBraces (Value.writtenFields es)
  | .inGraph g n => g.written (g.size + 1) [] (.place n)

def Value.writtenItems : List Value → List String
  | [] => []
  | v :: vs => v.written :: Value.writtenItems vs

def Value.writtenFields : List (Scalar × Value) → List String
  | [] => []
  | f :: fs => Value.writtenField f :: Value.writtenFields fs

def Value.writtenField : Scalar × Value → String
  | (k, v) => k.written ++ ": " ++ v.written

end

/-! ## Limits -/

def isWritableNumber (n : Int) : Bool := n.natAbs < tenTo Text.digitLimit

def Scalar.isWritable : Scalar → Bool
  | .int n => isWritableNumber n
  | _ => true

def Value.isWritable (v : Value) : Bool := v.scalars.all Scalar.isWritable

end SetupScript
