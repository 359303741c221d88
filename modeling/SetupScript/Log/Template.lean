import SetupScript.Log.Record
import SetupScript.Number.Binary64
import SetupScript.Text.Alphanumeric
import SetupScript.Text.Blank
import SetupScript.Text.Decimal
import SetupScript.Text.Quoted

/-!
# Log templates

A template says how a record becomes a line: text with fields in it, each a percent sign, a name
in parentheses, optional flags, width and precision, and a letter for the kind of value. `parse`
cuts a template into pieces and `Template.line` fills them in.
-/

namespace SetupScript

structure FieldSpec where
  name : String
  flags : List Char
  width : Nat
  precision : Option Nat
  conversion : Char
deriving DecidableEq

/-- A broken piece is a percent sign that no field follows. -/
inductive Piece where
  | text (cs : List Char)
  | field (spec : FieldSpec)
  | broken
deriving DecidableEq

abbrev Template := List Piece

namespace Template

def isFlag (c : Char) : Bool := ['#', '0', '+', ' ', '-'].contains c

def isDigit (c : Char) : Bool := '0' ≤ c && c ≤ '9'

def number (cs : List Char) : Nat :=
  cs.foldl (fun n c => 10 * n + (c.toNat - 48)) 0

/-- The letters that stand for a kind of value, in either case; three letters beyond ASCII count as
the other case of such a letter. -/
def isConversion (c : Char) : Bool :=
  ['d', 'i', 'o', 'u', 'x', 'e', 'f', 'g', 'c', 'r', 's', 'a', '%'].contains c.toLower ||
    c == '\u0130' || c == '\u0131' || c == '\u017f'

def isAnyDigit (c : Char) : Bool := (Text.digitValue? c).isSome

/-- Drops a width or a precision, which may be left to the value. -/
def dropCount (cs : List Char) : List Char :=
  match cs with
  | '*' :: rest => rest
  | cs => cs.dropWhile isAnyDigit

/-- Drops a precision with the point before it. -/
def dropPrecision (cs : List Char) : List Char :=
  match cs with
  | '.' :: '*' :: rest => rest
  | '.' :: d :: rest => if isAnyDigit d then rest.dropWhile isAnyDigit else cs
  | _ => cs

/-- Whether what follows a percent sign is a field. -/
def isField (cs : List Char) : Bool :=
  match cs with
  | '(' :: rest =>
    !(rest.takeWhile Text.isNamePart).isEmpty &&
      match rest.dropWhile Text.isNamePart with
      | ')' :: rest => (dropPrecision (dropCount (rest.dropWhile isFlag))).head?.any isConversion
      | _ => false
  | _ => false

/-- A template is accepted when it holds a field somewhere. -/
def accepted : List Char → Bool
  | [] => false
  | c :: cs => (c == '%' && isField cs) || accepted cs

/-! ## Pieces -/

/-- Reads a precision; a point alone stands for zero. -/
def readPrecision (cs : List Char) : Option Nat × List Char :=
  match cs with
  | '.' :: rest => (some (number (rest.takeWhile isDigit)), rest.dropWhile isDigit)
  | cs => (none, cs)

/-- Sizes that a number has, which mean nothing here. -/
def dropSize (cs : List Char) : List Char :=
  match cs with
  | 'h' :: rest => rest
  | 'l' :: rest => rest
  | 'L' :: rest => rest
  | cs => cs

/-- Widths and precisions have to be numbers that a machine counts with. -/
def isCountable (width : Nat) (precision : Option Nat) : Bool :=
  width < twoTo 63 && precision.all (· < twoTo 31)

/-- Reads a field after its name; the rest of the template comes second. -/
def readSpec (name : String) (cs : List Char) : Piece × List Char :=
  let flags := cs.takeWhile isFlag
  let afterFlags := cs.drop flags.length
  let width := number (afterFlags.takeWhile isDigit)
  let (precision, afterPrecision) := readPrecision (afterFlags.dropWhile isDigit)
  match dropSize afterPrecision with
  | [] => (.broken, [])
  | c :: rest =>
    if !isCountable width precision then (.broken, [])
    else (.field ⟨name, flags, width, precision, c⟩, rest)

/-- Reads what follows a percent sign; the rest of the template comes second. -/
def readField (cs : List Char) : Piece × List Char :=
  match cs with
  | '%' :: rest => (.text ['%'], rest)
  | '(' :: rest =>
    match Text.cutFirst (· == ')') rest with
    | (name, some rest) => readSpec (String.ofList name) rest
    | (_, none) => (.broken, [])
  | _ => (.broken, [])

/-- Reads at most `n` pieces. -/
def pieces : Nat → List Char → Template
  | 0, _ => []
  | _ + 1, [] => []
  | n + 1, '%' :: cs =>
    let r := readField cs
    r.1 :: pieces n r.2
  | n + 1, c :: cs => .text [c] :: pieces n cs

/-- A template has no more pieces than characters. -/
def parse (s : String) : Template := pieces s.length s.toList

/-! ## Contents -/

/-- What a field of a record holds: a text, a number, or something that is written in one way. -/
inductive Content where
  | text (s : String)
  | number (n : Nat)
  | written (s : String)

def nothing : Content := .written "None"

def content? (stamp : String) (r : Record) (name : String) : Option Content :=
  match name with
  | "name" => some (.text r.logger)
  | "msg" => some (.text r.pattern)
  | "message" => some (.text r.message)
  | "args" => some (.written r.argumentList)
  | "levelname" => some (.text r.level.name)
  | "levelno" => some (.number r.level.number)
  | "asctime" => some (.text stamp)
  | "module" => some (.text r.origin.module)
  | "filename" => some (.text (r.origin.module ++ ".py"))
  | "funcName" => some (.text r.origin.function)
  | "lineno" => some (.number r.origin.line)
  | "threadName" => some (.text "MainThread")
  | "processName" => some (.text "MainProcess")
  | "exc_info" => some nothing
  | "exc_text" => some nothing
  | "stack_info" => some nothing
  | _ => none

/-- Fills up to the width, on the right of text that is set to the left. -/
def pad (spec : FieldSpec) (fill : Char) (sign body : List Char) : List Char :=
  let missing := spec.width - sign.length - (Text.units body).length
  if spec.flags.contains '-' then sign ++ body ++ List.replicate missing ' '
  else if fill == '0' then sign ++ List.replicate missing '0' ++ body
  else List.replicate missing ' ' ++ sign ++ body

def plainText : Content → List Char
  | .text s => s.toList
  | .number n => Nat.toDigits 10 n
  | .written s => s.toList

def quotedText : Content → List Char
  | .text s => (Text.quoted s).toList
  | c => plainText c

/-- Escapes what is beyond ASCII. -/
def asciiOnly (cs : List Char) : List Char :=
  cs.flatMap fun c => if c.toNat < 0x80 then [c] else Text.codeEscape c.toNat

def signOf (spec : FieldSpec) : List Char :=
  if spec.flags.contains '+' then ['+'] else if spec.flags.contains ' ' then [' '] else []

def fillOf (spec : FieldSpec) : Char := if spec.flags.contains '0' then '0' else ' '

def alternate (spec : FieldSpec) : Bool := spec.flags.contains '#'

/-! ## Whole numbers -/

def numeral (spec : FieldSpec) (mark digits : List Char) : List Char :=
  let least := (spec.precision.getD 0) - digits.length
  pad spec (fillOf spec) (signOf spec ++ if alternate spec then mark else [])
    (List.replicate least '0' ++ digits)

/-! ## Fractions -/

/-- The first `k + 1` digits of a number, rounded, and the power of ten of the first one. -/
def leading (n k : Nat) : List Char × Nat :=
  let ds := Nat.toDigits 10 n
  let power := ds.length - 1
  if power ≤ k then (ds ++ List.replicate (k - power) '0', power)
  else
    let rounded := Nat.toDigits 10 (Binary64.roundHalfEven n (tenTo (power - k)))
    (rounded.take (k + 1), if rounded.length ≤ k + 1 then power else power + 1)

/-- A point without places is left out, unless the alternate form is asked for. -/
def withPlaces (spec : FieldSpec) (whole places : List Char) : List Char :=
  whole ++ if places.isEmpty && !alternate spec then [] else '.' :: places

/-- Zeros at the end are left out, unless the alternate form is asked for. -/
def significant (spec : FieldSpec) (places : List Char) : List Char :=
  if alternate spec then places else Text.trimRight (· == '0') places

def exponent (mark : Char) (power : Nat) : List Char :=
  let ds := Nat.toDigits 10 power
  [mark, '+'] ++ List.replicate (2 - ds.length) '0' ++ ds

def fixed (spec : FieldSpec) (n : Nat) : List Char :=
  withPlaces spec (Nat.toDigits 10 n) (List.replicate (spec.precision.getD 6) '0')

def scientific (spec : FieldSpec) (mark : Char) (n : Nat) : List Char :=
  let (ds, power) := leading n (spec.precision.getD 6)
  withPlaces spec (ds.take 1) (ds.drop 1) ++ exponent mark power

/-- Fixed where all digits before the point are among the first ones, else scientific. -/
def general (spec : FieldSpec) (mark : Char) (n : Nat) : List Char :=
  let count := max 1 (spec.precision.getD 6)
  let (ds, power) := leading n (count - 1)
  if power < count then
    withPlaces spec (ds.take (power + 1)) (significant spec (ds.drop (power + 1)))
  else withPlaces spec (ds.take 1) (significant spec (ds.drop 1)) ++ exponent mark power

/-! ## Conversions -/

def convertNumber (spec : FieldSpec) (n : Nat) : Option (List Char) :=
  let whole := fun mark digits => some (numeral spec mark digits)
  let real := fun body => some (pad spec (fillOf spec) (signOf spec) body)
  match spec.conversion with
  | 'd' => whole [] (Nat.toDigits 10 n)
  | 'i' => whole [] (Nat.toDigits 10 n)
  | 'u' => whole [] (Nat.toDigits 10 n)
  | 'o' => whole ['0', 'o'] (Nat.toDigits 8 n)
  | 'x' => whole ['0', 'x'] (Nat.toDigits 16 n)
  | 'X' => whole ['0', 'X'] ((Nat.toDigits 16 n).map Char.toUpper)
  | 'f' => real (fixed spec n)
  | 'F' => real (fixed spec n)
  | 'e' => real (scientific spec 'e' n)
  | 'E' => real (scientific spec 'E' n)
  | 'g' => real (general spec 'e' n)
  | 'G' => real (general spec 'E' n)
  | 'c' => some (pad spec ' ' [] [Char.ofNat n])
  | _ => none

/-- The value of a field, or nothing where the kind of value does not fit. -/
def convert (spec : FieldSpec) (c : Content) : Option (List Char) :=
  let shown := fun cs : List Char => some (pad spec ' ' [] (match spec.precision with
    | some n => ((Text.units cs).take n).flatten
    | none => cs))
  match spec.conversion, c with
  | 's', c => shown (plainText c)
  | 'r', c => shown (quotedText c)
  | 'a', c => shown (asciiOnly (quotedText c))
  | _, .number n => convertNumber spec n
  | 'c', .text s =>
    if (Text.units s.toList).length == 1 then some (pad spec ' ' [] s.toList) else none
  | _, _ => none

def pieceText (stamp : String) (r : Record) : Piece → Option (List Char)
  | .text cs => some cs
  | .field spec => (content? stamp r spec.name).bind (convert spec)
  | .broken => none

/-- The line of a record, or nothing where a piece cannot be filled in. -/
def line (t : Template) (stamp : String) (r : Record) : Option String :=
  (t.mapM (pieceText stamp r)).map fun parts => String.ofList parts.flatten

end Template

end SetupScript
