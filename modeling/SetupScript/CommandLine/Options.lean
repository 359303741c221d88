import SetupScript.Text.Blank
import SetupScript.Text.Decimal
import SetupScript.Text.Quoted

/-!
# Options on a command line

Options are words that start with a hyphen. A long one can be cut short as long as one option
only begins that way, and its value follows an equals sign or is the next word. `read` sorts the
words of a command line into options with their values and words that no option takes.
-/

namespace SetupScript.CommandLine

/-- Of the options that are exclusive at most one can be given. -/
structure OptionSpec where
  names : List String
  takesValue : Bool
  exclusive : Bool
deriving DecidableEq

def OptionSpec.label (o : OptionSpec) : String := "/".intercalate o.names

def help : OptionSpec := ⟨["-h", "--help"], false, false⟩

inductive UsageError where
  | ambiguous (word : String) (options : List String)
  | valueMissing (option : OptionSpec)
  | valueIgnored (option : OptionSpec) (value : String)
  | conflict (option earlier : OptionSpec)
  | unknownCommand (word : String) (commands : List String)
  | commandMissing
  | unrecognized (words : List String)
deriving DecidableEq

namespace UsageError

def about (o : OptionSpec) (text : String) : String := "argument " ++ o.label ++ ": " ++ text

def message : UsageError → String
  | .ambiguous word options =>
    "ambiguous option: " ++ word ++ " could match " ++ ", ".intercalate options
  | .valueMissing o => about o "expected one argument"
  | .valueIgnored o value => about o ("ignored explicit argument " ++ Text.quoted value)
  | .conflict o earlier => about o ("not allowed with argument " ++ earlier.label)
  | .unknownCommand word commands => "argument command: invalid choice: " ++ Text.quoted word ++
      " (choose from " ++ ", ".intercalate (commands.map Text.quoted) ++ ")"
  | .commandMissing => "the following arguments are required: command"
  | .unrecognized words => "unrecognized arguments: " ++ " ".intercalate words

end UsageError

/-- A word of a command line: an option's name with a value after an equals sign, a word that
looks like an option but is none, or any other word. -/
inductive Word where
  | option (spec : OptionSpec) (name : String) (value : Option String)
  | unknown (text : String)
  | separator
  | operand (text : String)
deriving DecidableEq

def Word.text : Word → String
  | .option _ name none => name
  | .option _ name (some v) => name ++ "=" ++ v
  | .unknown s => s
  | .separator => "--"
  | .operand s => s

def isDigits (cs : List Char) : Bool := cs.all fun c => (Text.digitValue? c).isSome

/-- A text without the line feed that it may end in. -/
def withoutFeed (cs : List Char) : List Char :=
  if cs.getLast? == some '\n' then cs.dropLast else cs

/-- Numbers with a minus sign are not options. -/
def isNegativeNumber (cs : List Char) : Bool :=
  match withoutFeed cs with
  | '-' :: rest =>
    match Text.cutFirst (· == '.') rest with
    | (whole, none) => !whole.isEmpty && isDigits whole
    | (whole, some places) => isDigits whole && !places.isEmpty && isDigits places
  | _ => false

/-- All names with the options that they belong to, in order. -/
def allNames (specs : List OptionSpec) : List (String × OptionSpec) :=
  specs.flatMap fun o => o.names.map fun n => (n, o)

/-- A word cut at its first equals sign. -/
def cutValue (s : String) : String × Option String :=
  let r := Text.cutFirst (· == '=') s.toList
  (String.ofList r.1, r.2.map String.ofList)

/-- The options that a word can be short for. A short option's value may follow it directly. -/
def candidates (specs : List OptionSpec) (word : String) :
    List (OptionSpec × String × Option String) :=
  match word.toList with
  | '-' :: '-' :: _ =>
    let (stem, value) := cutValue word
    (allNames specs).filterMap fun (n, o) =>
      if stem.toList.isPrefixOf n.toList then some (o, n, value) else none
  | '-' :: c :: rest =>
    (allNames specs).filterMap fun (n, o) =>
      if n.toList == ['-', c] then some (o, n, some (String.ofList rest))
      else if word.toList.isPrefixOf n.toList then some (o, n, none)
      else none
  | _ => []

def classify (specs : List OptionSpec) (word : String) : Except UsageError Word :=
  match word.toList with
  | '-' :: _ :: _ =>
    match (allNames specs).lookup word with
    | some o => .ok (.option o word none)
    | none =>
      let (stem, value) := cutValue word
      match (allNames specs).lookup stem, value with
      | some o, some v => .ok (.option o stem (some v))
      | _, _ =>
        match candidates specs word with
        | [(o, n, v)] => .ok (.option o n v)
        | [] =>
          if isNegativeNumber word.toList || word.toList.contains ' ' then .ok (.operand word)
          else .ok (.unknown word)
        | several => .error (.ambiguous word (several.map fun c => c.2.1))
  | _ => .ok (.operand word)

/-- After two hyphens alone no word is an option. -/
def classifyAll (specs : List OptionSpec) : List String → Except UsageError (List Word)
  | [] => .ok []
  | w :: ws =>
    if w == "--" then .ok (.separator :: ws.map .operand)
    else do
      let word ← classify specs w
      return word :: (← classifyAll specs ws)

/-- Options in the order of the command line, and the words that none of them takes. -/
structure Reading where
  settings : List (OptionSpec × String)
  extras : List String

def Reading.empty : Reading := ⟨[], []⟩

def Reading.set (r : Reading) (o : OptionSpec) (value : String) : Reading :=
  { r with settings := r.settings ++ [(o, value)] }

def Reading.leave (r : Reading) (word : String) : Reading :=
  { r with extras := r.extras ++ [word] }

/-- The exclusive option given before that another one conflicts with. -/
def Reading.conflict? (r : Reading) (o : OptionSpec) : Option OptionSpec :=
  if o.exclusive then
    (r.settings.find? fun s => s.1.exclusive && s.1 != o).map (·.1)
  else none

def Reading.flag (r : Reading) (o : OptionSpec) : Except UsageError Reading :=
  match r.conflict? o with
  | some earlier => .error (.conflict o earlier)
  | none => .ok (r.set o "")

/-- Takes the words one by one; a help option ends the reading at once. -/
def readWords (r : Reading) : List Word → Except UsageError (Option Reading)
  | [] => .ok (some r)
  | .option o name value :: ws =>
    if o == help then
      match value with
      | none => .ok none
      | some v =>
        if name == "-h" && v.toList.all (· == 'h') && v != "" then .ok none
        else if name == "-h" then
          .error (.valueIgnored o (String.ofList (v.toList.dropWhile (· == 'h'))))
        else .error (.valueIgnored o v)
    else if o.takesValue then
      match value, ws with
      | some v, ws => readWords (r.set o v) ws
      | none, .operand v :: ws => readWords (r.set o v) ws
      | none, _ => .error (.valueMissing o)
    else
      match value with
      | some v => .error (.valueIgnored o v)
      | none => do readWords (← r.flag o) ws
  | w :: ws => readWords (r.leave w.text) ws

/-- The reading of a command line, or nothing when help is asked for. -/
def read (specs : List OptionSpec) (words : List String) : Except UsageError (Option Reading) := do
  readWords .empty (← classifyAll (help :: specs) words)

namespace Reading

/-- The value that an option was given last. -/
def value? (r : Reading) (o : OptionSpec) : Option String :=
  (r.settings.reverse.find? (·.1 == o)).map (·.2)

def has (r : Reading) (o : OptionSpec) : Bool := (r.value? o).isSome

end Reading

end SetupScript.CommandLine
