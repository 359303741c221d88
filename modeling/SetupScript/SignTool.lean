import SetupScript.Failure

/-!
# Sign tool

The program that signs the files of an installer. The descriptor gives a command or a mapping of
fields, the command line can override the texts among them. `SignTool.check` finds the fault of
an option. `SignTool.parts` puts together what an option holds, whatever it is, and `SignTool.build`
makes the tool of an option without fault from it.
-/

namespace SetupScript

structure SignTool where
  name : String
  command : String
  params : String
  retryCount : Int
  retryDelay : Int
deriving DecidableEq

/-- What stands in the places of a tool's texts and numbers. -/
structure SignToolParts where
  name : Value
  command : Value
  params : Value
  retryCount : Value
  retryDelay : Value

/-- The texts that the command line puts in the place of the descriptor's. -/
structure SignToolOverrides where
  name : Option String
  command : Option String
  params : Option String
deriving DecidableEq

/-- A whole number that is not negative, called `label` in messages. -/
def naturalOf (label : String) : Value → Except Refusal Int
  | .scalar (.int n) => if n < 0 then .error (.negative label) else .ok n
  | _ => .error (.notInteger label)

namespace SignToolOverrides

def none : SignToolOverrides := ⟨.none, .none, .none⟩

def isEmpty (o : SignToolOverrides) : Bool :=
  o.name.isNone && o.command.isNone && o.params.isNone

end SignToolOverrides

namespace SignTool

def defaultName : String := "InnoBundleTool"

def defaultRetryCount : Int := 2

def defaultRetryDelay : Int := 500

/-- The lines of the script's setup section; blanks at the end of the first are cut off. -/
def directives (t : SignTool) : List String :=
  [Text.stripRight ("SignTool=" ++ t.name ++ " " ++ t.params),
    "SignToolRetryCount=" ++ toString t.retryCount,
    "SignToolRetryDelay=" ++ toString t.retryDelay]

/-- Whether both numbers can be written. -/
def isWritable (t : SignTool) : Bool :=
  isWritableNumber t.retryCount && isWritableNumber t.retryDelay

/-- The argument that tells the compiler what the tool's name stands for. -/
def compilerArgument (t : SignTool) : String := "/S" ++ t.name ++ "=" ++ t.command

/-- The fields of an option; a command alone is the shorthand for one field. -/
def fieldsOf? : Value → Option Fields
  | .scalar .null => some []
  | .scalar (.text s) => some [(.text "command", .text s)]
  | v => v.fields?

def checkText (fs : Fields) (key : String) : Except Refusal Unit :=
  match fs.field key with
  | .scalar .null => .ok ()
  | .scalar (.text _) => .ok ()
  | _ => .error (.signToolField key)

/-- A retry field that is there has to be a number, also when it is null. -/
def checkNumber (fs : Fields) (key : String) : Except Refusal Unit :=
  match fs.field? key with
  | none => .ok ()
  | some v => (naturalOf ((Field.block "sign_tool").label ++ "." ++ key) v).map fun _ => ()

/-- Whether a text is given and not empty. -/
def given (s : Option String) : Bool := s.any (· != "")

/-- A mapping has to name the tool or its command itself; the other forms have a name by default. -/
def namesSomething (option : Value) (fs : Fields) (o : SignToolOverrides) : Bool :=
  let default := if option.fields?.isSome then none else some defaultName
  let name := match o.name with
    | some n => some n
    | none => match fs.field? "name" with
      | some v => v.text?
      | none => default
  given name || given (o.command <|> (fs.field "command").text?)

def check (option : Value) (o : SignToolOverrides) : Except Refusal Unit :=
  if option.isNull && o.isEmpty then .ok ()
  else match fieldsOf? option with
    | none => .error .signToolShape
    | some fs => do
      checkText fs "name"
      checkText fs "command"
      checkText fs "params"
      checkNumber fs "retry_count"
      checkNumber fs "retry_delay"
      if namesSomething option fs o then .ok () else .error .signToolEmpty

/-- An override as it is; else the field, unless it is absent or nothing. -/
def textOr (override : Option String) (fs : Fields) (key default : String) : Value :=
  match override with
  | some s => .text s
  | none => if (fs.field key).isNothing then .text default else fs.field key

def numberOr (fs : Fields) (key : String) (default : Int) : Value :=
  (fs.field? key).getD (.int default)

/-- There are none when nothing asks for a tool. Only fields can be taken apart. -/
def parts (option : Value) (o : SignToolOverrides) : Except Defect (Option SignToolParts) :=
  if option.isNull && o.isEmpty then .ok none
  else match fieldsOf? option with
    | none => .error .notFields
    | some fs => .ok (some
      { name := textOr o.name fs "name" defaultName
        command := textOr o.command fs "command" ""
        params := textOr o.params fs "params" ""
        retryCount := numberOr fs "retry_count" defaultRetryCount
        retryDelay := numberOr fs "retry_delay" defaultRetryDelay })

/-- The tool of parts that are texts and numbers. -/
def ofParts? : SignToolParts → Option SignTool
  | ⟨.scalar (.text name), .scalar (.text command), .scalar (.text params),
      .scalar (.int retryCount), .scalar (.int retryDelay)⟩ =>
    some ⟨name, command, params, retryCount, retryDelay⟩
  | _ => none

/-- The tool of a checked option; there is none when nothing asks for one. -/
def build (option : Value) (o : SignToolOverrides) : Option SignTool :=
  match parts option o with
  | .ok (some ps) => ofParts? ps
  | _ => none

end SignTool

end SetupScript
