import SetupScript.Files.Fault
import SetupScript.Value.Written

/-!
# Why a descriptor is refused

One constructor for each cause that keeps a project descriptor from becoming a configuration.
`Refusal.message` holds the wording of all of them.
-/

namespace SetupScript

/-- Where a value was read from: the installer's block of the descriptor, the descriptor around
it, or the command line. -/
inductive Field where
  | block (key : String)
  | outer (key : String)
  | flag (name : String)
deriving DecidableEq

def blockName : String := "inno_bundle"

def Field.label : Field → String
  | .block key => blockName ++ "." ++ key
  | .outer key => key
  | .flag name => "--" ++ name

/-- A pair of fields of which one has to be given, as a message names it. -/
inductive Needed where
  | version
  | description
  | publisher
deriving DecidableEq

def Needed.phrase : Needed → String
  | .version => "version"
  | .description => "description or " ++ blockName ++ ".description"
  | .publisher => "maintainer or " ++ blockName ++ ".publisher"

inductive Refusal where
  | notMapping
  | noBlock
  | noId
  | badId (id : String)
  | noName
  | badFileName (field : Field) (name : String)
  | notText (field : Field) (value : Value)
  | noCandidate (needed : Needed)
  | iconMissing (path : Path)
  | languagesNotList
  | unsupportedLanguage (value : Value)
  | badPrivilege (value : Value)
  | badArchitecture (accepted : List String) (value : Value)
  | badVariant (accepted : List String) (value : Value)
  | signToolShape
  | signToolField (key : String)
  | notInteger (label : String)
  | negative (label : String)
  | signToolEmpty
  | notTextList (field : Field)
  | notTruth (field : Field) (value : Value)
  | unreadable (path : Path) (error : DiskError)
  | notYaml (path : Path) (detail : String)

namespace Refusal

/-- The value that a message shows. -/
def shown? : Refusal → Option Value
  | .notText _ v => some v
  | .unsupportedLanguage v => some v
  | .badPrivilege v => some v
  | .badArchitecture _ v => some v
  | .badVariant _ v => some v
  | .notTruth _ v => some v
  | _ => none

def guidHint : String :=
  "Run `innoBundler guid` to generate a new one and put it in the project descriptor."

def message : Refusal → String
  | .notMapping => "Project descriptor must be a mapping."
  | .noBlock => blockName ++ " section is missing from the project descriptor."
  | .noId => blockName ++ ".id attribute is missing. " ++ guidHint
  | .badId id => blockName ++ ".id " ++ Text.quoted id ++ " is not a valid UUID. " ++ guidHint
  | .noName => "name attribute is missing from the project descriptor."
  | .badFileName field name => field.label ++ " is invalid: " ++ Text.quoted name ++
      " is not a valid file name " ++
      "(avoid path separators, reserved characters and a trailing dot or space)."
  | .notText field value => field.label ++ " is invalid: expected a string, got " ++
      value.written ++ "."
  | .noCandidate needed => needed.phrase ++ " attribute is missing from the project descriptor."
  | .iconMissing path => (Field.block "installer_icon").label ++ " is invalid: " ++ path.text ++
      " does not exist."
  | .languagesNotList => (Field.block "languages").label ++
      " is invalid: only a list of strings is allowed."
  | .unsupportedLanguage value => (Field.block "languages").label ++ " is invalid: language " ++
      value.written ++ " is not supported."
  | .badPrivilege value => (Field.block "admin").label ++
      " is invalid: expected true, false or \"auto\", got " ++ value.written ++ "."
  | .badArchitecture accepted value => (Field.block "arch").label ++
      " is invalid: expected one of " ++ joinComma accepted ++ ", got " ++ value.written ++ "."
  | .badVariant accepted value => "Build type must be one of " ++ joinComma accepted ++ ", got " ++
      value.written ++ "."
  | .signToolShape => (Field.block "sign_tool").label ++
      " is invalid: expected a command string or a mapping with name/command/params fields."
  | .signToolField key => (Field.block "sign_tool").label ++ "." ++ key ++ " must be a string."
  | .notInteger label => label ++ " must be an integer."
  | .negative label => label ++ " must be >= 0."
  | .signToolEmpty => (Field.block "sign_tool").label ++ " is expected to be a command string " ++
      "or to have at least a non-empty name or command field."
  | .notTextList field => field.label ++ " is invalid: only a list of strings is allowed."
  | .notTruth field value => field.label ++ " is invalid: expected true or false, got " ++
      value.written ++ "."
  | .unreadable path error => "Cannot read project descriptor " ++ path.text ++ ": " ++
      error.message
  | .notYaml path detail => "Project descriptor " ++ path.text ++ " is not valid YAML: " ++ detail

end Refusal

end SetupScript
