import SetupScript.Files.Path

/-!
# Log records

What is noted on the way: a severity, a message, who notes it and at which point of the program.
The message is kept as a pattern and the arguments that fill it; `Record.message` puts them
together, and `Record.argumentList` lists the arguments alone.
-/

namespace SetupScript

inductive Level where
  | debug
  | info
  | warning
  | error
  | critical
deriving DecidableEq

namespace Level

def number : Level → Nat
  | .debug => 10
  | .info => 20
  | .warning => 30
  | .error => 40
  | .critical => 50

def name : Level → String
  | .debug => "DEBUG"
  | .info => "INFO"
  | .warning => "WARNING"
  | .error => "ERROR"
  | .critical => "CRITICAL"

end Level

/-- The point of the program that a record names as its origin. -/
structure Origin where
  module : String
  function : String
  line : Nat
deriving DecidableEq

/-- What fills a pattern: a text, a path, or an error of some kind with its message. -/
inductive Argument where
  | text (s : String)
  | path (p : Path)
  | error (kind message : String)
deriving DecidableEq

namespace Argument

/-- How an argument stands in a message. -/
def shown : Argument → String
  | .text s => s
  | .path p => p.text
  | .error _ message => message

/-- How an argument stands in a list of arguments. -/
def written : Argument → String
  | .text s => Text.quoted s
  | .path p => p.written
  | .error kind message => kind ++ "(" ++ Text.quoted message ++ ")"

end Argument

structure Record where
  logger : String
  level : Level
  pattern : String
  arguments : List Argument
  origin : Origin
deriving DecidableEq

/-- Each `%s` of a pattern stands for the next argument. -/
def fillPattern : List Char → List Argument → List Char
  | [], _ => []
  | '%' :: 's' :: cs, a :: as => a.shown.toList ++ fillPattern cs as
  | c :: cs, as => c :: fillPattern cs as

def Record.message (r : Record) : String :=
  String.ofList (fillPattern r.pattern.toList r.arguments)

/-- A list of one argument ends in a comma. -/
def Record.argumentList (r : Record) : String :=
  match r.arguments with
  | [a] => "(" ++ a.written ++ ",)"
  | as => "(" ++ ", ".intercalate (as.map Argument.written) ++ ")"

namespace Origin

/-! ## The points that records come from -/

def licenseCheck : Origin := ⟨"config", "_resolve_license_file", 287⟩

def iconWritten : Origin := ⟨"assets", "persist_default_installer_icon", 49⟩

def libraryStaged : Origin := ⟨"assets", "stage_redistributables", 102⟩

def buildStarted : Origin := ⟨"script_builder", "build", 166⟩

def buildEnded : Origin := ⟨"script_builder", "build", 182⟩

def executableRenamed : Origin := ⟨"script_builder", "_files", 280⟩

def installerDisabled : Origin := ⟨"cli", "run_build", 169⟩

def applicationSkipped : Origin := ⟨"cli", "run_build", 173⟩

def compileHint : Origin := ⟨"cli", "run_build", 175⟩

def failureReported : Origin := ⟨"cli", "main", 196⟩

def applicationSimulated : Origin := ⟨"run_inno_bundle_demo", "create_simulated_build", 36⟩

def versionMissing : Origin := ⟨"__init__", "<module>", 15⟩

def versionUnreadable : Origin := ⟨"__init__", "<module>", 18⟩

end Origin

end SetupScript
