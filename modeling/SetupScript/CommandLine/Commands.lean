import SetupScript.CommandLine.Options
import SetupScript.Configuration
import SetupScript.Files.Path

/-!
# Commands

The command lines that the programs understand. `Command.read` reads one of the installer tool:
a new id is asked for, or a script is built; `DemoArguments.read` reads one of the demonstration.
-/

namespace SetupScript.CommandLine

/-- An error, with the name of the program that reports it. -/
structure Misuse where
  program : String
  error : UsageError
deriving DecidableEq

def Misuse.message (m : Misuse) : String := m.program ++ ": error: " ++ m.error.message

structure BuildArguments where
  config : Path
  appDir : Option Path
  overrides : Overrides
  envs : Bool
  verbose : Bool

inductive Command where
  | help
  | guid
  | build (arguments : BuildArguments)

def valued (name : String) : OptionSpec := ⟨["--" ++ name], true, false⟩

def switch (name : String) : OptionSpec := ⟨["--" ++ name], false, false⟩

def exclusive (name : String) : OptionSpec := ⟨["--" ++ name], false, true⟩

namespace BuildArguments

def defaultConfig : String := "pubspec.yaml"

def specs : List OptionSpec :=
  [valued "config", exclusive "release", exclusive "profile", exclusive "debug",
    valued "app-dir", switch "no-app", switch "no-installer", valued "build-args",
    valued "app-version", valued "sign-tool-name", valued "sign-tool-command",
    valued "sign-tool-params", switch "envs", switch "verbose"]

def variant (r : Reading) : Variant :=
  if r.has (exclusive "release") then .release
  else if r.has (exclusive "profile") then .profile
  else .debug

def of (r : Reading) : BuildArguments where
  config := Path.parse ((r.value? (valued "config")).getD defaultConfig)
  appDir := (r.value? (valued "app-dir")).map Path.parse
  overrides :=
    { variant := variant r
      app := !r.has (switch "no-app")
      installer := !r.has (switch "no-installer")
      buildArgs := r.value? (valued "build-args")
      appVersion := ((r.value? (valued "app-version")).map Value.text).getD .null
      signTool :=
        { name := r.value? (valued "sign-tool-name")
          command := r.value? (valued "sign-tool-command")
          params := r.value? (valued "sign-tool-params") } }
  envs := r.has (switch "envs")
  verbose := r.has (switch "verbose")

end BuildArguments

namespace Command

def program : String := "innoBundler"

def names : List String := ["guid", "build"]

/-- Words before the command that no option takes are refused only after the command's own. -/
def afterName (extras : List String) (name : String) (words : List String) :
    Except Misuse Command := do
  let finish := fun (r : Reading) (c : Command) =>
    let left := extras ++ r.extras
    if left.isEmpty then .ok c else .error ⟨program, .unrecognized left⟩
  let reading := fun (specs : List OptionSpec) =>
    (read specs words).mapError fun e => Misuse.mk (program ++ " " ++ name) e
  if name == "guid" then
    match ← reading [] with
    | none => .ok .help
    | some r => finish r .guid
  else if name == "build" then
    match ← reading BuildArguments.specs with
    | none => .ok .help
    | some r => finish r (.build (.of r))
  else .error ⟨program, .unknownCommand name names⟩

/-- Looks for the command's name; the words after it are left to the command. Two hyphens alone are
taken for the name if words follow them. -/
def find (extras : List String) : List String → Except Misuse Command
  | [] => .error ⟨program, .commandMissing⟩
  | w :: ws =>
    if w == "--" then
      .error ⟨program, if ws.isEmpty then .commandMissing else .unknownCommand w names⟩
    else match classify [CommandLine.help] w with
      | .error e => .error ⟨program, e⟩
      | .ok (.option o name value) =>
        match readWords .empty [.option o name value] with
        | .error e => .error ⟨program, e⟩
        | .ok _ => .ok .help
      | .ok (.operand name) => afterName extras name ws
      | .ok word => find (extras ++ [word.text]) ws

def read (words : List String) : Except Misuse Command := find [] words

end Command

structure DemoArguments where
  config : Option Path
  outputRoot : Option Path
  debug : Bool
deriving DecidableEq

namespace DemoArguments

def program : String := "run_inno_bundle_demo"

def specs : List OptionSpec := [valued "config", valued "output-root", switch "debug"]

def of (r : Reading) : DemoArguments where
  config := (r.value? (valued "config")).map Path.parse
  outputRoot := (r.value? (valued "output-root")).map Path.parse
  debug := r.has (switch "debug")

/-- Nothing when help is asked for. -/
def read (words : List String) : Except Misuse (Option DemoArguments) := do
  match ← (CommandLine.read specs words).mapError (Misuse.mk program) with
  | none => return none
  | some r =>
    if r.extras.isEmpty then return some (.of r)
    else throw ⟨program, .unrecognized r.extras⟩

end DemoArguments

end SetupScript.CommandLine
