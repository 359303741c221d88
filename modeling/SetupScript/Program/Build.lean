import SetupScript.Build
import SetupScript.CommandLine.Commands
import SetupScript.Descriptor

/-!
# The installer tool

What the tool does for each of its commands. Log settings come from the descriptor and are in
place before it is resolved; refusals and script errors end the program with their message.
-/

namespace SetupScript

open CommandLine

/-- How a program ends: by itself, with a message or a number for the shell, or with a failure
that nothing caught. -/
inductive Ending where
  | finished
  | message (text : String)
  | code (n : Nat)
  | failed (f : Failure)

namespace Program

def toolLogger : String := "innoBundler.cli"

def note (logger : String) (level : Level) (pattern : String) (arguments : List Argument)
    (origin : Origin) : Work Unit :=
  Work.note ⟨logger, level, pattern, arguments, origin⟩

/-- The logging block of a descriptor; one that cannot be read has none. -/
def logFields (p : Path) (d : Disk) : Except Failure Fields :=
  match readDescriptor p d with
  | .ok descriptor =>
    let block := descriptor.fields?.bind fun outer => (outer.field blockName).fields?
    .ok ((block.bind fun fs => (fs.field "logging").fields?).getD [])
  | .error (.disk e) => if e.isRefusal then .ok [] else .error (.disk e)
  | .error (.defect (.invalidYaml _)) => .ok []
  | .error f => .error f

def defect {α : Type} (r : Except Defect α) : Work α := Work.ofExcept (r.mapError .defect)

/-- A verbose program writes every record. -/
def startLog (verbose : Bool) (fields : Fields) : Work Unit := do
  defect (Sink.checkLevel (fields.field "level"))
  let file ← defect (Sink.pathOf? (fields.field "file_path"))
  let here := (← get).disk.here
  let file := file.map (Path.normal here)
  match file with
  | some p => Work.onDisk (DiskWork.change (Disk.openLog p))
  | none => pure ()
  let template ← defect (Sink.templateOf (fields.field? "format"))
  let threshold ← if verbose then pure Level.debug.number
    else defect (Sink.thresholdOf (fields.field "level"))
  modify fun s => { s with sink := some ⟨threshold, template, file⟩ }

/-- Gives no script when only the settings are asked for or the installer is left out. -/
def runBuild (a : BuildArguments) : Work (Option Artifact) := do
  let root := (← Work.ask (·.resolve a.config)).parent
  let config ← loadConfiguration a.config a.overrides (some root)
  if a.envs then
    Work.put config.environment
    return none
  if !config.installer then
    note toolLogger .info "Installer step disabled; no script generated." []
      Origin.installerDisabled
    return none
  let appDir := a.appDir.getD (defaultAppDir config.variant root)
  if !config.app then
    note toolLogger .info "Application build skipped; using existing output in %s" [.path appDir]
      Origin.applicationSkipped
  let temp := (← get).temp
  let builder ← Builder.make config appDir root temp Staging.systemDirs toolLogger
  let artifact ← builder.build
  note toolLogger .info "Compile with: %s"
    [.text (" ".intercalate (compilerCommand config artifact.path "ISCC"))] Origin.compileHint
  return some artifact

def buildWithLog (a : BuildArguments) : Work (Option Artifact) := do
  let d := (← get).disk
  startLog a.verbose (← Work.ofExcept (logFields a.config d))
  fun s =>
    let r := runBuild a s
    match r.1 with
    | .error f => match f.told? with
      | some t => (r.1, r.2.note
          ⟨toolLogger, .error, "%s", [.error t.kind t.message], Origin.failureReported⟩)
      | none => r
    | .ok _ => r

/-- Runs the tool; `guid` is the id to put out when a new one is asked for. -/
def main (words : List String) (guid : String) (s : Session) : Ending × Session :=
  match Command.read words with
  | .error m => (.code 2, { s with log := s.log ++ m.message ++ "\n" })
  | .ok .help => (.code 0, s)
  | .ok .guid =>
    let r := Work.put guid s
    match r.1 with
    | .ok _ => (.finished, r.2)
    | .error f => (.failed f, r.2)
  | .ok (.build a) =>
    let r := buildWithLog a s
    match r.1 with
    | .ok _ => (.finished, r.2)
    | .error f => match f.told? with
      | some t => (.message t.message, r.2)
      | none => (.failed f, r.2)

end Program

end SetupScript
