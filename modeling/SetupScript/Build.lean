import SetupScript.Script.Sections
import SetupScript.Staging

/-!
# Building a script

A build stages files, lists the application's build, renders the script and writes it. The script
is written last, so a build that fails before leaves an older script as it is.
-/

namespace SetupScript

/-- The variant's directory below a project, for the parts of its build. -/
def buildDir (part : String) (v : Variant) : List String :=
  ["build", "windows", "x64", part, v.dirName]

/-- Where the application's build is expected. -/
def defaultAppDir (v : Variant) (projectDir : Path) : Path :=
  projectDir.descend (buildDir "runner" v)

/-- Where the script and the installer go. -/
def outputDir (v : Variant) (projectDir : Path) (d : Disk) : Except DiskError Path :=
  (d.resolve projectDir).map fun p => p.descend (buildDir "installer" v)

/-- The command that compiles a script, word by word. -/
def compilerCommand (c : Configuration) (script : Path) (compiler : String) : List String :=
  compiler :: (c.signTool.map SignTool.compilerArgument).toList ++ [script.text]

/-- The project directory of a builder is absolute and without links. -/
structure Builder where
  config : Configuration
  appDir : Path
  projectDir : Path
  tempDir : Path
  systemDirs : List Path
  logger : String

structure Artifact where
  path : Path
  text : String

namespace Builder

def scriptName : String := "inno-script.iss"

variable (b : Builder)

def stagingDir (here : Location) : Path :=
  (b.tempDir.child (b.config.joinedName ++ "Installer")).absolute here

def outputDir : Path := b.projectDir.descend (buildDir "installer" b.config.variant)

def scriptPath : Path := b.outputDir.descend [scriptName]

def note (level : Level) (pattern : String) (arguments : List Argument) (origin : Origin) :
    Work Unit :=
  Work.note ⟨b.logger, level, pattern, arguments, origin⟩

/-- The configured icon, or the built-in one, which is staged. -/
def icon : Work String := do
  if !b.config.usesDefaultIcon then return b.config.iconText
  let path ← Staging.writeIcon b.logger (b.stagingDir (← get).disk.here)
  return path.text

def entry (name : String) : Work AppEntry := do
  let path := b.appDir.descend [name]
  let isDir ← Work.ask (·.isDir path)
  let e : AppEntry := ⟨name, (path.absolute (← get).disk.here).text, isDir⟩
  if Script.isRenamed b.config e then
    b.note .info "Renamed %s to %s" [.text b.config.declaredExeName, .text b.config.exeName]
      Origin.executableRenamed
  return e

def entries : Work (List AppEntry) := do
  let names ← Work.ask (·.names b.appDir)
  (names.mergeSort fun m n => decide (m ≤ n)).mapM b.entry

def parts (icon : String) (entries : List AppEntry) (libraries : List Path) : ScriptParts :=
  ⟨b.outputDir.text, icon, entries, libraries.map Path.text⟩

/-- The script for the files that the application's build holds now. -/
def render (icon : String) (libraries : List Path) : Work String := do
  if !b.config.signTool.all SignTool.isWritable then throw (.defect .numberTooLong)
  let entries ← b.entries
  return Script.render b.config (b.parts icon entries libraries)

/-- Everything but writing the script: gives its text, with the directory for it made. -/
def prepare : Work String := do
  let icon ← b.icon
  let staged := (b.stagingDir (← get).disk.here).descend [b.config.variant.dirName]
  let libraries ← Staging.stageLibraries b.logger b.systemDirs staged
  let text ← b.render icon libraries
  Work.onDisk (DiskWork.ensureDirs b.outputDir)
  return text

/-- A text for which there are no bytes leaves its script empty. -/
def publish (text : String) : Work Artifact := do
  Work.onDisk (DiskWork.write b.scriptPath (Text.toBytes text))
  if Text.isEncodable text then return ⟨b.scriptPath, text⟩
  else throw (.defect .unencodable)

/-- The steps of a build, of which every refusal by the disk is reported in one way. -/
def steps : Work Artifact := do
  let text ← b.prepare
  b.publish text

def report : Failure → Failure
  | .disk e => if e.isRefusal then .script (.broken e) else .disk e
  | f => f

def build : Work Artifact := do
  b.note .info "Generating Inno Setup script..." [] Origin.buildStarted
  if ← Work.ask (·.isDir b.appDir) then pure ()
  else throw (.script (.noAppDir b.appDir))
  let artifact ← Work.onFailure b.steps report
  b.note .info "Script generated at %s" [.path b.scriptPath] Origin.buildEnded
  return artifact

end Builder

/-- A builder for a project directory that may be relative or reached through links. -/
def Builder.make (config : Configuration) (appDir projectDir tempDir : Path)
    (systemDirs : List Path) (logger : String) : Work Builder := do
  let root ← Work.ask (·.resolve projectDir)
  return ⟨config, appDir, root, tempDir, systemDirs, logger⟩

end SetupScript
