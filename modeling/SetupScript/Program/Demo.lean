import SetupScript.Program.Build

/-!
# The demonstration

Builds a script for an application whose build is made up on the spot, and puts the script out.
-/

namespace SetupScript.Program

open CommandLine

/-- The descriptor that the demonstration uses when no other is named. -/
def demoDescriptor : Value :=
  let text := fun s : String => Scalar.text s
  .map [(text "name", .text "demo_app"),
    (text "description", .text "Demo application packaged with innoBundler."),
    (text "version", .text "1.0.0"),
    (text "maintainer", .text "Acme"),
    (text "homepage", .text "https://example.com/demo"),
    (text "inno_bundle", .map
      [(text "id", .text "f887d5f0-4690-1e07-8efc-d16ea7711bfb"),
        (text "name", .text "Demo App"),
        (text "publisher", .text "Acme"),
        (text "languages", .list [.text "english", .text "german"]),
        (text "admin", .text "auto"),
        (text "arch", .text "x64_compatible"),
        (text "run_args", .list [.text "--first-run"]),
        (text "logging", .map [(text "level", .text "INFO")])])]

/-- Where the demonstration works when no other place is named. -/
def demoRoot : Path := Path.parse "tmp/demo_project"

def demoLogger : String := "run_inno_bundle_demo"

/-- A block that is absent has no log settings, one that is no mapping is an error; so is a
logging block that is neither. -/
def demoLogFields (descriptor : Value) : Except Defect Fields :=
  match descriptor.fields? with
  | none => .error .notFields
  | some outer =>
    match outer.field? blockName with
    | none => .ok []
    | some v =>
      match v.fields? with
      | none => .error .notFields
      | some block =>
        let logging := block.field "logging"
        match logging.fields? with
        | some fields => .ok fields
        | none => if logging.isNothing then .ok [] else .error .notFields

def executable : ByteArray := "MZ".toUTF8

/-- Makes up the files of an application's build. -/
def simulateBuild (appDir : Path) (exeName : String) : Work Unit := do
  let assets := appDir.descend ["data", "flutter_assets"]
  Work.onDisk (DiskWork.ensureDirs assets)
  Work.onDisk (DiskWork.write (appDir.descend ["data", "icudtl.dat"])
    ⟨(List.replicate 16 0).toArray⟩)
  Work.onDisk (DiskWork.write (assets.descend ["AssetManifest.json"]) "\x7b\x7d".toUTF8)
  Work.onDisk (DiskWork.write (appDir.child exeName) executable)
  Work.onDisk (DiskWork.write (appDir.descend ["flutter_windows.dll"]) executable)
  note demoLogger .debug "Created simulated build output at %s" [.path appDir]
    Origin.applicationSimulated

def runDemo (a : DemoArguments) : Work Unit := do
  let d := (← get).disk
  let descriptor ← match a.config with
    | some p => Work.ofExcept (readDescriptor p d)
    | none => pure demoDescriptor
  startLog a.debug (← defect (demoLogFields descriptor))
  let root ← Work.ask (·.resolve (a.outputRoot.getD demoRoot))
  let config ← resolveNoting descriptor { Overrides.default with variant := .release } root
  let appDir := defaultAppDir config.variant root
  simulateBuild appDir config.declaredExeName
  let builder ← Builder.make config appDir root (root.descend ["staging"]) Staging.systemDirs
    demoLogger
  let artifact ← builder.build
  Work.put artifact.text

/-- Failures of the demonstration are caught by nothing. -/
def demo (words : List String) (s : Session) : Ending × Session :=
  match DemoArguments.read words with
  | .error m => (.code 2, { s with log := s.log ++ m.message ++ "\n" })
  | .ok none => (.code 0, s)
  | .ok (some a) =>
    let r := runDemo a s
    match r.1 with
    | .ok _ => (.finished, r.2)
    | .error f => (.failed f, r.2)

end SetupScript.Program
