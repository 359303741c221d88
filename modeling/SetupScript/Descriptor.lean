import SetupScript.Configuration.Resolve
import SetupScript.Session
import SetupScript.Yaml.Load

/-!
# Descriptor files

Reading a project descriptor from the disk and resolving it. `loadConfiguration` words the errors
of reading; resolving notes a missing license file.
-/

namespace SetupScript

/-- A descriptor that is nothing counts as an empty mapping. -/
def readDescriptor (p : Path) (d : Disk) : Except Failure Value :=
  match d.read p with
  | .error e => .error (.disk e)
  | .ok bytes =>
    match Yaml.load bytes with
    | .error e => .error (.defect e)
    | .ok v => .ok (if v.isNothing then .map [] else v)

/-- The failures of reading a descriptor that are told to the user. -/
def explainReading (p : Path) : Failure → Failure
  | .disk e => if e.isRefusal then .refusal (.unreadable p e) else .disk e
  | .defect (.invalidYaml detail) => .refusal (.notYaml p detail)
  | f => f

def resolveLogger : String := "innoBundler.config"

def resolveNoting (descriptor : Value) (o : Overrides) (projectDir : Path) :
    Work Configuration := do
  let d := (← get).disk
  match missingLicense d descriptor o projectDir with
  | some p => Work.note ⟨resolveLogger, .debug,
      "License file %s not found; installer has no license page.", [.path p],
      Origin.licenseCheck⟩
  | none => pure ()
  Work.ofExcept (resolve d descriptor o projectDir)

/-- Without a project directory relative paths start from the descriptor's own directory. -/
def loadConfiguration (p : Path) (o : Overrides) (projectDir : Option Path) :
    Work Configuration := do
  let d := (← get).disk
  let descriptor ← Work.ofExcept ((readDescriptor p d).mapError (explainReading p))
  let root ← match projectDir with
    | some root => pure root
    | none => Path.parent <$> Work.ask (·.resolve p)
  resolveNoting descriptor o root

end SetupScript
