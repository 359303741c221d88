import SetupScript.Session

/-!
# Version

The version of the program, which a file two directories above its modules holds. Where the file
cannot be read the version is 0.0.0.
-/

namespace SetupScript.Version

def fallback : String := "0.0.0"

def fileName : String := "VERSION"

/-- The version as a module at the given path finds it. Near the root there is no directory to
look in. -/
def find (module : Path) (logger : String) : Work String := do
  let module ← Work.ask (·.resolve module)
  if module.parts.length < 2 then throw (.defect .noParent)
  let path := module.parent.parent.descend [fileName]
  let d := (← get).disk
  match d.readText path with
  | .ok s => return Text.strip s
  | .error (.fault ⟨.absent, _⟩) =>
    Work.note ⟨logger, .warning, "VERSION file not found at %s; using %s.",
      [.path path, .text fallback], Origin.versionMissing⟩
    return fallback
  | .error e =>
    if e.isRefusal then
      Work.note ⟨logger, .warning, "Failed to read VERSION file at %s: %s; using %s.",
        [.path path, .text e.message, .text fallback], Origin.versionUnreadable⟩
      return fallback
    else throw (.disk e)

end SetupScript.Version
