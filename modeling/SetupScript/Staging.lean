import SetupScript.Icon
import SetupScript.Session

/-!
# Staged files

The files that a script refers to beside the application itself: the built-in icon, and the
runtime libraries that are found on the building machine. `findLibraries` takes each library from
the first directory that has it.
-/

namespace SetupScript.Staging

def libraryNames : List String := ["msvcp140.dll", "vcruntime140.dll", "vcruntime140_1.dll"]

/-- Where libraries are looked for when nothing else is said. -/
def systemDirs : List Path := [Path.parse "C:/Windows/System32"]

def iconName : String := "installer.ico"

/-- The file of that name in the first directory that has one. -/
def findIn (d : Disk) (name : String) : List Path → Except DiskError (Option Path)
  | [] => .ok none
  | dir :: dirs => do
    let candidate := dir.child name
    if ← d.isFile candidate then return some candidate
    else findIn d name dirs

/-- Names that no directory has are left out. -/
def findLibraries (dirs : List Path) (d : Disk) : List String → Except DiskError (List Path)
  | [] => .ok []
  | name :: names => do
    let found ← findIn d name dirs
    let others ← findLibraries dirs d names
    return found.toList ++ others

/-- Writes the built-in icon into a directory, which is made where it is missing. -/
def writeIcon (logger : String) (dir : Path) : Work Path := do
  Work.onDisk (DiskWork.ensureDirs dir)
  let path := (dir.descend [iconName]).absolute (← get).disk.here
  Work.onDisk (DiskWork.write path Icon.file)
  Work.note ⟨logger, .debug, "Persisted default installer icon to %s", [.path path],
    Origin.iconWritten⟩
  return path

/-- Copies files one after the other and gives the paths of the copies. -/
def copyAll (logger : String) (target : Path) : List Path → Work (List Path)
  | [] => return []
  | source :: sources => do
    let copied := (target.descend [source.name]).absolute (← get).disk.here
    Work.onDisk (DiskWork.copy source copied)
    Work.note ⟨logger, .info, "Staged %s", [.path copied], Origin.libraryStaged⟩
    return copied :: (← copyAll logger target sources)

/-- All libraries are found before the first one is copied. -/
def stageLibraries (logger : String) (dirs : List Path) (target : Path) : Work (List Path) := do
  Work.onDisk (DiskWork.ensureDirs target)
  let sources ← Work.ask fun d => findLibraries dirs d libraryNames
  copyAll logger target sources

end SetupScript.Staging
