import Mathlib.Tactic.SplitIfs
import SetupScript.Script.Sections

/-!
# Rows of the files section

A line of the files section says what is installed, into which directory, and under which name
where that is not its own (`FileRow`). What the application's build holds makes rows of three
kinds, told apart by whether it is a directory and whether it is the executable file under another
name (`FileRow.ofChild`).
-/

namespace SetupScript.Script

/-- A row that is recursive installs everything below a directory. -/
structure FileRow where
  source : String
  destDir : String
  destName? : Option String
  recursive : Bool
deriving DecidableEq

namespace FileRow

def text (r : FileRow) : String :=
  "Source: \"" ++ r.source ++ "\"; DestDir: \"" ++ r.destDir ++ "\"; " ++
    (r.destName?.elim "" fun name => "DestName: \"" ++ name ++ "\"; ") ++
    "Flags: ignoreversion" ++ (if r.recursive then " recursesubdirs createallsubdirs" else "")

/-- One file that keeps its name. -/
def verbatim (source : String) : FileRow := ⟨source, constant "app", none, false⟩

/-- A directory keeps its name whatever it is; of the files, only the one with the declared name
is renamed. -/
def ofChild (c : Configuration) (name source : String) (isDir : Bool) : FileRow :=
  if isDir then ⟨source ++ "\\*", inApp name, none, true⟩
  else if name = c.declaredName ++ ".exe" ∧ c.name ≠ c.declaredName then
    ⟨source, constant "app", some (c.name ++ ".exe"), false⟩
  else verbatim source

theorem text_verbatim (source : String) : (verbatim source).text = fileLine source := by
  rw [← String.toList_inj]
  simp [text, verbatim, fileLine]

theorem isRenamed_iff {c : Configuration} {name source : String} :
    isRenamed c ⟨name, source, false⟩ = true ↔
      name = c.declaredName ++ ".exe" ∧ c.name ≠ c.declaredName := by
  simp [isRenamed, Configuration.declaredExeName, Configuration.exeName]

theorem text_ofChild (c : Configuration) (name source : String) (isDir : Bool) :
    (ofChild c name source isDir).text = entryLine c ⟨name, source, isDir⟩ := by
  cases isDir with
  | true =>
    rw [← String.toList_inj]
    simp [ofChild, entryLine, text]
  | false =>
    rw [ofChild, entryLine, if_neg Bool.false_ne_true, if_neg Bool.false_ne_true]
    simp only [isRenamed_iff]
    split_ifs
    · rw [← String.toList_inj]
      simp [text, Configuration.exeName]
    · exact text_verbatim source

end FileRow

/-- The rows of the section, one after the other. -/
def fileRows (c : Configuration) (entries : List AppEntry) (libraries : List String) :
    List FileRow :=
  entries.map (fun e => FileRow.ofChild c e.name e.source e.isDir) ++
    libraries.map FileRow.verbatim

theorem files_eq (c : Configuration) (entries : List AppEntry) (libraries : List String) :
    files c entries libraries = ⟨"Files", (fileRows c entries libraries).map FileRow.text⟩ := by
  simp only [files, fileRows, List.map_append, List.map_map, Function.comp_def,
    FileRow.text_ofChild, FileRow.text_verbatim]

end SetupScript.Script
