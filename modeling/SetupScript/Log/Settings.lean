import SetupScript.Failure
import SetupScript.Files.Disk
import SetupScript.Log.Template
import SetupScript.Text.Case

/-!
# Log settings

Which records are written, how, and where to, as the descriptor's logging block says. A file for
the log is opened before the template and the threshold are looked at.
-/

namespace SetupScript

/-- Records from the threshold up are written, to the file too if there is one. -/
structure Sink where
  threshold : Nat
  template : Template
  file : Option Path

namespace Sink

def defaultTemplate : String := "%(asctime)s - %(name)s - %(levelname)s - %(message)s"

def messageOnly : String := "%(message)s"

/-- The names of thresholds; other names stand for the threshold of information. -/
def thresholds : List (String × Nat) :=
  [("CRITICAL", 50), ("FATAL", 50), ("ERROR", 40), ("WARNING", 30), ("WARN", 30), ("INFO", 20),
    ("DEBUG", 10), ("NOTSET", 0)]

/-- A threshold is looked up by its text, so it has to have one. -/
def checkLevel (level : Value) : Except Defect Unit :=
  if level.isWritable then .ok () else .error .numberTooLong

/-- Two names that are taken by something that is no threshold. -/
def thresholdOf (level : Value) : Except Defect Nat :=
  match level.text? with
  | none => .ok Level.info.number
  | some s =>
    let name := Text.toUpper s
    if name == "BASIC_FORMAT" then .error .levelNotNamed
    else if name == "_STYLES" then .error .levelNotNumber
    else .ok ((thresholds.lookup name).getD Level.info.number)

/-- A value that is nothing stands for the message alone. -/
def templateOf (format : Option Value) : Except Defect Template :=
  match format with
  | none => .ok (Template.parse defaultTemplate)
  | some v =>
    if v.isNothing then .ok (Template.parse messageOnly)
    else match v.text? with
      | none => .error .formatNotText
      | some s =>
        if Template.accepted s.toList then .ok (Template.parse s) else .error .badFormat

/-- The path of the log file; texts and bytes name one. -/
def pathOf? : Value → Except Defect (Option Path)
  | .scalar (.text s) => .ok (if s == "" then none else some (Path.parse s))
  | .scalar (.bytes bs) =>
    .ok (if bs.isEmpty then none else some (Path.parse (Text.ofBytes ⟨bs.toArray⟩)))
  | v => if v.isNothing then .ok none else .error .logPathNotText

end Sink

namespace Disk

/-- Opens a file to add to its end, and makes it where it is missing. -/
def openLog (p : Path) (d : Disk) : Except DiskError Disk :=
  match d.find .make p with
  | .error e => .error e
  | .ok (_, some .dir) => .error (.fault ⟨.isDirectory, p.text⟩)
  | .ok (place, none) => .ok { d with tree := d.tree.put place (.file ByteArray.empty) }
  | .ok (_, some _) => .ok d

/-- Adds a text to the end of a file, or nothing if there are no bytes for it. -/
def append (p : Path) (s : String) (d : Disk) : Disk :=
  match d.find .follow p with
  | .ok (place, some (.file bytes)) =>
    { d with tree := d.tree.put place (.file (bytes ++ Text.toBytes s)) }
  | _ => d

end Disk

end SetupScript
