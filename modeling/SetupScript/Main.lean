import SetupScript.Files.Changes
import SetupScript.Guid
import SetupScript.Program.Survey
import Std.Time.Zoned

/-!
# The command line

Reads the parts of the disk that a run looks at, runs the program on them, and writes back what it
changed.
-/

namespace SetupScript.CommandLine

/-- The text that the system gives. -/
def given (s : String) : String := String.ofList (Text.ofChars s.toList)

/-- The text as the system takes it, with surrogates escaped. -/
def shown (s : String) : String :=
  String.ofList ((Text.codes s).flatMap fun n =>
    if Text.isSurrogate n then Text.codeEscape n else [Char.ofNat n])

/-- Adds what is on the way from a place on, and the bytes of the file at its end. -/
partial def capture (t : FileTree) (here : Location) (names : List String) : IO FileTree := do
  let name :: rest := names | return t
  if name == "" || name == "." then capture t here rest
  else if name == ".." then capture t here.dropLast rest
  else
    let place := here ++ [name]
    let path := (← IO.currentDir) / shown (Path.ofLocation place).text
    let .ok data ← path.symlinkMetadata.toBaseIO | return t
    match data.type with
    | .dir => capture (t.put place .dir) place rest
    | .symlink =>
      let .ok target ← (IO.FS.realPath path).toBaseIO | return t
      let target := given target.toString
      capture (t.put place (.link target)) [] (slashPieces target ++ rest)
    | _ =>
      let blank := t.put place (.file ByteArray.empty)
      if !rest.isEmpty then return blank
      let .ok bytes ← (IO.FS.readBinFile path).toBaseIO | return blank
      return t.put place (.file bytes)

def captureAll (d : Disk) (paths : List Path) : IO Disk := do
  let t ← paths.foldlM (fun t p => capture t (d.start p) p.parts) d.tree
  return { d with tree := t }

/-- Adds the names in a directory and their kinds, without the bytes of files that are new. -/
def captureNames (d : Disk) (p : Path) : IO Disk := do
  let .ok (place, .dir) := d.entry p | return d
  let found ← ((← IO.currentDir) / shown (Path.ofLocation place).text).readDir
  found.foldlM (fun d entry => do
    let inside := place ++ [given entry.fileName]
    if (d.tree.get? inside).isSome then return d
    else if ← entry.path.isDir then captureAll d [.ofLocation inside]
    else return { d with tree := d.tree.put inside (.file ByteArray.empty) }) d

def currentPlace : IO Location := do
  return (Path.parse (given (← IO.currentDir).toString)).parts

def temporaryDir : IO Path := do
  for name in ["TMPDIR", "TEMP", "TMP"] do
    if let some dir ← IO.getEnv name then
      if dir != "" then return Path.parse (given dir)
  return Path.parse "/tmp"

/-- The disk as far as the command line needs it. -/
def diskFor (temp : Path) (words : List String) : IO Disk := do
  let here ← currentPlace
  let d ← captureAll ⟨.empty, here⟩ [.ofLocation here, temp]
  let .ok (.build a) := Command.read words | return d
  let d ← captureAll d [a.config]
  let .ok config := d.resolve a.config | return d
  let descriptor := (readDescriptor a.config d).toOption.getD .null
  let d ← captureAll d (Program.surveyed a descriptor config.parent temp)
  captureNames d (Program.appDirOf a config.parent)

def writeBack (before after : Disk) : IO Unit := do
  for (place, entry) in before.tree.changes after.tree do
    let path := (← IO.currentDir) / shown (Path.ofLocation place).text
    match entry with
    | some .dir => IO.FS.createDir path
    | some (.file bytes) => IO.FS.writeBinFile path bytes
    | _ => pure ()

def padded (width : Nat) (n : Int) : String :=
  let digits := toString n
  "".pushn '0' (width - digits.length) ++ digits

/-- The time as log lines show it. -/
def timeStamp : IO String := do
  let t ← Std.Time.PlainDateTime.now
  let day := "-".intercalate [padded 4 t.year, padded 2 t.month.val, padded 2 t.day.val]
  let hour := ":".intercalate [padded 2 t.hour.val, padded 2 t.minute.val, padded 2 t.second.val]
  return day ++ " " ++ hour ++ "," ++ padded 3 t.millisecond.val

/-- What the shell is told, and what is written to the log of errors. -/
def report : Ending → UInt32 × String
  | .finished => (0, "")
  | .message text => (1, text ++ "\n")
  | .code n => (n.toUInt32, "")
  | .failed (.disk e) => (1, e.message ++ "\n")
  | .failed f =>
    let told := f.told?.map Told.message
    (1, told.getD "The descriptor holds a value that cannot be used." ++ "\n")

def run (words : List String) : IO UInt32 := do
  let words := words.map given
  let temp ← temporaryDir
  let d ← diskFor temp words
  let guid := Guid.text (← IO.getRandomBytes 16).toList
  let (ending, s) := Program.main words guid (Session.begin d temp (← timeStamp))
  writeBack d s.disk
  let (code, text) := report ending
  IO.print (shown s.output)
  IO.eprint (shown (s.log ++ text))
  return code

end SetupScript.CommandLine

def main (words : List String) : IO UInt32 := SetupScript.CommandLine.run words
