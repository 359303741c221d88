import SetupScript.Log.Settings

/-!
# Sessions

What the operations of the program work on: the disk, the records noted so far, where they are
written, and the text put out. Work changes a session and keeps the changes when it fails.
-/

namespace SetupScript

/-- `stamp` is the time that log lines show, `temp` the system's directory for temporary files.
Which texts can be put out depends on how the output is encoded: `takes` tells them. -/
structure Session where
  disk : Disk
  temp : Path
  stamp : String
  records : List Record
  sink : Option Sink
  takes : String → Bool
  output : String
  log : String

abbrev Work := ExceptT Failure (StateM Session)

namespace Session

/-- The output takes the texts that have bytes, those without surrogates. -/
def begin (disk : Disk) (temp : Path) (stamp : String) : Session :=
  { disk, temp, stamp, records := [], sink := none, takes := Text.isEncodable, output := "",
    log := "" }

/-- Writes a line of the log. -/
def writeLine (s : Session) (k : Sink) (line : String) : Session :=
  let text := line ++ "\n"
  { s with
    log := s.log ++ text
    disk := match k.file with
      | some p => s.disk.append p text
      | none => s.disk }

/-- Every record is kept; it is written where the sink takes it. -/
def note (s : Session) (r : Record) : Session :=
  let s' := { s with records := s.records ++ [r] }
  match s.sink with
  | none => s'
  | some k =>
    if r.level.number < k.threshold then s'
    else match k.template.line s.stamp r with
      | some line => s'.writeLine k line
      | none => s'

end Session

namespace Work

def note (r : Record) : Work Unit := fun s => (.ok (), s.note r)

def onDisk {α : Type} (t : DiskWork α) : Work α := fun s =>
  let r := t s.disk
  (r.1.mapError .disk, { s with disk := r.2 })

/-- Asks the disk without changing it. -/
def ask {α : Type} (question : Disk → Except DiskError α) : Work α :=
  onDisk (DiskWork.ask question)

def ofExcept {α : Type} (r : Except Failure α) : Work α := fun s => (r, s)

/-- Puts out a line, or nothing if the text cannot be put out. -/
def put (text : String) : Work Unit := fun s =>
  if s.takes text then (.ok (), { s with output := s.output ++ text ++ "\n" })
  else (.error (.defect .unencodable), s)

/-- Puts another failure in the place of one. -/
def onFailure {α : Type} (t : Work α) (f : Failure → Failure) : Work α := fun s =>
  let r := t s
  (r.1.mapError f, r.2)

theorem get_eq (s : Session) : (get : Work Session) s = (.ok s, s) := rfl

theorem bind_of_ok {α β : Type} {t : Work α} {s s' : Session} {a : α} (h : t s = (.ok a, s'))
    (f : α → Work β) : (t >>= f) s = f a s' := by
  change ExceptT.bindCont f (t s).1 (t s).2 = _
  rw [h]
  rfl

theorem bind_of_error {α β : Type} {t : Work α} {s s' : Session} {e : Failure}
    (h : t s = (.error e, s')) (f : α → Work β) : (t >>= f) s = (.error e, s') := by
  change ExceptT.bindCont f (t s).1 (t s).2 = _
  rw [h]
  rfl

theorem ofExcept_of_ok {α : Type} {r : Except Failure α} {a : α} (h : r = .ok a) (s : Session) :
    ofExcept r s = (.ok a, s) := by
  rw [h]
  rfl

theorem ask_of_ok {α : Type} {question : Disk → Except DiskError α} {s : Session} {a : α}
    (h : question s.disk = .ok a) : ask question s = (.ok a, s) := by
  change ((question s.disk).mapError Failure.disk, s) = _
  rw [h]
  rfl

theorem ask_of_error {α : Type} {question : Disk → Except DiskError α} {s : Session}
    {e : DiskError} (h : question s.disk = .error e) :
    ask question s = (.error (.disk e), s) := by
  change ((question s.disk).mapError Failure.disk, s) = _
  rw [h]
  rfl

theorem put_of_takes {s : Session} {text : String} (h : s.takes text = true) :
    put text s = (.ok (), { s with output := s.output ++ text ++ "\n" }) :=
  if_pos h

theorem put_of_not_takes {s : Session} {text : String} (h : s.takes text = false) :
    put text s = (.error (.defect .unencodable), s) :=
  if_neg (Bool.not_eq_true _ ▸ h)

end Work

end SetupScript
