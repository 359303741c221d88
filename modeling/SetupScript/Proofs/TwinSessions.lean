import SetupScript.Proofs.Files.TwinDisks
import SetupScript.Session

/-!
# Twin sessions

Two sessions on twin disks that have noted the same and put out the same are twins, whatever their
logs are and wherever these are written. The same work leaves them twins with the same outcome, when
the paths that it is given are clear.
-/

namespace SetupScript

/-- What stays the same during two sessions: the ways of paths, the places at which the disks can
differ, the directory for temporary files, and where each session writes its log. -/
structure Scene where
  terrain : Terrain
  out : Set Location
  temp : Path
  left : Option Sink
  right : Option Sink

/-- Where a log is written to, whether there is a file yet or not. -/
def Terrain.logGoals (g : Terrain) (sink : Option Sink) : Set Location :=
  {place | ∃ k p, sink = some k ∧ k.file = some p ∧ place = (g.way p).goal}

namespace Session

/-- Sessions that go on side by side. -/
structure Twins (c : Scene) (s s' : Session) : Prop where
  disk : s.disk.Twins c.terrain c.out s'.disk
  temp : s.temp = c.temp ∧ s'.temp = c.temp
  records : s.records = s'.records
  output : s.output = s'.output
  takes : s.takes = s'.takes
  left : s.sink = c.left
  right : s'.sink = c.right

variable {c : Scene} {s s' : Session}

theorem Twins.here (h : Twins c s s') :
    s.disk.here = c.terrain.here ∧ s'.disk.here = c.terrain.here :=
  ⟨congrArg Terrain.here h.disk.left, congrArg Terrain.here h.disk.right⟩

/-- Noting adds a record and perhaps a line of the log, and nothing else. -/
theorem note_cases (s : Session) (r : Record) : ∃ log disk,
    s.note r = { s with records := s.records ++ [r], log, disk } ∧
      (disk = s.disk ∨ ∃ k p line, s.sink = some k ∧ k.file = some p ∧
        disk = s.disk.append p line) := by
  unfold note
  simp only
  split
  · exact ⟨_, _, rfl, .inl rfl⟩
  · rename_i k hsink
    split_ifs
    · exact ⟨_, _, rfl, .inl rfl⟩
    · split
      · rename_i line _
        refine ⟨_, _, rfl, ?_⟩
        cases hfile : k.file with
        | none => exact .inl rfl
        | some p => exact .inr ⟨k, p, line ++ "\n", hsink, hfile, rfl⟩
      · exact ⟨_, _, rfl, .inl rfl⟩

theorem Twins.note (h : Twins c s s') (r : Record) : Twins c (s.note r) (s'.note r) := by
  obtain ⟨log, disk, hnote, hdisk⟩ := s.note_cases r
  obtain ⟨log', disk', hnote', hdisk'⟩ := s'.note_cases r
  have hleft : disk.Twins c.terrain c.out s'.disk := by
    rcases hdisk with rfl | ⟨_, p, line, -, -, rfl⟩
    · exact h.disk
    · exact h.disk.append p line
  have hboth : disk.Twins c.terrain c.out disk' := by
    rcases hdisk' with rfl | ⟨_, p, line, -, -, rfl⟩
    · exact hleft
    · exact (hleft.symm.append p line).symm
  rw [hnote, hnote']
  exact ⟨hboth, h.temp, by rw [h.records], h.output, h.takes, h.left, h.right⟩

theorem read_note {p : Path}
    (hp : (s.disk.terrain.way p).goal ∉ s.disk.terrain.logGoals s.sink) (r : Record) :
    (s.note r).disk.read p = s.disk.read p := by
  obtain ⟨log, disk, hnote, rfl | ⟨k, log, line, hsink, hfile, rfl⟩⟩ := s.note_cases r
  · rw [hnote]
  · rw [hnote]
    exact Disk.read_append (fun heq => hp ⟨k, log, hsink, hfile, heq.symm⟩) line

theorem takes_note (s : Session) (r : Record) : (s.note r).takes = s.takes := by
  obtain ⟨log, disk, hnote, -⟩ := s.note_cases r
  rw [hnote]

theorem isDir_note (p : Path) (r : Record) : (s.note r).disk.isDir p = s.disk.isDir p := by
  obtain ⟨log, disk, hnote, rfl | ⟨k, log, line, -, -, rfl⟩⟩ := s.note_cases r
  · rw [hnote]
  · rw [hnote]
    exact ((Disk.Twins.refl s.disk).append log line).isDir_eq (Disk.clear_empty _ p)

theorem resolve_note (p : Path) (r : Record) : (s.note r).disk.resolve p = s.disk.resolve p := by
  obtain ⟨log, disk, hnote, rfl | ⟨k, log, line, -, -, rfl⟩⟩ := s.note_cases r
  · rw [hnote]
  · rw [hnote]
    exact ((Disk.Twins.refl s.disk).append log line).resolve_eq p

end Session

namespace Work

variable {α : Type} {c : Scene} {s s' : Session}

theorem note_together (h : s.Twins c s') (r : Record) :
    Together (Session.Twins c) (Alike (Session.Twins c)) (Work.note r) (Work.note r) s s' :=
  .of_ok rfl rfl ⟨rfl, h.note r⟩

theorem put_together (h : s.Twins c s') (text : String) :
    Together (Session.Twins c) (Alike (Session.Twins c)) (Work.put text) (Work.put text) s s' := by
  cases htakes : s.takes text with
  | true =>
    refine .of_ok (put_of_takes htakes) (put_of_takes (h.takes ▸ htakes)) ⟨rfl, ?_⟩
    exact ⟨h.disk, h.temp, h.records, by rw [h.output], h.takes, h.left, h.right⟩
  | false => exact .of_error (put_of_not_takes htakes) (put_of_not_takes (h.takes ▸ htakes)) h

theorem onDisk_together {t t' : DiskWork α} (h : s.Twins c s')
    (ht : Together (Disk.Twins c.terrain c.out) (Alike (Disk.Twins c.terrain c.out)) t t' s.disk
      s'.disk) :
    Together (Session.Twins c) (Alike (Session.Twins c)) (Work.onDisk t) (Work.onDisk t') s s' := by
  obtain ⟨houtcome, hdisk⟩ := ht.outcome
  have hafter : Session.Twins c (Work.onDisk t s).2 (Work.onDisk t' s').2 :=
    ⟨hdisk, h.temp, h.records, h.output, h.takes, h.left, h.right⟩
  refine .of_matched ((matched_eq.2 ?_).mono fun _ _ hab => ⟨hab, hafter⟩) hafter
  exact congrArg (Except.mapError Failure.disk) houtcome

theorem ask_together {question question' : Disk → Except DiskError α} (h : s.Twins c s')
    (hanswer : question s.disk = question' s'.disk) :
    Together (Session.Twins c)
      (fun a s₁ b s₁' => (a = b ∧ s₁.Twins c s₁') ∧ question s.disk = .ok a) (Work.ask question)
      (Work.ask question') s s' := by
  cases hq : question s.disk with
  | ok a => exact .of_ok (ask_of_ok hq) (ask_of_ok (hanswer ▸ hq)) ⟨⟨rfl, h⟩, rfl⟩
  | error e => exact .of_error (ask_of_error hq) (ask_of_error (hanswer ▸ hq)) h

theorem get_together (h : s.Twins c s') :
    Together (Session.Twins c) (fun a s b s' => a.Twins c b ∧ s.Twins c s')
      (get : Work Session) (get : Work Session) s s' :=
  .get ⟨h, h⟩

theorem onFailure_together {P : α → Session → α → Session → Prop} {t : Work α}
    (h : Together (Session.Twins c) P t t s s') (f : Failure → Failure) :
    Together (Session.Twins c) P (Work.onFailure t f) (Work.onFailure t f) s s' := by
  have hfst : ∀ s : Session, (Work.onFailure t f s).1 = (t s).1.mapError f := fun _ => rfl
  cases h with
  | ok h h' hP => exact .ok (by rw [hfst, h]; rfl) (by rw [hfst, h']; rfl) hP
  | error h h' hR => exact .error (by rw [hfst, h]; rfl) (by rw [hfst, h']; rfl) hR

end Work

end SetupScript
