import SetupScript.Program.Build
import SetupScript.Proofs.Configuration.Checks
import SetupScript.Proofs.Configuration.Resolved
import SetupScript.Proofs.Files.TwinDisks

/-!
# Usable log settings

A log is started from the settings of a logging block, unless one of them cannot be used
(`Unusable`). Then the program fails with something that it has no message for; otherwise the log is
in place, and the disk has changed by no more than a file for it (`startLog_cases`).
-/

namespace SetupScript

namespace Sink

variable {v : Value}

theorem checkLevel_eq_error : (∃ e, checkLevel v = .error e) ↔ v.isWritable = false := by
  unfold checkLevel
  split_ifs with h
  · exact iff_of_false (by simp) (by simpa using h)
  · exact iff_of_true ⟨_, rfl⟩ (by simpa using h)

/-- Two texts name something else than a threshold. -/
theorem thresholdOf_eq_error : (∃ e, thresholdOf v = .error e) ↔
    ∃ s, v = .text s ∧ (Text.toUpper s = "BASIC_FORMAT" ∨ Text.toUpper s = "_STYLES") := by
  unfold thresholdOf
  split
  · rename_i hnone
    refine iff_of_false (by simp) ?_
    rintro ⟨s, rfl, -⟩
    contradiction
  · rename_i s hs
    obtain rfl := Value.text?_eq_some.1 hs
    simp only [Value.scalar.injEq, Scalar.text.injEq, exists_eq_left']
    split_ifs with hformat hstyles
    · exact iff_of_true ⟨_, rfl⟩ (.inl (beq_iff_eq.1 hformat))
    · exact iff_of_true ⟨_, rfl⟩ (.inr (beq_iff_eq.1 hstyles))
    · exact iff_of_false (by simp) fun h =>
        h.elim (fun h => hformat (beq_iff_eq.2 h)) fun h => hstyles (beq_iff_eq.2 h)

theorem templateOf_eq_error {format : Option Value} : (∃ e, templateOf format = .error e) ↔
    ∃ v, format = some v ∧ v.isNothing = false ∧
      ∀ s, v = .text s → Template.accepted s.toList = false := by
  unfold templateOf
  cases format with
  | none => simp
  | some v =>
    simp only [Option.some.injEq, exists_eq_left']
    split_ifs with hnothing
    · simp [hnothing]
    · rw [and_iff_right (by simpa using hnothing)]
      split
      · rename_i hnone
        refine iff_of_true ⟨_, rfl⟩ ?_
        rintro s rfl
        contradiction
      · rename_i s hs
        obtain rfl := Value.text?_eq_some.1 hs
        split_ifs with haccepted
        · exact iff_of_false (by simp) fun h => by simp [h s rfl] at haccepted
        · refine iff_of_true ⟨_, rfl⟩ ?_
          rintro t ⟨⟩
          simpa using haccepted

theorem pathOf?_eq_error : (∃ e, pathOf? v = .error e) ↔
    v.isNothing = false ∧ (∀ s, v ≠ .text s) ∧ ∀ bs, v ≠ .scalar (.bytes bs) := by
  unfold pathOf?
  split
  · exact iff_of_false (by simp) fun h => h.2.1 _ rfl
  · exact iff_of_false (by simp) fun h => h.2.2 _ rfl
  · rename_i htext hbytes
    split_ifs with hnothing
    · exact iff_of_false (by simp) fun h => by simp [h.1] at hnothing
    · exact iff_of_true ⟨_, rfl⟩ ⟨by simpa using hnothing, htext, hbytes⟩

end Sink

namespace Program

/-- The file that log settings name, if they name one. -/
def logPath? (here : Location) (fields : Fields) : Option Path :=
  ((Sink.pathOf? (fields.field "file_path")).toOption.join).map (Path.normal here)

/-- What keeps a log from being started with some settings. -/
inductive Unusable (verbose : Bool) (fields : Fields) (d : Disk) : Prop
  | longNumber (h : (fields.field "level").isWritable = false)
  | levelName {s : String} (hverbose : verbose = false) (h : fields.field "level" = .text s)
      (hs : Text.toUpper s = "BASIC_FORMAT" ∨ Text.toUpper s = "_STYLES")
  | format {v : Value} (h : fields.field? "format" = some v) (hv : v.isNothing = false)
      (hs : ∀ s, v = .text s → Template.accepted s.toList = false)
  | filePath (hv : (fields.field "file_path").isNothing = false)
      (htext : ∀ s, fields.field "file_path" ≠ .text s)
      (hbytes : ∀ bs, fields.field "file_path" ≠ .scalar (.bytes bs))
  | file {p : Path} {e : DiskError} (hpath : logPath? d.here fields = some p)
      (hopen : d.openLog p = .error e)

/-- A session whose log is started. -/
structure Started (fields : Fields) (s s' : Session) : Prop where
  session : ∃ k, s' = { s with disk := s'.disk, sink := some k } ∧
    k.file = logPath? s.disk.here fields
  disk : match logPath? s.disk.here fields with
    | some p => s.disk.openLog p = .ok s'.disk
    | none => s'.disk = s.disk

variable {verbose : Bool} {fields : Fields} {s : Session} {file : Option Path}

/-- Opens the file of a log, if there is one. -/
def openFile : Option Path → Work Unit
  | some p => Work.onDisk (DiskWork.change (Disk.openLog p))
  | none => return ()

/-- Puts the log in place. -/
def setSink (verbose : Bool) (fields : Fields) (file : Option Path) : Work Unit := do
  let template ← defect (Sink.templateOf (fields.field? "format"))
  let threshold ← if verbose then pure Level.debug.number
    else defect (Sink.thresholdOf (fields.field "level"))
  modify fun s => { s with sink := some ⟨threshold, template, file⟩ }

theorem startLog_eq (verbose : Bool) (fields : Fields) : startLog verbose fields = (do
    defect (Sink.checkLevel (fields.field "level"))
    let file ← defect (Sink.pathOf? (fields.field "file_path"))
    let s ← get
    openFile (file.map (Path.normal s.disk.here))
    setSink verbose fields (file.map (Path.normal s.disk.here))) := by
  unfold startLog
  refine bind_congr fun _ => bind_congr fun file => bind_congr fun s => ?_
  cases file <;> cases verbose <;> simp [openFile, setSink]

theorem defect_of_ok {α : Type} {r : Except Defect α} {a : α} (h : r = .ok a) (s : Session) :
    defect r s = (.ok a, s) :=
  Work.ofExcept_of_ok (by rw [h]; rfl) s

theorem defect_of_error {α : Type} {r : Except Defect α} {e : Defect} (h : r = .error e)
    (s : Session) : defect r s = (.error (.defect e), s) := by
  rw [h]
  rfl

theorem openFile_cases (file : Option Path) (s : Session) :
    (∃ p e, file = some p ∧ s.disk.openLog p = .error e ∧
      openFile file s = (.error (.disk e), s)) ∨
    ∃ d, openFile file s = (.ok (), { s with disk := d }) ∧ match file with
      | some p => s.disk.openLog p = .ok d
      | none => d = s.disk := by
  cases file with
  | none => exact .inr ⟨s.disk, rfl, rfl⟩
  | some p =>
    cases h : s.disk.openLog p with
    | error e =>
      have hchange : DiskWork.change (Disk.openLog p) s.disk = (.error e, s.disk) := by
        rw [DiskWork.change, h]
      refine .inl ⟨p, e, rfl, h, ?_⟩
      rw [openFile, Work.onDisk, hchange]
      rfl
    | ok d =>
      have hchange : DiskWork.change (Disk.openLog p) s.disk = (.ok (), d) := by
        rw [DiskWork.change, h]
      refine .inr ⟨d, ?_, h⟩
      rw [openFile, Work.onDisk, hchange]
      rfl

theorem setSink_cases (verbose : Bool) (fields : Fields) (file : Option Path) (s : Session) :
    (((∃ e, Sink.templateOf (fields.field? "format") = .error e) ∨
      verbose = false ∧ ∃ e, Sink.thresholdOf (fields.field "level") = .error e) ∧
        ∃ e, (setSink verbose fields file s).1 = .error (.defect e)) ∨
    (∃ template, Sink.templateOf (fields.field? "format") = .ok template) ∧
      (verbose = false → ∃ threshold, Sink.thresholdOf (fields.field "level") = .ok threshold) ∧
        ∃ k, setSink verbose fields file s = (.ok (), { s with sink := some k }) ∧
          k.file = file := by
  unfold setSink
  cases htemplate : Sink.templateOf (fields.field? "format") with
  | error e =>
    refine .inl ⟨.inl ⟨e, rfl⟩, e, ?_⟩
    rw [Work.bind_of_error (defect_of_error rfl s)]
  | ok template =>
    rw [Work.bind_of_ok (defect_of_ok rfl s)]
    cases verbose with
    | true => exact .inr ⟨⟨template, rfl⟩, nofun, _, rfl, rfl⟩
    | false =>
      cases hthreshold : Sink.thresholdOf (fields.field "level") with
      | error e => exact .inl ⟨.inr ⟨rfl, e, rfl⟩, e, rfl⟩
      | ok threshold => exact .inr ⟨⟨template, rfl⟩, fun _ => ⟨threshold, rfl⟩, _, rfl, rfl⟩

/-- Settings are unusable where one of the steps that read them fails. -/
theorem unusable_iff {d : Disk} : Unusable verbose fields d ↔
    (∃ e, Sink.checkLevel (fields.field "level") = .error e) ∨
    (∃ e, Sink.pathOf? (fields.field "file_path") = .error e) ∨
    (∃ p e, logPath? d.here fields = some p ∧ d.openLog p = .error e) ∨
    (∃ e, Sink.templateOf (fields.field? "format") = .error e) ∨
    verbose = false ∧ ∃ e, Sink.thresholdOf (fields.field "level") = .error e := by
  constructor
  · intro h
    cases h with
    | longNumber h => exact .inl (Sink.checkLevel_eq_error.2 h)
    | filePath hv htext hbytes => exact .inr (.inl (Sink.pathOf?_eq_error.2 ⟨hv, htext, hbytes⟩))
    | file hpath hopen => exact .inr (.inr (.inl ⟨_, _, hpath, hopen⟩))
    | format h hv hs => exact .inr (.inr (.inr (.inl (Sink.templateOf_eq_error.2 ⟨_, h, hv, hs⟩))))
    | levelName hverbose h hs =>
      exact .inr (.inr (.inr (.inr ⟨hverbose, Sink.thresholdOf_eq_error.2 ⟨_, h, hs⟩⟩)))
  · rintro (h | h | ⟨p, e, hpath, hopen⟩ | h | ⟨hverbose, h⟩)
    · exact .longNumber (Sink.checkLevel_eq_error.1 h)
    · obtain ⟨hv, htext, hbytes⟩ := Sink.pathOf?_eq_error.1 h
      exact .filePath hv htext hbytes
    · exact .file hpath hopen
    · obtain ⟨v, hv, hnothing, htext⟩ := Sink.templateOf_eq_error.1 h
      exact .format hv hnothing htext
    · obtain ⟨t, ht, hname⟩ := Sink.thresholdOf_eq_error.1 h
      exact .levelName hverbose ht hname

/-- A log is started, or one of its settings is unusable and nothing reports that. -/
theorem startLog_cases (verbose : Bool) (fields : Fields) (s : Session) :
    (Unusable verbose fields s.disk ∧
      ∃ f, (startLog verbose fields s).1 = .error f ∧ f.told? = none) ∨
    ¬ Unusable verbose fields s.disk ∧
      ∃ s', startLog verbose fields s = (.ok (), s') ∧ Started fields s s' := by
  rw [startLog_eq, unusable_iff]
  cases hlevel : Sink.checkLevel (fields.field "level") with
  | error e =>
    refine .inl ⟨.inl ⟨e, rfl⟩, .defect e, ?_, rfl⟩
    rw [Work.bind_of_error (defect_of_error rfl s)]
  | ok _ =>
  rw [Work.bind_of_ok (defect_of_ok rfl s)]
  cases hpath : Sink.pathOf? (fields.field "file_path") with
  | error e =>
    refine .inl ⟨.inr (.inl ⟨e, rfl⟩), .defect e, ?_, rfl⟩
    rw [Work.bind_of_error (defect_of_error rfl s)]
  | ok file =>
  have hlog : file.map (Path.normal s.disk.here) = logPath? s.disk.here fields := by
    rw [logPath?, hpath]
    rfl
  rw [Work.bind_of_ok (defect_of_ok rfl s), Work.bind_of_ok (Work.get_eq s), hlog]
  rcases openFile_cases (logPath? s.disk.here fields) s with
    ⟨p, e, hp, herror, hopen⟩ | ⟨d, hopen, hd⟩
  · refine .inl ⟨.inr (.inr (.inl ⟨p, e, hp, herror⟩)), .disk e, ?_, rfl⟩
    rw [Work.bind_of_error hopen]
  rw [Work.bind_of_ok hopen]
  rcases setSink_cases verbose fields (logPath? s.disk.here fields) { s with disk := d } with
    ⟨hfault, e, he⟩ | ⟨⟨template, htemplate⟩, hthreshold, k, hk, hfile⟩
  · exact .inl ⟨.inr (.inr (.inr hfault)), .defect e, he, rfl⟩
  refine .inr ⟨?_, _, hk, ⟨k, rfl, hfile⟩, hd⟩
  rintro (⟨e, he⟩ | ⟨e, he⟩ | ⟨p, e, hp, he⟩ | ⟨e, he⟩ | ⟨hverbose, e, he⟩)
  · contradiction
  · contradiction
  · rw [hp] at hd
    rw [hd] at he
    contradiction
  · rw [htemplate] at he
    contradiction
  · obtain ⟨threshold, hok⟩ := hthreshold hverbose
    rw [hok] at he
    contradiction

/-! ## Started logs -/

/-- Where a file is made for a log, if it has one and it is not there yet. -/
def madeFor (log : Option Path) (d : Disk) : Set Location :=
  {place | ∃ p, log = some p ∧ place ∈ d.logMade p}

theorem madeFor_some (p : Path) (d : Disk) : madeFor (some p) d = d.logMade p := by
  ext place
  constructor
  · rintro ⟨_, ⟨⟩, h⟩
    exact h
  · exact fun h => ⟨p, rfl, h⟩

theorem madeFor_none (d : Disk) : madeFor none d = ∅ :=
  Set.eq_empty_of_forall_notMem fun _ ⟨_, h, _⟩ => by contradiction

variable {s' : Session}

theorem Started.twins (h : Started fields s s') :
    s'.disk.Twins s.disk.terrain (madeFor (logPath? s.disk.here fields) s.disk) s.disk := by
  have hdisk := h.disk
  cases hlog : logPath? s.disk.here fields with
  | none =>
    rw [hlog] at hdisk
    rw [madeFor_none, hdisk]
    exact .refl _
  | some p =>
    rw [hlog] at hdisk
    rw [madeFor_some]
    exact Disk.openLog_twins hdisk

/-- A file is read as before its log was started, unless it is the log. -/
theorem Started.read_eq (h : Started fields s s') {q : Path}
    (hq : s.disk.terrain.Clear (madeFor (logPath? s.disk.here fields) s.disk) q) :
    s'.disk.read q = s.disk.read q := by
  have hdisk := h.disk
  cases hlog : logPath? s.disk.here fields with
  | none =>
    rw [hlog] at hdisk
    rw [hdisk]
  | some p =>
    rw [hlog] at hdisk hq
    rw [madeFor_some] at hq
    exact Disk.read_openLog hdisk hq

theorem not_unusable_of_ok (h : (startLog verbose fields s).1 = .ok ()) :
    ¬ Unusable verbose fields s.disk := by
  refine ((startLog_cases verbose fields s).resolve_left ?_).1
  rintro ⟨-, f, hf, -⟩
  rw [h] at hf
  contradiction

theorem startLog_nil (verbose : Bool) (s : Session) :
    ∃ s', startLog verbose [] s = (.ok (), s') ∧ Started [] s s' :=
  ((startLog_cases verbose [] s).resolve_left fun h =>
    not_unusable_of_ok (by cases verbose <;> rfl) h.1).2

/-! ## The logging block -/

/-- The settings of a descriptor's logging block. -/
def loggingOf (v : Value) : Fields := ((Resolve.blockOf v).field "logging").fields?.getD []

theorem logFields_of_read {p : Path} {d : Disk} {v : Value} (h : readDescriptor p d = .ok v) :
    logFields p d = .ok (loggingOf v) := by
  rw [logFields, h]
  simp only
  unfold loggingOf Resolve.blockOf Resolve.outerOf
  cases v.fields? with
  | none => rfl
  | some outer =>
    simp only [Option.bind_some, Option.getD_some]
    cases (outer.field blockName).fields? with
    | none => rfl
    | some block => rfl

end Program

end SetupScript
