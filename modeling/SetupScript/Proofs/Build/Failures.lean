import Mathlib.Data.String.Basic
import SetupScript.Proofs.Build.Encodable
import SetupScript.Proofs.Build.Twins
import SetupScript.Proofs.Files.Refusals

/-!
# What a build fails with

Whatever the disk refuses a build is reported as a script error. Four failures are not
(`Builder.Escape`): that of the question whether the application's directory is there, which is
asked before the refusals are caught; that of a path for staged files that the system cannot be
passed; that of a number of the sign tool which has too many digits to be written; and that of a
script for which there are no bytes. `Builder.build_script_iff` says that there are no others.
-/

namespace SetupScript

/-- A refusal by the system that nothing has reported yet. -/
def Failure.IsRefused (f : Failure) : Prop := ∃ e : DiskError, f = .disk e ∧ e.isRefusal = true

namespace Session

variable {s : Session}

theorem here_note (r : Record) : (s.note r).disk.here = s.disk.here := by
  obtain ⟨log, disk, hnote, rfl | ⟨k, log, line, -, -, rfl⟩⟩ := s.note_cases r
  · rw [hnote]
  · rw [hnote]
    exact ((Disk.Twins.refl s.disk).append log line).here_eq

end Session

namespace Work

variable {α : Type} {here : Location} {s : Session} {P : α → Prop}

/-- Work in some directory that fails only where the system refuses it. -/
abbrev Refusable (here : Location) (post : α → Prop) (t : Work α) (s : Session) : Prop :=
  Gives (fun a s' => post a ∧ s'.disk.here = here) Failure.IsRefused t s

theorem onDisk_refusable {t : DiskWork α} (h : DiskWork.Refusable here P t s.disk) :
    Refusable here P (Work.onDisk t) s := by
  have hrun : Work.onDisk t s = ((t s.disk).1.mapError .disk, { s with disk := (t s.disk).2 }) :=
    rfl
  cases h with
  | ok ht hP =>
    rw [ht] at hrun
    exact .of_ok hrun hP
  | error ht he =>
    rw [ht] at hrun
    exact .of_error hrun ⟨_, rfl, he⟩

theorem ask_refusable {question : Disk → Except DiskError α} (hs : s.disk.here = here)
    (h : ∀ e, question s.disk = .error e → ∃ f, e = .fault f) :
    Refusable here (fun a => question s.disk = .ok a) (Work.ask question) s :=
  onDisk_refusable (DiskWork.ask_refusable hs h)

theorem note_refusable (hs : s.disk.here = here) (r : Record) :
    Refusable here (fun _ => True) (Work.note r) s :=
  .of_ok rfl ⟨trivial, (Session.here_note r).trans hs⟩

end Work

namespace Staging

variable {here : Location} {s : Session} {d : Disk} {logger name : String} {dir target : Path}
  {dirs : List Path}

theorem findIn_eq_fault {e : DiskError} : ∀ {dirs : List Path}, findIn d name dirs = .error e →
    ∃ f, e = .fault f
  | [], h => by simp [findIn] at h
  | dir :: dirs, h => by
    rw [findIn] at h
    cases hfile : d.isFile (dir.child name) with
    | error e' =>
      rw [hfile] at h
      obtain rfl := Except.error.inj h
      exact ⟨_, Disk.leadsTo_eq_error hfile⟩
    | ok found =>
      rw [hfile] at h
      cases found with
      | true => contradiction
      | false => exact findIn_eq_fault h

theorem findLibraries_eq_fault {e : DiskError} : ∀ {names : List String},
    findLibraries dirs d names = .error e → ∃ f, e = .fault f
  | [], h => by simp [findLibraries] at h
  | name :: names, h => by
    rw [findLibraries] at h
    cases hfound : findIn d name dirs with
    | error e' =>
      rw [hfound] at h
      obtain rfl := Except.error.inj h
      exact findIn_eq_fault hfound
    | ok found =>
      cases hothers : findLibraries dirs d names with
      | error e' =>
        rw [hfound, hothers] at h
        obtain rfl := Except.error.inj h
        exact findLibraries_eq_fault hothers
      | ok others =>
        rw [hfound, hothers] at h
        contradiction

theorem isNameable_of_mem_libraryNames : ∀ name ∈ libraryNames, Text.isNameable name = true := by
  decide

theorem writeIcon_refusable (hs : s.disk.here = here) (hhere : Nameable here)
    (hdir : dir.isNameable = true) :
    Work.Refusable here (fun _ => True) (writeIcon logger dir) s := by
  unfold writeIcon
  refine (Work.onDisk_refusable (DiskWork.ensureDirs_refusable hs hdir)).bind fun _ s₁ ⟨_, h₁⟩ => ?_
  refine (Gives.get (P := fun a b => a = b ∧ b.disk.here = here) ⟨rfl, h₁⟩).bind
    fun a s₂ ⟨ha, h₂⟩ => ?_
  have hicon : ((dir.descend [iconName]).absolute a.disk.here).isNameable = true := by
    rw [ha, h₂]
    exact Path.isNameable_absolute hhere (Path.isNameable_descend hdir (.singleton (by decide)))
  refine (Work.onDisk_refusable (DiskWork.write_refusable h₂ hicon)).bind fun _ s₃ ⟨_, h₃⟩ => ?_
  exact (Work.note_refusable h₃ _).bind fun _ _ h₄ => .pure h₄

theorem copyAll_refusable (hhere : Nameable here) (htarget : target.isNameable = true)
    {sources : List Path} {s : Session} (hs : s.disk.here = here)
    (hsources : ∀ p ∈ sources, p.isNameable = true ∧ Text.isNameable p.name = true) :
    Work.Refusable here (fun _ => True) (copyAll logger target sources) s := by
  induction sources generalizing s with
  | nil => exact .pure ⟨trivial, hs⟩
  | cons source sources ih =>
    obtain ⟨⟨hsource, hname⟩, hrest⟩ := List.forall_mem_cons.1 hsources
    unfold copyAll
    refine (Gives.get (P := fun a b => a = b ∧ b.disk.here = here) ⟨rfl, hs⟩).bind ?_
    rintro s₁ _ ⟨rfl, h₁⟩
    have hcopy : ((target.descend [source.name]).absolute s₁.disk.here).isNameable = true := by
      rw [h₁]
      exact Path.isNameable_absolute hhere (Path.isNameable_descend htarget (.singleton hname))
    refine (Work.onDisk_refusable (DiskWork.copy_refusable h₁ hsource hcopy)).bind ?_
    rintro - s₂ ⟨-, h₂⟩
    refine (Work.note_refusable h₂ _).bind ?_
    rintro - s₃ ⟨-, h₃⟩
    refine (ih h₃ hrest).bind ?_
    rintro - _ ⟨-, h₄⟩
    exact .pure ⟨trivial, h₄⟩

/-- The system could be asked about the libraries that were found. -/
theorem stageLibraries_refusable (hs : s.disk.here = here) (hhere : Nameable here)
    (htarget : target.isNameable = true) :
    Work.Refusable here (fun _ => True) (stageLibraries logger dirs target) s := by
  unfold stageLibraries
  refine (Work.onDisk_refusable (DiskWork.ensureDirs_refusable hs htarget)).bind
    fun _ s₁ ⟨_, h₁⟩ => ?_
  refine (Work.ask_refusable h₁ fun _ => findLibraries_eq_fault).bind
    fun sources s₂ ⟨hsources, h₂⟩ => ?_
  refine copyAll_refusable hhere htarget h₂ fun p hp => ?_
  have hname := name_mem_of_findLibraries (fun _ h => h) hsources p hp
  obtain ⟨-, -, -, -, -, hfile⟩ := exists_of_findLibraries hsources p hp
  exact ⟨Disk.isNameable_of_leadsTo hfile, isNameable_of_mem_libraryNames _ hname⟩

end Staging

namespace Builder

/-- The part of a build that comes before the script is rendered. -/
def staging (b : Builder) : Work (String × List Path) := do
  let icon ← b.icon
  let staged := (b.stagingDir (← get).disk.here).descend [b.config.variant.dirName]
  let libraries ← Staging.stageLibraries b.logger b.systemDirs staged
  return (icon, libraries)

/-- Whether the numbers of the sign tool, if there is one, can be written. -/
def isWritable (b : Builder) : Bool := b.config.signTool.all SignTool.isWritable

/-- The ways in which a build can fail with something other than a script error. All but the first
need the application's directory to be there. -/
inductive Escape (b : Builder) (s : Session) : Prop
  | tooLong (h : s.disk.isDir b.appDir = .error (.fault ⟨.nameTooLong, b.appDir.text⟩))
  | unnameable (hdir : s.disk.isDir b.appDir = .ok true)
      (hname : (b.stagingDir s.disk.here).isNameable = false)
  | unwritable (hdir : s.disk.isDir b.appDir = .ok true) {staged : String × List Path}
      (hstaged : (b.staging (s.note b.opening)).1 = .ok staged) (htool : b.isWritable = false)
  | unencodable (hdir : s.disk.isDir b.appDir = .ok true) {text : String} {s' : Session}
      (hprepared : b.prepare (s.note b.opening) = (.ok text, s')) {d : Disk}
      (hopened : s'.disk.writeFile b.scriptPath (Text.toBytes text) = .ok d)
      (htext : Text.isEncodable text = false)

variable {b : Builder} {s s' : Session} {here : Location}

theorem prepare_eq (b : Builder) : b.prepare = b.staging >>= fun x => do
    let text ← b.render x.1 x.2
    Work.onDisk (DiskWork.ensureDirs b.outputDir)
    return text := by
  simp only [prepare, staging, bind_assoc, pure_bind]

theorem isNameable_dirName (v : Variant) : Text.isNameable v.dirName = true := by
  cases v <;> decide

theorem nameable_buildDir (part : String) (v : Variant) (hpart : Text.isNameable part = true) :
    Nameable (buildDir part v) := by
  have hnames : Nameable ["build", "windows", "x64"] := by decide
  exact hnames.append (.append (.singleton hpart) (.singleton (isNameable_dirName v)))

theorem isNameable_outputDir (hproject : b.projectDir.isNameable = true) :
    b.outputDir.isNameable = true :=
  Path.isNameable_descend hproject (nameable_buildDir _ _ (by decide))

theorem isNameable_scriptPath (hproject : b.projectDir.isNameable = true) :
    b.scriptPath.isNameable = true :=
  Path.isNameable_descend (isNameable_outputDir hproject) (.singleton (by decide))

theorem note_refusable (hs : s.disk.here = here) (level : Level) (pattern : String)
    (arguments : List Argument) (origin : Origin) :
    Work.Refusable here (fun _ => True) (b.note level pattern arguments origin) s :=
  Work.note_refusable hs _

theorem entry_refusable (hs : s.disk.here = here) (name : String) :
    Work.Refusable here (fun _ => True) (b.entry name) s := by
  unfold entry
  refine (Work.ask_refusable hs fun _ h => ⟨_, Disk.leadsTo_eq_error h⟩).bind
    fun isDir s₁ ⟨_, h₁⟩ => ?_
  refine (Gives.get (P := fun _ s => s.disk.here = here) h₁).bind fun a s₂ h₂ => ?_
  dsimp only
  split_ifs
  · exact (note_refusable h₂ _ _ _ _).bind fun _ _ h₃ => .pure h₃
  · exact .pure ⟨trivial, h₂⟩

theorem entries_refusable (happ : b.appDir.isNameable = true) (hs : s.disk.here = here) :
    Work.Refusable here (fun _ => True) b.entries s := by
  unfold entries
  refine (Work.ask_refusable hs fun _ h => Disk.names_eq_fault happ h).bind
    fun names s₁ ⟨_, h₁⟩ => ?_
  have hentries : ∀ name ∈ names.mergeSort fun m n => decide (m ≤ n), ∀ s : Session,
      s.disk.here = here →
        Gives (fun _ s' => s'.disk.here = here) Failure.IsRefused (b.entry name) s :=
    fun name _ s hs => (entry_refusable hs name).mono fun _ _ h => h.2
  exact (Gives.mapM hentries h₁).mono fun _ _ h => ⟨trivial, h⟩

theorem render_refusable (happ : b.appDir.isNameable = true) (htool : b.isWritable = true)
    (hs : s.disk.here = here) (icon : String) (libraries : List Path) :
    Work.Refusable here (fun _ => True) (b.render icon libraries) s := by
  unfold isWritable at htool
  unfold render
  rw [htool]
  exact (entries_refusable happ hs).bind fun _ _ ⟨_, h₁⟩ => .pure ⟨trivial, h₁⟩

section Refusals

variable (hhere : Nameable here) (hstaging : (b.stagingDir here).isNameable = true)

include hhere hstaging

theorem icon_refusable (hs : s.disk.here = here) :
    Work.Refusable here (fun _ => True) b.icon s := by
  unfold icon
  split_ifs
  · exact .pure ⟨trivial, hs⟩
  · refine (Gives.get (P := fun a s => a = s ∧ s.disk.here = here) ⟨rfl, hs⟩).bind
      fun a s₁ ⟨ha, h₁⟩ => ?_
    rw [ha, h₁]
    exact (Staging.writeIcon_refusable h₁ hhere hstaging).bind fun _ _ h₂ => .pure h₂

theorem staging_refusable (hs : s.disk.here = here) :
    Work.Refusable here (fun _ => True) b.staging s := by
  unfold staging
  refine (icon_refusable hhere hstaging hs).bind fun icon s₁ ⟨_, h₁⟩ => ?_
  refine (Gives.get (P := fun a s => a = s ∧ s.disk.here = here) ⟨rfl, h₁⟩).bind
    fun a s₂ ⟨ha, h₂⟩ => ?_
  rw [ha, h₂]
  have hstaged := Path.isNameable_descend hstaging
    (.singleton (isNameable_dirName b.config.variant))
  exact (Staging.stageLibraries_refusable h₂ hhere hstaged).bind fun _ _ h₃ => .pure h₃

theorem prepare_refusable (happ : b.appDir.isNameable = true)
    (hproject : b.projectDir.isNameable = true) (htool : b.isWritable = true)
    (hs : s.disk.here = here) :
    Work.Refusable here (fun _ => True) b.prepare s := by
  rw [prepare_eq]
  refine (staging_refusable hhere hstaging hs).bind fun staged s₁ ⟨_, h₁⟩ => ?_
  refine (render_refusable happ htool h₁ _ _).bind fun text s₂ ⟨_, h₂⟩ => ?_
  exact (Work.onDisk_refusable (DiskWork.ensureDirs_refusable h₂
    (isNameable_outputDir hproject))).bind fun _ _ h₃ => .pure h₃

end Refusals

/-! ## Escapes -/

theorem icon_of_not_isNameable (hicon : b.config.usesDefaultIcon = true)
    (hname : (b.stagingDir s.disk.here).isNameable = false) :
    b.icon s = (.error (.disk .unnameable), s) := by
  have hmake : Work.onDisk (DiskWork.ensureDirs (b.stagingDir s.disk.here)) s =
      (.error (.disk .unnameable), s) := by
    rw [Work.onDisk, DiskWork.ensureDirs_of_not_isNameable hname]
    rfl
  rw [icon, hicon, Bool.not_true, if_neg Bool.false_ne_true, Work.bind_of_ok (Work.get_eq s),
    Staging.writeIcon]
  exact Work.bind_of_error (Work.bind_of_error hmake _) _

/-- Where the icon needs no staging, the libraries are the first to ask for the directory. -/
theorem steps_of_not_isNameable (hname : (b.stagingDir s.disk.here).isNameable = false) :
    (b.steps s).1 = .error (.disk .unnameable) := by
  have hprepare : (b.prepare s).1 = .error (.disk .unnameable) := by
    unfold prepare
    cases hicon : b.config.usesDefaultIcon with
    | true => rw [Work.bind_of_error (icon_of_not_isNameable hicon hname)]
    | false =>
      have hplain : b.icon s = (.ok b.config.iconText, s) := by
        rw [icon, hicon]
        rfl
      have hstaged : ((b.stagingDir s.disk.here).descend [b.config.variant.dirName]).isNameable =
          false := by
        rw [← Bool.not_eq_true] at hname ⊢
        exact fun h => hname (Path.isNameable_of_descend h)
      have hmake : Work.onDisk (DiskWork.ensureDirs
          ((b.stagingDir s.disk.here).descend [b.config.variant.dirName])) s =
            (.error (.disk .unnameable), s) := by
        rw [Work.onDisk, DiskWork.ensureDirs_of_not_isNameable hstaged]
        rfl
      rw [Work.bind_of_ok hplain, Work.bind_of_ok (Work.get_eq s), Staging.stageLibraries,
        Work.bind_of_error (Work.bind_of_error hmake _)]
  rw [steps, Work.bind_of_error (Prod.ext hprepare rfl)]

/-- Rendering fails at once where a number of the sign tool cannot be written. -/
theorem steps_of_not_isWritable (htool : b.isWritable = false) {staged : String × List Path}
    (hstaged : b.staging s = (.ok staged, s')) :
    (b.steps s).1 = .error (.defect .numberTooLong) := by
  have hrender : b.render staged.1 staged.2 s' = (.error (.defect .numberTooLong), s') := by
    unfold isWritable at htool
    unfold render
    rw [htool]
    rfl
  unfold steps
  rw [prepare_eq, bind_assoc, Work.bind_of_ok hstaged, bind_assoc, Work.bind_of_error hrender]

theorem steps_of_prepare {text : String} (h : b.prepare s = (.ok text, s')) :
    b.steps s = b.publish text s' := by
  rw [steps, Work.bind_of_ok h]

/-- Each of the escapes leads out of a build with a failure that it does not word. -/
theorem Escape.failure (h : b.Escape s) : ∃ f, (b.build s).1 = .error f ∧ f.told? = none := by
  have hhere : (s.note b.opening).disk.here = s.disk.here := Session.here_note _
  rw [build_fst]
  cases h with
  | tooLong h => exact ⟨_, by rw [h], rfl⟩
  | unnameable hdir hname =>
    rw [← hhere] at hname
    exact ⟨_, by rw [hdir, steps_of_not_isNameable hname]; rfl, rfl⟩
  | unwritable hdir hstaged htool =>
    exact ⟨_, by rw [hdir, steps_of_not_isWritable htool (Prod.ext hstaged rfl)]; rfl, rfl⟩
  | unencodable hdir hprepared hopened htext =>
    refine ⟨.defect .unencodable, ?_, rfl⟩
    rw [hdir, steps_of_prepare hprepared, b.publish_of_ok hopened, htext]
    rfl

/-! ## The whole build -/

theorem report_of_isRefused {f : Failure} (h : f.IsRefused) : ∃ e, report f = .script e := by
  obtain ⟨e, rfl, he⟩ := h
  exact ⟨.broken e, if_pos he⟩

/-- The steps of a build succeed or are refused something by the disk, where no escape is taken. -/
theorem steps_outcome (hhere : Nameable s.disk.here) (hproject : b.projectDir.isNameable = true)
    (hdir : s.disk.isDir b.appDir = .ok true) (hescape : ¬ b.Escape s) :
    (∃ a, (b.steps (s.note b.opening)).1 = .ok a) ∨
      ∃ f, (b.steps (s.note b.opening)).1 = .error f ∧ f.IsRefused := by
  have hstarted : (s.note b.opening).disk.here = s.disk.here := Session.here_note _
  have happ : b.appDir.isNameable = true := Disk.isNameable_of_leadsTo hdir
  have hstaging : (b.stagingDir s.disk.here).isNameable = true :=
    eq_true_of_ne_false fun h => hescape (.unnameable hdir h)
  cases staging_refusable hhere hstaging hstarted with
  | error herror hf =>
    refine .inr ⟨_, ?_, hf⟩
    rw [steps, prepare_eq, bind_assoc, Work.bind_of_error (Prod.ext herror rfl)]
  | ok hstaged =>
    have htool : b.isWritable = true :=
      eq_true_of_ne_false fun h => hescape (.unwritable hdir hstaged h)
    cases prepare_refusable hhere hstaging happ hproject htool hstarted with
    | error herror hf =>
      exact .inr ⟨_, by rw [steps, Work.bind_of_error (Prod.ext herror rfl)], hf⟩
    | @ok text hok =>
      have hprepared : b.prepare (s.note b.opening) =
        (.ok text, (b.prepare (s.note b.opening)).2) := Prod.ext hok rfl
      rw [steps_of_prepare hprepared]
      cases hwrite : (b.prepare (s.note b.opening)).2.disk.writeFile b.scriptPath
          (Text.toBytes text) with
      | error e =>
        obtain ⟨f, rfl⟩ := Disk.writeFile_eq_fault (isNameable_scriptPath hproject) hwrite
        exact .inr ⟨_, by rw [b.publish_of_error hwrite], _, rfl, rfl⟩
      | ok d =>
        have htext : Text.isEncodable text = true :=
          eq_true_of_ne_false fun h => hescape (.unencodable hdir hprepared hwrite h)
        exact .inl ⟨_, by rw [b.publish_of_ok hwrite, if_pos htext]⟩

/-- A build gives an artifact or fails with a script error, unless one of the escapes is taken. -/
theorem script_iff_not_escape (hhere : Nameable s.disk.here)
    (hproject : b.projectDir.isNameable = true) :
    ((∃ a, (b.build s).1 = .ok a) ∨ ∃ e, (b.build s).1 = .error (.script e)) ↔ ¬ b.Escape s := by
  constructor
  · intro h hescape
    obtain ⟨f, hf, htold⟩ := hescape.failure
    rw [hf] at h
    rcases h with ⟨a, h⟩ | ⟨e, h⟩
    · contradiction
    · rw [Except.error.inj h] at htold
      contradiction
  · intro hescape
    rw [build_fst]
    cases hdir : s.disk.isDir b.appDir with
    | error e =>
      obtain rfl := Disk.leadsTo_eq_error hdir
      exact absurd (.tooLong hdir) hescape
    | ok isDir =>
      cases isDir with
      | false => exact .inr ⟨_, rfl⟩
      | true =>
        simp only
        rcases steps_outcome hhere hproject hdir hescape with ⟨a, ha⟩ | ⟨f, hf, hrefused⟩
        · exact .inl ⟨a, by rw [ha]; rfl⟩
        · obtain ⟨e, he⟩ := report_of_isRefused hrefused
          exact .inr ⟨e, by rw [hf, ← he]; rfl⟩

theorem make_eq_ok {config : Configuration} {appDir projectDir tempDir : Path}
    {systemDirs : List Path} {logger : String} :
    (Builder.make config appDir projectDir tempDir systemDirs logger s).1 = .ok b ↔
      ∃ root, s.disk.resolve projectDir = .ok root ∧
        b = ⟨config, appDir, root, tempDir, systemDirs, logger⟩ := by
  cases hroot : s.disk.resolve projectDir with
  | error e =>
    unfold Builder.make
    rw [Work.bind_of_error (Work.ask_of_error hroot)]
    simp
  | ok root =>
    rw [make_of_ok hroot]
    simp [eq_comm]

/-- A builder, whatever paths it is made with, gives an artifact or fails with a script error,
unless one of the escapes is taken. -/
theorem build_script_iff {config : Configuration} {appDir projectDir tempDir : Path}
    {systemDirs : List Path} {logger : String} (hd : s.disk.Nameable)
    (hmake : (Builder.make config appDir projectDir tempDir systemDirs logger s).1 = .ok b) :
    ((∃ a, (b.build s).1 = .ok a) ∨ ∃ e, (b.build s).1 = .error (.script e)) ↔ ¬ b.Escape s := by
  obtain ⟨root, hroot, rfl⟩ := make_eq_ok.1 hmake
  exact script_iff_not_escape hd.here (Disk.isNameable_of_resolve hd hroot)

/-- A session on a disk with nothing on it. -/
def blankSession : Session := .begin ⟨.empty, []⟩ ⟨.root, ["tmp"]⟩ "now"

theorem nameable_blankSession : blankSession.disk.Nameable :=
  ⟨nofun, fun place target h => absurd h (FileTree.linkFree_empty place target)⟩

theorem resolve_wordy : ∃ c, resolve ⟨.empty, []⟩ wordyDescriptor .default ⟨.root, []⟩ = .ok c :=
  ⟨_, rfl⟩

theorem build_script_iff_blank : ∃ c b,
    resolve ⟨.empty, []⟩ wordyDescriptor .default ⟨.root, []⟩ = .ok c ∧
      (Builder.make c ⟨.root, ["app"]⟩ ⟨.root, ["project"]⟩ ⟨.root, ["tmp"]⟩ [] "log"
        blankSession).1 = .ok b ∧
      (((∃ a, (b.build blankSession).1 = .ok a) ∨
        ∃ e, (b.build blankSession).1 = .error (.script e)) ↔ ¬ b.Escape blankSession) ∧
      ¬ b.Escape blankSession := by
  obtain ⟨c, hc⟩ := resolve_wordy
  obtain ⟨b, hmake⟩ : ∃ b, (Builder.make c ⟨.root, ["app"]⟩ ⟨.root, ["project"]⟩ ⟨.root, ["tmp"]⟩ []
      "log" blankSession).1 = .ok b := ⟨_, rfl⟩
  have hdir : blankSession.disk.isDir b.appDir = .ok false := by
    obtain ⟨root, -, rfl⟩ := make_eq_ok.1 hmake
    rfl
  refine ⟨c, b, hc, hmake, build_script_iff nameable_blankSession hmake, fun hescape => ?_⟩
  obtain ⟨f, hf, htold⟩ := hescape.failure
  rw [build_fst, hdir] at hf
  rw [← Except.error.inj hf] at htold
  contradiction

theorem isDir_of_nameLimit {d : Disk} {name : String} (hname : Text.isNameable name = true)
    (hlong : nameLimit < Text.nameSize name) :
    d.isDir ⟨.root, [name]⟩ = .error (.fault ⟨.nameTooLong, "/" ++ name⟩) := by
  have hplain : IsPlain name := by
    refine ⟨?_, ?_, ?_⟩ <;>
      · rintro rfl
        exact absurd hlong (by decide)
  have htext : Path.text ⟨.root, [name]⟩ = "/" ++ name := rfl
  have hpath : Path.isNameable ⟨.root, [name]⟩ = true := Path.isNameable_iff.2 (.singleton hname)
  have hwalk : d.tree.walk linkLimit .follow (d.start ⟨.root, [name]⟩) [name] =
      .error .nameTooLong := (FileTree.Walks.tooLong hplain hlong).eq
  have hfind : d.find .follow ⟨.root, [name]⟩ = .error (.fault ⟨.nameTooLong, "/" ++ name⟩) := by
    rw [Disk.find, hpath, hwalk, htext, Bool.not_true, if_neg Bool.false_ne_true]
    exact ite_self _
  rw [Disk.isDir, Disk.leadsTo, Disk.lookup?, Disk.entry, hfind]
  rfl

/-- Too long a name for the application's directory is not reported as a script error. -/
theorem build_of_nameLimit {name : String} (happ : b.appDir = ⟨.root, [name]⟩)
    (hname : Text.isNameable name = true) (hlong : nameLimit < Text.nameSize name) :
    (b.build s).1 = .error (.disk (.fault ⟨.nameTooLong, "/" ++ name⟩)) := by
  rw [build_fst, happ, isDir_of_nameLimit hname hlong]

theorem codes_replicate (n : Nat) :
    Text.codes (String.ofList (List.replicate n 'a')) = List.replicate n 97 := by
  have hmark : Text.mark ∉ (String.ofList (List.replicate n 'a')).toList := by
    rw [String.toList_ofList]
    exact fun h => absurd (List.eq_of_mem_replicate h) (by decide)
  rw [Text.codes_of_notMem hmark, String.toList_ofList, List.map_replicate]
  rfl

theorem isNameable_replicate (n : Nat) :
    Text.isNameable (String.ofList (List.replicate n 'a')) = true := by
  have hcode : (97 != 0 && (!Text.isSurrogate 97 || Text.isByteCode 97)) = true := by decide
  rw [Text.isNameable, codes_replicate, List.all_replicate, hcode, ite_self]

theorem nameSize_replicate (n : Nat) :
    Text.nameSize (String.ofList (List.replicate n 'a')) = n := by
  have hbyte : (if Text.isByteCode 97 then [(97 : Nat).toUInt8] else
      String.utf8EncodeChar (Char.ofNat 97)) = [97] := rfl
  rw [Text.nameSize, Text.nameBytes, codes_replicate, List.flatMap_replicate, hbyte,
    List.flatten_replicate_singleton, List.length_replicate]

/-- One character more than a name may have. -/
def longName : String := String.ofList (List.replicate 256 'a')

theorem build_script_tooLong : ∃ c b,
    resolve ⟨.empty, []⟩ wordyDescriptor .default ⟨.root, []⟩ = .ok c ∧
      '\x00' ∉ longName.toList ∧
      (Builder.make c ⟨.root, [longName]⟩ ⟨.root, ["project"]⟩ ⟨.root, ["tmp"]⟩ [] "log"
        blankSession).1 = .ok b ∧
      (b.build blankSession).1 = .error (.disk (.fault ⟨.nameTooLong, "/" ++ longName⟩)) ∧
      (Failure.disk (.fault ⟨.nameTooLong, "/" ++ longName⟩)).told? = none := by
  obtain ⟨c, hc⟩ := resolve_wordy
  have hnul : '\x00' ∉ longName.toList := by
    unfold longName
    rw [String.toList_ofList]
    exact fun h => absurd (List.eq_of_mem_replicate h) (by decide)
  have hname : Text.isNameable longName = true := isNameable_replicate 256
  have hsize : Text.nameSize longName = 256 := nameSize_replicate 256
  have hlong : nameLimit < Text.nameSize longName := by
    rw [hsize]
    decide
  exact ⟨c, _, hc, hnul, rfl, build_of_nameLimit rfl hname hlong, rfl⟩

end Builder

end SetupScript
