import SetupScript.Proofs.Files.Questions
import SetupScript.Proofs.Text.CodePoints
import SetupScript.Proofs.Work

/-!
# What the system refuses

As long as the system can be asked about a path, every failure of a question about it, and of work
on it, is a refusal of the system. It can be asked about paths that are put together from names that
it can be passed, and about what such a path resolves to on a disk with links to such paths
(`Disk.isNameable_of_resolve`).
-/

namespace SetupScript

/-- The system can be passed each of the names. -/
def Nameable (names : List String) : Prop := ∀ name ∈ names, Text.isNameable name = true

instance (names : List String) : Decidable (Nameable names) :=
  inferInstanceAs (Decidable (∀ name ∈ names, Text.isNameable name = true))

namespace Nameable

variable {names others : List String} {name s : String}

theorem append (h : Nameable names) (h' : Nameable others) : Nameable (names ++ others) :=
  List.forall_mem_append.2 ⟨h, h'⟩

theorem singleton (h : Text.isNameable name = true) : Nameable [name] :=
  List.forall_mem_singleton.2 h

theorem dropLast (h : Nameable names) : Nameable names.dropLast :=
  fun name hname => h name (List.dropLast_subset names hname)

theorem slashPieces (h : Text.isNameable s = true) : Nameable (slashPieces s) := by
  intro name hname
  obtain ⟨w, hw, rfl⟩ := List.mem_map.1 hname
  exact Text.isNameable_of_mem_splitAll (by rwa [String.ofList_toList]) hw

theorem withoutDots : ∀ {names before : List String}, Nameable before → Nameable names →
    Nameable (Path.withoutDots before names)
  | [], _, hbefore, _ => hbefore
  | name :: names, before, hbefore, h => by
    obtain ⟨hname, hnames⟩ := List.forall_mem_cons.1 h
    rw [Path.withoutDots]
    split_ifs
    · exact withoutDots hbefore.dropLast hnames
    · exact withoutDots hbefore hnames
    · exact withoutDots (hbefore.append (singleton hname)) hnames

end Nameable

namespace Path

variable {p : Path} {here : Location} {names : List String}

theorem isNameable_iff : p.isNameable = true ↔ Nameable p.parts := by
  simp [isNameable, Nameable]

theorem isNameable_descend (hp : p.isNameable = true) (hnames : Nameable names) :
    (p.descend names).isNameable = true :=
  isNameable_iff.2 ((isNameable_iff.1 hp).append hnames)

theorem isNameable_of_descend (h : (p.descend names).isNameable = true) : p.isNameable = true := by
  simp only [isNameable, descend, List.all_append, Bool.and_eq_true] at h
  exact h.1

theorem isNameable_absolute (hhere : Nameable here) (hp : p.isNameable = true) :
    (p.absolute here).isNameable = true := by
  unfold absolute
  split_ifs
  · exact isNameable_iff.2 (hhere.append (isNameable_iff.1 hp))
  · exact hp

end Path

/-! ## Resolving -/

/-- The system can be passed every name that leads on from the root or from a link. -/
structure Disk.Nameable (d : Disk) : Prop where
  here : SetupScript.Nameable d.here
  links : ∀ place target, d.tree.get? place = some (.link target) → Text.isNameable target = true

namespace FileTree

variable {t : FileTree}

theorem settleWith_nameable {onLink : Location → String → List Location → Location × Bool}
    (hlinks : ∀ place target, t.get? place = some (.link target) → Text.isNameable target = true)
    (honLink : ∀ here target active, Nameable here → Text.isNameable target = true →
      Nameable (onLink here target active).1) {active : List Location} :
    ∀ {names : List String} {here : Location}, Nameable here → Nameable names →
      Nameable (t.settleWith onLink active here names).1
  | [], _, hhere, _ => hhere
  | name :: rest, here, hhere, h => by
    obtain ⟨hname, hrest⟩ := List.forall_mem_cons.1 h
    have hplace : Nameable (here ++ [name]) := hhere.append (.singleton hname)
    rw [settleWith]
    split_ifs
    · exact settleWith_nameable hlinks honLink hhere hrest
    · exact settleWith_nameable hlinks honLink hhere.dropLast hrest
    · simp only
      split
      · rename_i target hlink
        have hgo := honLink here target ((here ++ [name]) :: active) hhere (hlinks _ _ hlink)
        split_ifs
        · exact hplace.withoutDots hrest
        · exact settleWith_nameable hlinks honLink hgo hrest
        · exact hgo.withoutDots hrest
      · exact settleWith_nameable hlinks honLink hplace hrest

/-- By induction on how deep links may be nested. -/
theorem settleNested_nameable
    (hlinks : ∀ place target, t.get? place = some (.link target) → Text.isNameable target = true) :
    ∀ {n : Nat} {active : List Location} {here : Location} {names : List String},
      Nameable here → Nameable names → Nameable (t.settleNested n active here names).1
  | 0, _, _, _, hhere, hnames => settleWith_nameable hlinks (fun _ _ _ h _ => h) hhere hnames
  | n + 1, _, _, _, hhere, hnames => by
    refine settleWith_nameable hlinks (fun here target _ h htarget => ?_) hhere hnames
    refine settleNested_nameable hlinks ?_ (Nameable.slashPieces htarget)
    unfold linkStart
    split_ifs
    · nofun
    · exact h

end FileTree

namespace Disk

variable {d d' : Disk} {p : Path} {e : DiskError}

theorem isNameable_of_resolve (hd : d.Nameable) {q : Path} (h : d.resolve p = .ok q) :
    q.isNameable = true := by
  unfold resolve at h
  split_ifs at h with hname
  simp only [Bool.not_eq_true, Bool.not_eq_false'] at hname
  have hstart : SetupScript.Nameable (d.start p) := by
    unfold start
    split_ifs
    · exact hd.here
    · nofun
  have hsettled : SetupScript.Nameable (d.tree.settle (d.start p) p.parts).1 :=
    FileTree.settleNested_nameable hd.links hstart (Path.isNameable_iff.1 hname)
  simp only at h
  split at h
  · contradiction
  · obtain rfl := Except.ok.inj h
    exact Path.isNameable_iff.2 hsettled

/-! ## Questions -/

section Questions

variable (hp : p.isNameable = true)

include hp

theorem find_eq_fault {last : Last} (h : d.find last p = .error e) : ∃ f, e = .fault f := by
  unfold find at h
  rw [hp] at h
  simp only [Bool.not_true, Bool.false_eq_true, if_false] at h
  split_ifs at h
  · exact ⟨_, (Except.error.inj h).symm⟩
  · split at h
    · contradiction
    · exact ⟨_, (Except.error.inj h).symm⟩

theorem entry_eq_fault (h : d.entry p = .error e) : ∃ f, e = .fault f := by
  unfold entry at h
  split at h
  · rename_i hfind
    obtain rfl := Except.error.inj h
    exact find_eq_fault hp hfind
  · exact ⟨_, (Except.error.inj h).symm⟩
  · contradiction

theorem read_eq_fault (h : d.read p = .error e) : ∃ f, e = .fault f := by
  rcases read_eq_error h with ⟨hname, -⟩ | ⟨code, rfl⟩
  · rw [hp] at hname
    contradiction
  · exact ⟨_, rfl⟩

theorem names_eq_fault (h : d.names p = .error e) : ∃ f, e = .fault f := by
  unfold names at h
  split at h
  · contradiction
  · exact ⟨_, (Except.error.inj h).symm⟩
  · rename_i hentry
    obtain rfl := Except.error.inj h
    exact entry_eq_fault hp hentry

theorem makeDir_eq_fault (h : d.makeDir p = .error e) : ∃ f, e = .fault f := by
  unfold makeDir at h
  split at h
  · rename_i hfind
    obtain rfl := Except.error.inj h
    exact find_eq_fault hp hfind
  · contradiction
  · exact ⟨_, (Except.error.inj h).symm⟩

theorem writeFile_eq_fault {bytes : ByteArray} (h : d.writeFile p bytes = .error e) :
    ∃ f, e = .fault f := by
  unfold writeFile at h
  split at h
  · rename_i hfind
    obtain rfl := Except.error.inj h
    exact find_eq_fault hp hfind
  · exact ⟨_, (Except.error.inj h).symm⟩
  · contradiction

end Questions

theorem here_of_makeDir (h : d.makeDir p = .ok d') : d'.here = d.here := by
  unfold makeDir at h
  split at h
  · contradiction
  · obtain rfl := Except.ok.inj h
    rfl
  · contradiction

theorem here_of_writeFile {bytes : ByteArray} (h : d.writeFile p bytes = .ok d') :
    d'.here = d.here := by
  unfold writeFile at h
  split at h
  · contradiction
  · contradiction
  · obtain rfl := Except.ok.inj h
    rfl

end Disk

/-! ## Work -/

namespace DiskWork

variable {α : Type} {d : Disk} {here : Location} {p source target : Path} {bytes : ByteArray}

/-- Work in some directory that fails only where the system refuses it. -/
abbrev Refusable (here : Location) (post : α → Prop) (t : DiskWork α) (d : Disk) : Prop :=
  Gives (fun a d' => post a ∧ d'.here = here) (fun e => e.isRefusal = true) t d

theorem ask_refusable {question : Disk → Except DiskError α} (hd : d.here = here)
    (h : ∀ e, question d = .error e → ∃ f, e = .fault f) :
    Refusable here (fun a => question d = .ok a) (ask question) d := by
  have hask : ask question d = (question d, d) := rfl
  cases hq : question d with
  | ok a => exact .of_ok (hq ▸ hask) ⟨rfl, hd⟩
  | error e =>
    obtain ⟨f, rfl⟩ := h e hq
    exact .of_error (hq ▸ hask) rfl

theorem change_refusable {step : Disk → Except DiskError Disk} (hd : d.here = here)
    (hok : ∀ d', step d = .ok d' → d'.here = d.here)
    (herror : ∀ e, step d = .error e → ∃ f, e = .fault f) :
    Refusable here (fun _ => True) (change step) d := by
  cases hstep : step d with
  | ok d' => exact .of_ok (by rw [change, hstep]) ⟨trivial, (hok d' hstep).trans hd⟩
  | error e =>
    obtain ⟨f, rfl⟩ := herror e hstep
    exact .of_error (by rw [change, hstep]) rfl

theorem settleFor_refusable (hd : d.here = here) {e : DiskError} (he : e.isRefusal = true) :
    Refusable here (fun _ => True) (settleFor p e) d := by
  unfold settleFor
  rw [if_pos he]
  refine (ask_refusable hd fun _ h => ⟨_, Disk.leadsTo_eq_error h⟩).bind fun isDir _ ⟨_, hd'⟩ => ?_
  split_ifs
  · exact .pure ⟨trivial, hd'⟩
  · exact .throw he

/-- Tries to make a directory, and goes on in another way where the one above it is missing. -/
def attempt (p : Path) (onAbsent : String → DiskWork Unit) : DiskWork Unit := fun d =>
  match d.makeDir p with
  | .ok d' => (.ok (), d')
  | .error (.fault ⟨.absent, t⟩) => onAbsent t d
  | .error e => settleFor p e d

theorem ensureDir_eq (p : Path) : ensureDir p = attempt p fun t => throw (.fault ⟨.absent, t⟩) :=
  rfl

theorem ensureUp_cons (anchor : Anchor) (name : String) (above : List String) :
    ensureUp anchor (name :: above) = attempt ⟨anchor, (name :: above).reverse⟩ fun _ =>
      ensureUp anchor above >>= fun _ => ensureDir ⟨anchor, (name :: above).reverse⟩ :=
  rfl

theorem attempt_of_error {onAbsent : String → DiskWork Unit} {e : DiskError}
    (h : d.makeDir p = .error e) (he : ∀ t, e ≠ .fault ⟨.absent, t⟩) :
    attempt p onAbsent d = settleFor p e d := by
  unfold attempt
  rw [h]
  split
  · contradiction
  · rename_i heq
    exact absurd (Except.error.inj heq) (he _)
  · rename_i heq
    rw [Except.error.inj heq]

theorem attempt_refusable {onAbsent : String → DiskWork Unit} (hd : d.here = here)
    (hp : p.isNameable = true)
    (habsent : ∀ t, Refusable here (fun _ => True) (onAbsent t) d) :
    Refusable here (fun _ => True) (attempt p onAbsent) d := by
  cases hmake : d.makeDir p with
  | ok d' =>
    exact .of_ok (by rw [attempt, hmake]) ⟨trivial, (Disk.here_of_makeDir hmake).trans hd⟩
  | error e =>
    obtain ⟨⟨code, t⟩, rfl⟩ := Disk.makeDir_eq_fault hp hmake
    by_cases hcode : code = .absent
    · subst hcode
      exact (habsent t).congr (by rw [attempt, hmake])
    · have hother : ∀ u, DiskError.fault ⟨code, t⟩ ≠ .fault ⟨.absent, u⟩ := by simp [hcode]
      have hsettle := settleFor_refusable (p := p) (e := .fault ⟨code, t⟩) hd rfl
      exact hsettle.congr (attempt_of_error hmake hother)

theorem ensureDir_refusable (hd : d.here = here) (hp : p.isNameable = true) :
    Refusable here (fun _ => True) (ensureDir p) d := by
  rw [ensureDir_eq]
  exact attempt_refusable hd hp fun _ => .throw rfl

/-- By induction on the names from the last one up, as the directories are made. -/
theorem ensureUp_refusable {anchor : Anchor} : ∀ {names : List String} {d : Disk},
    d.here = here → Nameable names → Refusable here (fun _ => True) (ensureUp anchor names) d
  | [], _, hd, _ => ensureDir_refusable hd rfl
  | name :: above, d, hd, h => by
    have hp : Path.isNameable ⟨anchor, (name :: above).reverse⟩ = true :=
      Path.isNameable_iff.2 fun n hn => h n (List.mem_reverse.1 hn)
    rw [ensureUp_cons]
    refine attempt_refusable hd hp fun _ => ?_
    exact (ensureUp_refusable hd (List.forall_mem_cons.1 h).2).bind
      fun _ _ ⟨_, hd'⟩ => ensureDir_refusable hd' hp

theorem ensureDirs_refusable (hd : d.here = here) (hp : p.isNameable = true) :
    Refusable here (fun _ => True) (ensureDirs p) d :=
  ensureUp_refusable hd fun name hname =>
    Path.isNameable_iff.1 hp name (List.mem_reverse.1 hname)

/-- The system is not asked to make a directory whose path it cannot be passed. -/
theorem ensureDirs_of_not_isNameable (hp : p.isNameable = false) :
    ensureDirs p d = (.error .unnameable, d) := by
  obtain ⟨anchor, names⟩ := p
  have hmake : d.makeDir ⟨anchor, names⟩ = .error .unnameable := by
    simp [Disk.makeDir, Disk.find, hp]
  have hfails : ∀ t, DiskError.unnameable ≠ .fault ⟨.absent, t⟩ := fun _ => DiskError.noConfusion
  unfold ensureDirs
  cases hreverse : names.reverse with
  | nil =>
    rw [List.reverse_eq_nil_iff.1 hreverse] at hp
    contradiction
  | cons name above =>
    rw [← List.reverse_reverse names, hreverse] at hmake
    rw [ensureUp_cons, attempt_of_error hmake hfails]
    rfl

theorem write_refusable (hd : d.here = here) (hp : p.isNameable = true) :
    Refusable here (fun _ => True) (write p bytes) d :=
  change_refusable hd (fun _ h => Disk.here_of_writeFile h) fun _ h => Disk.writeFile_eq_fault hp h

/-- Why a file is not written in place, which depends on whether something is there. -/
def writeFailure (p : Path) (e : DiskError) (found : Bool) : DiskError :=
  match e, found with
  | .fault ⟨.isDirectory, _⟩, false => .noDirectory p
  | e, _ => e

theorem writeInPlace_of_error {bytes : ByteArray} {e : DiskError}
    (h : d.writeFile p bytes = .error e) :
    writeInPlace p bytes d = (.error (writeFailure p e (d.entry p).isOk), d) := by
  unfold writeInPlace writeFailure
  rw [h]
  cases d.entry p <;> cases e with
  | fault f =>
    obtain ⟨code, path⟩ := f
    cases code <;> rfl
  | _ => rfl

theorem writeInPlace_refusable (hd : d.here = here) (hp : p.isNameable = true) :
    Refusable here (fun _ => True) (writeInPlace p bytes) d := by
  cases hwrite : d.writeFile p bytes with
  | ok d' =>
    exact .of_ok (by rw [writeInPlace, hwrite]) ⟨trivial, (Disk.here_of_writeFile hwrite).trans hd⟩
  | error e =>
    obtain ⟨f, rfl⟩ := Disk.writeFile_eq_fault hp hwrite
    refine .of_error (writeInPlace_of_error hwrite) ?_
    unfold writeFailure
    split <;> rfl

theorem copy_refusable (hd : d.here = here) (hsource : source.isNameable = true)
    (htarget : target.isNameable = true) :
    Refusable here (fun _ => True) (copy source target) d := by
  unfold copy
  rw [hsource, htarget]
  simp only [Bool.and_true, Bool.not_true, Bool.false_eq_true, if_false]
  refine (Gives.get (P := fun _ d' => d'.here = here) hd).bind fun _ d₁ hd₁ => ?_
  split_ifs
  · exact .throw rfl
  · refine (ask_refusable hd₁ fun _ h => Disk.read_eq_fault hsource h).bind fun _ _ ⟨_, hd₂⟩ => ?_
    exact writeInPlace_refusable hd₂ htarget

end DiskWork

end SetupScript
