import Mathlib.Data.List.Forall2
import SetupScript.Proofs.Files.Filling
import SetupScript.Proofs.Lasting

/-!
# What work does to the disk

`Does here t R` says that in a quiet session on a sound disk `d` the work `t` succeeds with `a` and
leaves the disk `d'` exactly when `R d a d'`. So a run that is known can be taken apart into what it
does to the disk (`Does.steps`), and where the same can be done to another disk there is a run that
does it (`Does.run`).
-/

namespace SetupScript.Work

variable {α β : Type} {here : Location} {t : Work α} {f : α → Work β} {a : α}
  {R R' : Disk → α → Disk → Prop} {S : α → Disk → β → Disk → Prop}

structure Does (here : Location) (t : Work α) (R : Disk → α → Disk → Prop) : Prop where
  steps : ∀ {s : Session} {a s'}, s.Fit here → t s = (.ok a, s') →
    s'.Fit here ∧ R s.disk a s'.disk
  run : ∀ {s : Session} {a d'}, s.Fit here → R s.disk a d' → ∃ s', t s = (.ok a, s') ∧ s'.disk = d'

namespace Does

theorem congr (h : Does here t R) (hR : ∀ d a d', R d a d' ↔ R' d a d') : Does here t R' where
  steps hs hrun := (h.steps hs hrun).imp_right (hR _ _ _).1
  run hs hR' := h.run hs ((hR _ _ _).2 hR')

theorem pure (a : α) : Does here (Pure.pure a) fun d a' d' => a' = a ∧ d' = d where
  steps hs hrun := by
    obtain ⟨ha, rfl⟩ := Prod.mk.inj hrun
    exact ⟨hs, (Except.ok.inj ha).symm, rfl⟩
  run := by
    rintro s _ _ - ⟨rfl, rfl⟩
    exact ⟨s, rfl, rfl⟩

theorem bind (ht : Does here t R) (hf : ∀ a, Does here (f a) (S a)) :
    Does here (t >>= f) fun d b d' => ∃ a d₁, R d a d₁ ∧ S a d₁ b d' where
  steps hs hrun := by
    obtain ⟨a, s₁, hfirst, hsecond⟩ := bind_run_eq_ok.1 hrun
    obtain ⟨hs₁, hR⟩ := ht.steps hs hfirst
    obtain ⟨hs', hS⟩ := (hf a).steps hs₁ hsecond
    exact ⟨hs', a, s₁.disk, hR, hS⟩
  run := by
    rintro s b d' hs ⟨a, d₁, hR, hS⟩
    obtain ⟨s₁, hfirst, rfl⟩ := ht.run hs hR
    obtain ⟨s', hsecond, hd'⟩ := (hf a).run (ht.steps hs hfirst).1 hS
    exact ⟨s', bind_run_eq_ok.2 ⟨a, s₁, hfirst, hsecond⟩, hd'⟩

theorem throw (e : Failure) :
    Does here (MonadExcept.throw e : Work α) fun _ _ _ => False where
  steps _ hrun := absurd (congrArg Prod.fst hrun) nofun
  run _ h := h.elim

theorem throw_bind (e : Failure) (f : α → Work β) :
    Does here (MonadExcept.throw e >>= f) fun _ _ _ => False where
  steps _ hrun := absurd (congrArg Prod.fst hrun) nofun
  run _ h := h.elim

/-- Of the session only the working directory may matter. -/
theorem get_bind {f : Session → Work β} {S : Disk → β → Disk → Prop}
    (hf : ∀ s : Session, s.disk.here = here → Does here (f s) S) :
    Does here (MonadState.get >>= f) S where
  steps {s} _ _ hs hrun := (hf s hs.here).steps hs hrun
  run {s} _ _ hs hS := (hf s hs.here).run hs hS

theorem note_bind {u : Work β} {S : Disk → β → Disk → Prop} (r : Record) (hu : Does here u S) :
    Does here (Work.note r >>= fun _ => u) S where
  steps {s} _ _ hs hrun := by
    obtain ⟨hfit, hdisk⟩ := hs.note r
    exact hdisk ▸ hu.steps hfit hrun
  run {s} _ _ hs hS := by
    obtain ⟨hfit, hdisk⟩ := hs.note r
    exact hu.run hfit (hdisk.symm ▸ hS)

theorem onDisk {t : DiskWork α} (ht : ∀ {d a d'}, d.Sound → t d = (.ok a, d') →
      d'.Sound ∧ d'.here = d.here) :
    Does here (Work.onDisk t) fun d a d' => t d = (.ok a, d') where
  steps hs hrun := by
    obtain ⟨hdisk, hsink⟩ := onDisk_eq_ok hrun
    obtain ⟨hsound, hhere⟩ := ht hs.sound hdisk
    refine ⟨⟨?_, hsound, hhere.trans hs.here⟩, hdisk⟩
    unfold Session.Quiet
    rw [hsink]
    exact hs.quiet
  run {s} _ d' _ hrun := by
    refine ⟨{ s with disk := d' }, ?_, rfl⟩
    unfold Work.onDisk
    rw [hrun]
    rfl

theorem ask (question : Disk → Except DiskError α) :
    Does here (Work.ask question) fun d a d' => question d = .ok a ∧ d' = d := by
  have hask : Does here (Work.onDisk (DiskWork.ask question))
      fun d a d' => DiskWork.ask question d = (.ok a, d') := by
    refine onDisk fun hd h => ?_
    obtain rfl := congrArg Prod.snd h
    exact ⟨hd, rfl⟩
  refine hask.congr fun d a d' => ?_
  rw [DiskWork.ask, Prod.mk.injEq]
  exact and_congr_right fun _ => eq_comm

theorem onFailure (ht : Does here t R) (g : Failure → Failure) :
    Does here (Work.onFailure t g) R where
  steps {s} _ _ hs hrun := by
    obtain ⟨ha, rfl⟩ := Prod.mk.inj hrun
    exact ht.steps hs (Prod.ext (mapError_eq_ok.1 ha) rfl)
  run {s} _ _ hs hR := by
    obtain ⟨s', hrun, hd'⟩ := ht.run hs hR
    refine ⟨s', ?_, hd'⟩
    unfold Work.onFailure
    rw [hrun]
    rfl

/-- One question after the other about a disk that stays. -/
theorem mapM {Q : α → Disk → β → Prop}
    (hf : ∀ x, Does here (f x) fun d y d' => Q x d y ∧ d' = d) : ∀ xs : List α,
      Does here (xs.mapM f) fun d ys d' => List.Forall₂ (fun x y => Q x d y) xs ys ∧ d' = d
  | [] => (pure []).congr fun _ _ _ => by rw [List.forall₂_nil_left_iff]
  | x :: xs => by
    rw [List.mapM_cons]
    refine ((hf x).bind fun y => (mapM hf xs).bind fun ys => pure (y :: ys)).congr fun d zs d' => ?_
    constructor
    · rintro ⟨y, _, ⟨hy, rfl⟩, ys, _, ⟨hys, rfl⟩, rfl, rfl⟩
      exact ⟨.cons hy hys, rfl⟩
    · rintro ⟨hzs, rfl⟩
      cases hzs with
      | cons hy hys => exact ⟨_, _, ⟨hy, rfl⟩, _, _, ⟨hys, rfl⟩, rfl, rfl⟩

section Changes

variable {p source target : Path} {bytes : ByteArray}

theorem ensureDirs (p : Path) : Does here (Work.onDisk (DiskWork.ensureDirs p))
    fun d _ d' => DiskWork.ensureDirs p d = (.ok (), d') :=
  onDisk fun hd h => by
    obtain ⟨hturns, -⟩ := DiskWork.ensureDirs_eq_ok hd h
    exact ⟨hturns.sound, hturns.grows.here⟩

theorem write (p : Path) (bytes : ByteArray) : Does here (Work.onDisk (DiskWork.write p bytes))
    fun d _ d' => d.writeFile p bytes = .ok d' := by
  refine (onDisk fun hd h => ?_).congr fun _ _ _ => DiskWork.change_eq_ok
  obtain ⟨hturns, -⟩ := Disk.writeFile_eq_ok hd (DiskWork.change_eq_ok.1 h)
  exact ⟨hturns.sound, hturns.grows.here⟩

theorem copy (source target : Path) : Does here (Work.onDisk (DiskWork.copy source target))
    fun d _ d' => DiskWork.copy source target d = (.ok (), d') :=
  onDisk fun hd h => by
    obtain ⟨hturns, -⟩ := DiskWork.copy_turns hd h
    exact ⟨hturns.sound, hturns.grows.here⟩

end Changes

end Does

end SetupScript.Work
