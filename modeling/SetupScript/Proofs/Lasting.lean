import SetupScript.Proofs.Files.Lookups
import SetupScript.Proofs.Session
import SetupScript.Proofs.TwinSessions

/-!
# Work that lasts

`Repeats t a d` says that on the disk `d` the work `t` gives `a` and leaves the disk as it is.
`Lasts ends e e' t P s` looks at the same from the end of a longer run. Where `t` succeeds in the
session `s`, and the disk that it leaves grows to some disk `D` within the extent `e'`, the disk of
`s` grows to `D` within `e`; and if `D` is one of `ends`, the work repeats on it. So this goes from
the end of the run back to its beginning (`Lasts.bind`), and the extents tell at each step what is
still to be changed.
-/

namespace SetupScript

/-- Where directories may still be made and files written. -/
structure Extent where
  dirs : Set Location
  files : Set Location

namespace Extent

instance : LE Extent := ⟨fun e e' => e.dirs ⊆ e'.dirs ∧ e.files ⊆ e'.files⟩

def empty : Extent := ⟨∅, ∅⟩

def all : Extent := ⟨Set.univ, Set.univ⟩

theorem empty_le (e : Extent) : empty ≤ e := ⟨Set.empty_subset _, Set.empty_subset _⟩

theorem le_all (e : Extent) : e ≤ all := ⟨Set.subset_univ _, Set.subset_univ _⟩

theorem refl_le (e : Extent) : e ≤ e := ⟨subset_rfl, subset_rfl⟩

end Extent

namespace Session

/-- A session that writes no log file. -/
def Quiet (s : Session) : Prop := ∀ k, s.sink = some k → k.file = none

theorem Quiet.note {s : Session} (hs : s.Quiet) (r : Record) :
    (s.note r).Quiet ∧ (s.note r).disk = s.disk := by
  obtain ⟨log, disk, hnote, hdisk⟩ := s.note_cases r
  rw [hnote]
  refine ⟨hs, ?_⟩
  rcases hdisk with rfl | ⟨k, p, line, hk, hfile, rfl⟩
  · rfl
  · rw [hs k hk] at hfile
    contradiction

theorem Quiet.notMem_logPlaces {s : Session} (hs : s.Quiet) (place : Location) :
    place ∉ s.logPlaces := by
  rintro ⟨k, p, hk, hfile, -⟩
  rw [hs k hk] at hfile
  contradiction

/-- A quiet session on a sound disk. -/
structure Fit (here : Location) (s : Session) : Prop where
  quiet : s.Quiet
  sound : s.disk.Sound
  here : s.disk.here = here

theorem Fit.note {here : Location} {s : Session} (hs : s.Fit here) (r : Record) :
    (s.note r).Fit here ∧ (s.note r).disk = s.disk := by
  obtain ⟨hquiet, hdisk⟩ := hs.quiet.note r
  exact ⟨⟨hquiet, hdisk ▸ hs.sound, hdisk ▸ hs.here⟩, hdisk⟩

end Session

namespace Work

variable {α β : Type} {t : Work α} {f : α → Work β} {a : α} {b : β} {d : Disk}
  {ends : Set Disk} {e e' e₁ : Extent} {s : Session} {P P' : α → Session → Prop}
  {Q : β → Session → Prop}

theorem onDisk_eq_ok {t : DiskWork α} {s' : Session} (h : Work.onDisk t s = (.ok a, s')) :
    t s.disk = (.ok a, s'.disk) ∧ s'.sink = s.sink := by
  obtain ⟨hvalue, rfl⟩ := Prod.mk.inj h
  exact ⟨Prod.ext (mapError_eq_ok.1 hvalue) rfl, rfl⟩

theorem ask_eq_ok {question : Disk → Except DiskError α} {s' : Session}
    (h : Work.ask question s = (.ok a, s')) : question s.disk = .ok a ∧ s' = s := by
  obtain ⟨hvalue, rfl⟩ := Prod.mk.inj h
  exact ⟨mapError_eq_ok.1 hvalue, rfl⟩

/-! ## Repeating -/

def Repeats (t : Work α) (a : α) (d : Disk) : Prop :=
  ∀ s : Session, s.Quiet → s.disk = d → ∃ s', t s = (.ok a, s') ∧ s'.Quiet ∧ s'.disk = d

namespace Repeats

theorem pure : Repeats (Pure.pure a) a d := fun s hs hd => ⟨s, rfl, hs, hd⟩

theorem bind (ht : Repeats t a d) (hf : Repeats (f a) b d) : Repeats (t >>= f) b d := by
  intro s hs hd
  obtain ⟨s₁, h₁, hs₁, hd₁⟩ := ht s hs hd
  rw [Work.bind_of_ok h₁]
  exact hf s₁ hs₁ hd₁

theorem get_bind {f : Session → Work β} (hf : ∀ s : Session, s.disk = d → Repeats (f s) b d) :
    Repeats (MonadState.get >>= f) b d := by
  intro s hs hd
  rw [Work.bind_of_ok (Work.get_eq s)]
  exact hf s hd s hs hd

theorem note (r : Record) : Repeats (Work.note r) () d :=
  fun s hs hd => ⟨s.note r, rfl, (hs.note r).1, (hs.note r).2.trans hd⟩

theorem onDisk {t : DiskWork α} (h : t d = (.ok a, d)) : Repeats (Work.onDisk t) a d := by
  rintro s hs rfl
  refine ⟨s, ?_, hs, rfl⟩
  unfold Work.onDisk
  rw [h]
  rfl

theorem ask {question : Disk → Except DiskError α} (h : question d = .ok a) :
    Repeats (Work.ask question) a d :=
  onDisk (Prod.ext h rfl)

theorem onFailure (h : Repeats t a d) (g : Failure → Failure) :
    Repeats (Work.onFailure t g) a d := by
  intro s hs hd
  obtain ⟨s', hrun, hs', hd'⟩ := h s hs hd
  refine ⟨s', ?_, hs', hd'⟩
  unfold Work.onFailure
  rw [hrun]
  rfl

end Repeats

/-! ## Lasting -/

def Lasts (ends : Set Disk) (e e' : Extent) (t : Work α) (P : α → Session → Prop) (s : Session) :
    Prop :=
  ∀ a s', t s = (.ok a, s') → P a s' ∧ ∀ D, s'.disk.Grows e'.dirs e'.files D →
    s.disk.Grows e.dirs e.files D ∧ (D ∈ ends → Repeats t a D)

namespace Lasts

theorem mono (h : Lasts ends e e' t P s) (hP : ∀ a s', P a s' → P' a s') :
    Lasts ends e e' t P' s :=
  fun a s' hrun => ⟨hP a s' (h a s' hrun).1, (h a s' hrun).2⟩

theorem extend (h : Lasts ends e₁ e' t P s) (he : e₁ ≤ e) : Lasts ends e e' t P s := by
  intro a s' hrun
  obtain ⟨hpost, hlast⟩ := h a s' hrun
  exact ⟨hpost, fun D hgrows => (hlast D hgrows).imp_left fun hbefore => hbefore.mono he.1 he.2⟩

/-- What the work changes itself lies in the extent that is left before it. -/
theorem withGrowth (h : Lasts ends e e' t P s) : Lasts ends e e' t
    (fun a s' => P a s' ∧ s.disk.Grows Set.univ Set.univ s'.disk) s := by
  intro a s' hrun
  obtain ⟨hpost, hlast⟩ := h a s' hrun
  have hgrows := (hlast s'.disk (refl_of _ s'.disk)).1
  exact ⟨⟨hpost, hgrows.mono (Set.subset_univ _) (Set.subset_univ _)⟩, hlast⟩

theorem throw (f : Failure) : Lasts ends e e' (MonadExcept.throw f : Work α) P s :=
  fun _ _ hrun => absurd (congrArg Prod.fst hrun) nofun

theorem pure (h : P a s) : Lasts ends e e (Pure.pure a) P s := by
  intro a' s' hrun
  obtain ⟨ha, rfl⟩ := Prod.mk.inj hrun
  obtain rfl := Except.ok.inj ha
  exact ⟨h, fun D hgrows => ⟨hgrows, fun _ => .pure⟩⟩

theorem bind (ht : Lasts ends e e₁ t P s)
    (hf : ∀ a s₁, P a s₁ → Lasts ends e₁ e' (f a) Q s₁) : Lasts ends e e' (t >>= f) Q s := by
  intro b s' hrun
  obtain ⟨a, s₁, hfirst, hsecond⟩ := bind_run_eq_ok.1 hrun
  obtain ⟨hpost, hlast⟩ := ht a s₁ hfirst
  obtain ⟨hpost', hlast'⟩ := hf a s₁ hpost b s' hsecond
  refine ⟨hpost', fun D hgrows => ?_⟩
  obtain ⟨hmiddle, hrepeats'⟩ := hlast' D hgrows
  obtain ⟨hbefore, hrepeats⟩ := hlast D hmiddle
  exact ⟨hbefore, fun hD => (hrepeats hD).bind (hrepeats' hD)⟩

/-- Of the session only the working directory may matter, which stays. -/
theorem get_bind {f : Session → Work β} (h : Lasts ends e e' (f s) Q s)
    (hf : ∀ s' : Session, s'.disk.here = s.disk.here → f s' = f s) :
    Lasts ends e e' (MonadState.get >>= f) Q s := by
  intro b s' hrun
  rw [Work.bind_of_ok (Work.get_eq s)] at hrun
  obtain ⟨hpost, hlast⟩ := h b s' hrun
  refine ⟨hpost, fun D hgrows => ?_⟩
  obtain ⟨hbefore, hrepeats⟩ := hlast D hgrows
  refine ⟨hbefore, fun hD => .get_bind fun s₁ hs₁ => ?_⟩
  rw [hf s₁ (hs₁ ▸ hbefore.here)]
  exact hrepeats hD

theorem note {here : Location} (hs : s.Fit here) (r : Record) :
    Lasts ends e e (Work.note r) (fun _ s' => s'.Fit here ∧ s'.disk = s.disk) s := by
  intro _ s' hrun
  obtain ⟨-, rfl⟩ := Prod.mk.inj hrun
  obtain ⟨hfit, hdisk⟩ := hs.note r
  exact ⟨⟨hfit, hdisk⟩, fun D hgrows => ⟨hdisk ▸ hgrows, fun _ => .note r⟩⟩

theorem onDisk {t : DiskWork α} {here : Location} (hs : s.Fit here)
    (h : ∀ a made, t s.disk = (.ok a, made) → made.Sound ∧ made.here = here ∧
      ∀ D, made.Grows e'.dirs e'.files D → s.disk.Grows e.dirs e.files D ∧ t D = (.ok a, D)) :
    Lasts ends e e' (Work.onDisk t) (fun _ s' => s'.Fit here) s := by
  intro a s' hrun
  obtain ⟨hdisk, hsink⟩ := onDisk_eq_ok hrun
  obtain ⟨hsound, hhere, hlast⟩ := h a s'.disk hdisk
  have hquiet : s'.Quiet := by
    unfold Session.Quiet
    rw [hsink]
    exact hs.quiet
  refine ⟨⟨hquiet, hsound, hhere⟩, fun D hgrows => ?_⟩
  obtain ⟨hbefore, hsame⟩ := hlast D hgrows
  exact ⟨hbefore, fun _ => .onDisk hsame⟩

theorem ask {question : Disk → Except DiskError α}
    (h : ∀ a, question s.disk = .ok a → ∀ D ∈ ends, s.disk.Grows e.dirs e.files D →
      question D = .ok a) :
    Lasts ends e e (Work.ask question) (fun a s' => s' = s ∧ question s.disk = .ok a) s := by
  intro a s' hrun
  obtain ⟨ha, rfl⟩ := Prod.mk.inj hrun
  have hanswer := mapError_eq_ok.1 ha
  exact ⟨⟨rfl, hanswer⟩, fun D hgrows => ⟨hgrows, fun hD => .ask (h a hanswer D hD hgrows)⟩⟩

theorem onFailure (h : Lasts ends e e' t P s) (g : Failure → Failure) :
    Lasts ends e e' (Work.onFailure t g) P s := by
  intro a s' hrun
  obtain ⟨ha, rfl⟩ := Prod.mk.inj hrun
  obtain ⟨hpost, hlast⟩ := h a (t s).2 (Prod.ext (mapError_eq_ok.1 ha) rfl)
  refine ⟨hpost, fun D hgrows => ?_⟩
  obtain ⟨hbefore, hrepeats⟩ := hlast D hgrows
  exact ⟨hbefore, fun hD => (hrepeats hD).onFailure g⟩

theorem mapM {f : α → Work β} {I : Session → Prop} : ∀ {xs : List α} {s : Session},
    (∀ x ∈ xs, ∀ s, I s → Lasts ends e e (f x) (fun _ s' => I s') s) → I s →
      Lasts ends e e (xs.mapM f) (fun _ s' => I s') s
  | [], _, _, hI => pure hI
  | x :: xs, s, h, hI => by
    rw [List.mapM_cons]
    refine (h x List.mem_cons_self s hI).bind fun y s₁ h₁ => ?_
    have hrest := mapM (fun z hz => h z (List.mem_cons_of_mem x hz)) h₁
    exact hrest.bind fun _ _ h₂ => pure h₂

section Changes

variable {here : Location} {p source target : Path} {bytes : ByteArray}

theorem ensureDirs (hs : s.Fit here) (hdirs : p.placesUp here ⊆ e.dirs) (he : e' ≤ e) :
    Lasts ends e e' (Work.onDisk (DiskWork.ensureDirs p)) (fun _ s' => s'.Fit here) s := by
  refine onDisk hs fun _ made hmade => ?_
  have ht := hs.sound.linkFree
  have hkeeps : Keeps (Disk.Grows e.dirs e.files) (DiskWork.ensureDirs p) s.disk :=
    DiskWork.ensureDirs_grows ht (hs.here.symm ▸ hdirs)
  have hgrows := hkeeps.along hmade
  have hsound : Keeps Disk.StaysSound (DiskWork.ensureDirs p) s.disk := DiskWork.ensureDirs_sound
  refine ⟨hsound.along hmade hs.sound, hgrows.here.trans hs.here, fun D hlater => ⟨?_, ?_⟩⟩
  · exact trans_of _ hgrows (hlater.mono he.1 he.2)
  · exact DiskWork.ensureDirs_grown ht hmade hlater

theorem write (hs : s.Fit here) (hp : p.place here ∈ e.files) (he : e' ≤ e)
    (hlast : p.place here ∉ e'.files) :
    Lasts ends e e' (Work.onDisk (DiskWork.write p bytes)) (fun _ s' => s'.Fit here) s := by
  obtain rfl := hs.here
  refine onDisk hs fun _ made hmade => ?_
  have ht := hs.sound.linkFree
  have hwrite := DiskWork.change_eq_ok.1 hmade
  have hgrows : s.disk.Grows e.dirs e.files made := (Disk.writeFile_grows ht hwrite hp).1
  refine ⟨Disk.writeFile_sound hs.sound hwrite, hgrows.here, fun D hlater => ⟨?_, ?_⟩⟩
  · exact trans_of _ hgrows (hlater.mono he.1 he.2)
  · exact DiskWork.write_grown ht hmade hlater hlast

theorem copy (hs : s.Fit here) (htarget : target.place here ∈ e.files) (he : e' ≤ e)
    (hsource : source.place here ∉ e'.files) (hlast : target.place here ∉ e'.files) :
    Lasts ends e e' (Work.onDisk (DiskWork.copy source target)) (fun _ s' => s'.Fit here) s := by
  obtain rfl := hs.here
  refine onDisk hs fun _ made hmade => ?_
  have ht := hs.sound.linkFree
  obtain ⟨-, -, bytes, -, hwrite⟩ := DiskWork.copy_eq_ok.1 hmade
  have hgrows : s.disk.Grows e.dirs e.files made := (Disk.writeFile_grows ht hwrite htarget).1
  refine ⟨Disk.writeFile_sound hs.sound hwrite, hgrows.here, fun D hlater => ⟨?_, ?_⟩⟩
  · exact trans_of _ hgrows (hlater.mono he.1 he.2)
  · exact DiskWork.copy_grown ht hmade hlater hsource hlast

end Changes

end Lasts

end Work

end SetupScript
