import SetupScript.Proofs.SideBySide
import SetupScript.Session

/-!
# Work that does not look back

Two sessions are peers where they differ only in what was noted, logged and put out before. Work is
discreet if it does not tell peers apart, and puts nothing out itself: it ends alike in both and
does the same to the disk (`Work.Discreet`). So it is for the steps of some work, and then for the
whole.
-/

namespace SetupScript

/-- Sessions with the same disk that write their logs to the same sink. -/
structure Session.Peers (sink : Option Sink) (out out' : String) (s s' : Session) : Prop where
  disk : s.disk = s'.disk
  temp : s.temp = s'.temp
  stamp : s.stamp = s'.stamp
  left : s.sink = sink
  right : s'.sink = sink
  output : s.output = out
  output' : s'.output = out'

theorem Session.Peers.note {sink : Option Sink} {out out' : String} {s s' : Session}
    (h : s.Peers sink out out' s') (r : Record) : (s.note r).Peers sink out out' (s'.note r) := by
  unfold Session.note
  simp only [h.left, h.right, h.stamp]
  cases sink with
  | none => exact ⟨h.disk, h.temp, rfl, rfl, rfl, h.output, h.output'⟩
  | some k =>
    dsimp only
    split
    · exact ⟨h.disk, h.temp, rfl, rfl, rfl, h.output, h.output'⟩
    · cases k.template.line s'.stamp r with
      | none => exact ⟨h.disk, h.temp, rfl, rfl, rfl, h.output, h.output'⟩
      | some line =>
        refine ⟨?_, h.temp, rfl, rfl, rfl, h.output, h.output'⟩
        simp only [Session.writeLine, h.disk]

namespace Work

variable {α β : Type} {t : Work α} {f : α → Work β}

/-- The work ends alike in peers and leaves peers with the same output as before. -/
def Discreet (t : Work α) : Prop :=
  ∀ sink out out' (s s' : Session), s.Peers sink out out' s' →
    Together (Session.Peers sink out out') (Alike (Session.Peers sink out out')) t t s s'

namespace Discreet

theorem pure (a : α) : Discreet (Pure.pure a) := fun _ _ _ _ _ h => .pure ⟨rfl, h⟩

theorem throw (e : Failure) : Discreet (MonadExcept.throw e : Work α) :=
  fun _ _ _ _ _ h => .throw e h

theorem bind (ht : Discreet t) (hf : ∀ a, Discreet (f a)) : Discreet (t >>= f) := by
  intro sink out out' s s' h
  refine (ht sink out out' s s' h).bind ?_
  rintro a s₁ _ s₁' ⟨rfl, h₁⟩
  exact hf a sink out out' s₁ s₁' h₁

/-- Of the session only the disk is looked at. -/
theorem get_bind {f : Session → Work β} (hf : ∀ s, Discreet (f s))
    (hdisk : ∀ s s' : Session, s.disk = s'.disk → f s = f s') :
    Discreet (MonadState.get >>= f) := by
  intro sink out out' s s' h
  refine .after (Work.get_eq s) (Work.get_eq s') ?_
  rw [hdisk s s' h.disk]
  exact hf s' sink out out' s s' h

theorem note (r : Record) : Discreet (Work.note r) :=
  fun _ _ _ _ _ h => .of_ok rfl rfl ⟨rfl, h.note r⟩

theorem onDisk (t : DiskWork α) : Discreet (Work.onDisk t) := by
  intro sink out out' s s' h
  have hsame : (Work.onDisk t s).1 = (Work.onDisk t s').1 := by
    unfold Work.onDisk
    rw [h.disk]
  have hafter : (Work.onDisk t s).2.Peers sink out out' (Work.onDisk t s').2 :=
    ⟨congrArg (fun d => (t d).2) h.disk, h.temp, h.stamp, h.left, h.right, h.output, h.output'⟩
  exact .of_matched ((matched_eq.2 hsame).mono fun _ _ heq => ⟨heq, hafter⟩) hafter

theorem ask (question : Disk → Except DiskError α) : Discreet (Work.ask question) :=
  onDisk (DiskWork.ask question)

theorem onFailure (ht : Discreet t) (g : Failure → Failure) : Discreet (Work.onFailure t g) := by
  intro sink out out' s s' h
  obtain ⟨houtcome, hafter⟩ := (ht sink out out' s s' h).outcome
  have hsame : (Work.onFailure t g s).1 = (Work.onFailure t g s').1 :=
    congrArg (Except.mapError g) houtcome
  exact .of_matched ((matched_eq.2 hsame).mono fun _ _ heq => ⟨heq, hafter⟩) hafter

theorem mapM {f : α → Work β} (hf : ∀ a, Discreet (f a)) (as : List α) : Discreet (as.mapM f) :=
  fun sink out out' _ _ h =>
    .mapM (fun a _ s₁ s₁' h₁ => hf a sink out out' s₁ s₁' h₁) h

/-- Discreet work puts nothing out, and leaves the log where it is. -/
theorem silent (ht : Discreet t) (s : Session) :
    (t s).2.output = s.output ∧ (t s).2.sink = s.sink := by
  have hself : s.Peers s.sink s.output s.output s := ⟨rfl, rfl, rfl, rfl, rfl, rfl, rfl⟩
  obtain ⟨-, hafter⟩ := (ht _ _ _ _ _ hself).outcome
  exact ⟨hafter.output, hafter.left⟩

end Discreet

end Work

end SetupScript
