import Mathlib.Order.Defs.Unbundled
import SetupScript.Session

/-!
# Where work leads

`Leads R t post s` says where the work `t` leads from the state `s`: whether it succeeds or fails,
`R` relates `s` to the state that it ends in, and where it succeeds its value satisfies `post`. For
a preorder `R` this goes from the steps of some work to the whole (`Leads.bind`). `Gives post fail t
s` says in addition what work can fail with, and nothing of the state in which it does.
-/

namespace SetupScript

variable {ε ε' σ α β : Type} {R : σ → σ → Prop} {s : σ}

def Leads (R : σ → σ → Prop) (t : ExceptT ε (StateM σ) α) (post : α → Prop) (s : σ) : Prop :=
  R s (t s).2 ∧ ∀ a, (t s).1 = .ok a → post a

/-- Work that leads along a relation, whatever its value is. -/
abbrev Keeps (R : σ → σ → Prop) (t : ExceptT ε (StateM σ) α) (s : σ) : Prop :=
  Leads R t (fun _ => True) s

theorem Keeps.of_step {t : ExceptT ε (StateM σ) α} (h : R s (t s).2) : Keeps R t s :=
  ⟨h, fun _ _ => trivial⟩

/-- Work in two parts ends where its first part fails, or goes on from where that part ends. -/
theorem bind_outcome (t : ExceptT ε (StateM σ) α) (f : α → ExceptT ε (StateM σ) β) (s : σ) :
    (∃ e, (t s).1 = .error e ∧ (t >>= f) s = (.error e, (t s).2)) ∨
      ∃ a, (t s).1 = .ok a ∧ (t >>= f) s = f a (t s).2 := by
  change (∃ e, _ ∧ ExceptT.bindCont f (t s).1 (t s).2 = _) ∨
    ∃ a, _ ∧ ExceptT.bindCont f (t s).1 (t s).2 = _
  cases (t s).1 with
  | error e => exact .inl ⟨e, rfl, rfl⟩
  | ok a => exact .inr ⟨a, rfl, rfl⟩

/-- Work in two parts succeeds where its first part does and the second goes on to the end. -/
theorem bind_run_eq_ok {t : ExceptT ε (StateM σ) α} {f : α → ExceptT ε (StateM σ) β} {b : β}
    {s' : σ} : (t >>= f) s = (.ok b, s') ↔
      ∃ a s₁, t s = (.ok a, s₁) ∧ f a s₁ = (.ok b, s') := by
  rcases bind_outcome t f s with ⟨e, he, heq⟩ | ⟨a, ha, heq⟩
  · rw [heq]
    refine iff_of_false (fun h => absurd (congrArg Prod.fst h) nofun) ?_
    rintro ⟨a, s₁, h, -⟩
    rw [h] at he
    contradiction
  · rw [heq]
    constructor
    · exact fun h => ⟨a, _, Prod.ext ha rfl, h⟩
    · rintro ⟨a', s₁, h, h'⟩
      rw [h] at ha ⊢
      obtain rfl := Except.ok.inj ha
      exact h'

namespace Leads

variable {t : ExceptT ε (StateM σ) α} {P P' : α → Prop} {Q : β → Prop}

/-- A run leads along the relation. -/
theorem along {r : Except ε α} {s' : σ} (h : Leads R t P s) (hrun : t s = (r, s')) : R s s' := by
  rw [Leads, hrun] at h
  exact h.1

section Preorder

variable [IsPreorder σ R]

theorem pure {a : α} (h : P a) : Leads R (Pure.pure a : ExceptT ε (StateM σ) α) P s := by
  refine ⟨refl_of R s, ?_⟩
  rintro _ ⟨⟩
  exact h

theorem throw (e : ε) : Leads R (MonadExcept.throw e : ExceptT ε (StateM σ) α) P s :=
  ⟨refl_of R s, nofun⟩

theorem get : Leads R (MonadState.get : ExceptT ε (StateM σ) σ) (· = s) s := by
  refine ⟨refl_of R s, ?_⟩
  rintro _ ⟨⟩
  rfl

theorem bind {f : α → ExceptT ε (StateM σ) β} (ht : Leads R t P s)
    (hf : ∀ a s', R s s' → P a → Leads R (f a) Q s') : Leads R (t >>= f) Q s := by
  obtain ⟨hR, hP⟩ := ht
  rcases bind_outcome t f s with ⟨e, -, heq⟩ | ⟨a, ha, heq⟩
  · rw [Leads, heq]
    exact ⟨hR, nofun⟩
  · obtain ⟨hR', hQ⟩ := hf a _ hR (hP a ha)
    rw [Leads, heq]
    exact ⟨trans_of R hR hR', hQ⟩

theorem mapM {f : α → ExceptT ε (StateM σ) β} : ∀ {xs : List α} {s : σ},
    (∀ x ∈ xs, ∀ s', R s s' → Keeps R (f x) s') →
      Keeps R (xs.mapM f) s
  | [], s, _ => pure trivial
  | x :: xs, s, h => by
    rw [List.mapM_cons]
    refine (h x List.mem_cons_self s (refl_of R s)).bind fun y s' hs' _ => ?_
    have hrest : Keeps R (xs.mapM f) s' := mapM fun z hz s'' hs'' =>
      h z (List.mem_cons_of_mem x hz) s'' (trans_of R hs' hs'')
    exact hrest.bind fun _ _ _ _ => pure trivial

end Preorder

end Leads

/-- A value that is given satisfies `post` with the state that the work ends in, and a failure is
one of `fail`. -/
inductive Gives (post : α → σ → Prop) (fail : ε → Prop) (t : ExceptT ε (StateM σ) α) (s : σ) : Prop
  | ok {a : α} (h : (t s).1 = .ok a) (hpost : post a (t s).2)
  | error {e : ε} (h : (t s).1 = .error e) (hfail : fail e)

namespace Gives

variable {t u : ExceptT ε (StateM σ) α} {P P' : α → σ → Prop} {Q : β → σ → Prop} {F : ε → Prop}

theorem of_ok {a : α} {s' : σ} (h : t s = (.ok a, s')) (hP : P a s') : Gives P F t s :=
  .ok (by rw [h]) (by rwa [h])

theorem of_error {e : ε} {s' : σ} (h : t s = (.error e, s')) (hF : F e) : Gives P F t s :=
  .error (by rw [h]) hF

theorem congr (h : t s = u s) (hu : Gives P F u s) : Gives P F t s := by
  cases hu with
  | ok hok hP => exact .ok (h ▸ hok) (h ▸ hP)
  | error herror hF => exact .error (h ▸ herror) hF

theorem mono (h : Gives P F t s) (hP : ∀ a s, P a s → P' a s) : Gives P' F t s := by
  cases h with
  | ok h hpost => exact .ok h (hP _ _ hpost)
  | error h hfail => exact .error h hfail

theorem pure {a : α} (h : P a s) : Gives P F (Pure.pure a : ExceptT ε (StateM σ) α) s :=
  .of_ok rfl h

theorem throw {e : ε} (h : F e) : Gives P F (MonadExcept.throw e : ExceptT ε (StateM σ) α) s :=
  .of_error rfl h

theorem get {P : σ → σ → Prop} (h : P s s) :
    Gives P F (MonadState.get : ExceptT ε (StateM σ) σ) s :=
  .of_ok rfl h

theorem bind {f : α → ExceptT ε (StateM σ) β} (ht : Gives P F t s)
    (hf : ∀ a s', P a s' → Gives Q F (f a) s') : Gives Q F (t >>= f) s := by
  rcases bind_outcome t f s with ⟨e, he, heq⟩ | ⟨a, ha, heq⟩
  · cases ht with
    | ok h =>
      rw [h] at he
      contradiction
    | error h hF =>
      obtain rfl := Except.error.inj (h.symm.trans he)
      exact .of_error heq hF
  · cases ht with
    | ok h hP =>
      obtain rfl := Except.ok.inj (h.symm.trans ha)
      cases hf _ _ hP with
      | ok h' hQ => exact .ok (heq ▸ h') (heq ▸ hQ)
      | error h' hF => exact .error (heq ▸ h') hF
    | error h =>
      rw [h] at ha
      contradiction

theorem mapM {f : α → ExceptT ε (StateM σ) β} {I : σ → Prop} : ∀ {xs : List α} {s : σ},
    (∀ x ∈ xs, ∀ s, I s → Gives (fun _ s' => I s') F (f x) s) → I s →
      Gives (fun _ s' => I s') F (xs.mapM f) s
  | [], _, _, hI => pure hI
  | x :: xs, s, h, hI => by
    rw [List.mapM_cons]
    refine (h x List.mem_cons_self s hI).bind fun _ s₁ h₁ => ?_
    have hrest := mapM (fun z hz => h z (List.mem_cons_of_mem x hz)) h₁
    exact hrest.bind fun _ _ h₂ => pure h₂

end Gives

end SetupScript
