import SetupScript.Proofs.Work

/-!
# Two runs side by side

`Together R P t t' s s'` says how the work `t` from the state `s` compares with the work `t'` from
`s'`: both fail with one failure, in states that `R` relates, or both succeed, and `P` relates what
they give and where they end. From the steps of two pieces of work this goes to the whole
(`Together.bind`).
-/

namespace SetupScript

/-- Outcomes that are the same failure, or related values. -/
inductive Matched {ε α β : Type} (P : α → β → Prop) : Except ε α → Except ε β → Prop
  | ok {a : α} {b : β} (h : P a b) : Matched P (.ok a) (.ok b)
  | error (e : ε) : Matched P (.error e) (.error e)

variable {ε ε' σ α α' β β' : Type}

section Matched

variable {P Q : α → β → Prop} {x : Except ε α} {y : Except ε β}

theorem Matched.mono (h : Matched P x y) (hPQ : ∀ a b, P a b → Q a b) : Matched Q x y := by
  cases h with
  | ok h => exact .ok (hPQ _ _ h)
  | error e => exact .error e

theorem Matched.mapError (h : Matched P x y) (f : ε → ε') :
    Matched P (x.mapError f) (y.mapError f) := by
  cases h with
  | ok h => exact .ok h
  | error e => exact .error (f e)

theorem matched_eq {x y : Except ε α} : Matched Eq x y ↔ x = y := by
  constructor
  · intro h
    cases h with
    | ok h => rw [h]
    | error e => rfl
  · rintro rfl
    cases x with
    | ok a => exact .ok rfl
    | error e => exact .error e

end Matched

/-- Both fail alike, or both succeed and end in states that are related with their values. -/
inductive Together (R : σ → σ → Prop) (P : α → σ → β → σ → Prop)
    (t : ExceptT ε (StateM σ) α) (t' : ExceptT ε (StateM σ) β) (s s' : σ) : Prop
  | ok {a : α} {b : β} (h : (t s).1 = .ok a) (h' : (t' s').1 = .ok b)
      (hP : P a (t s).2 b (t' s').2)
  | error {e : ε} (h : (t s).1 = .error e) (h' : (t' s').1 = .error e) (hR : R (t s).2 (t' s').2)

/-- The values are the same and the states are related. -/
def Alike (R : σ → σ → Prop) (a : α) (s : σ) (b : α) (s' : σ) : Prop := a = b ∧ R s s'

namespace Together

variable {R : σ → σ → Prop} {P : α → σ → β → σ → Prop} {Q : α' → σ → β' → σ → Prop}
  {t : ExceptT ε (StateM σ) α} {t' : ExceptT ε (StateM σ) β} {s s' : σ}

theorem of_matched (h : Matched (fun a b => P a (t s).2 b (t' s').2) (t s).1 (t' s').1)
    (hR : R (t s).2 (t' s').2) : Together R P t t' s s' := by
  generalize hx : (t s).1 = x, hy : (t' s').1 = y at h
  cases h with
  | ok h => exact .ok hx hy h
  | error e => exact .error hx hy hR

theorem of_ok {a : α} {b : β} {s₁ s₁' : σ} (h : t s = (.ok a, s₁)) (h' : t' s' = (.ok b, s₁'))
    (hP : P a s₁ b s₁') : Together R P t t' s s' :=
  .ok (by rw [h]) (by rw [h']) (by rw [h, h']; exact hP)

theorem of_error {e : ε} {s₁ s₁' : σ} (h : t s = (.error e, s₁)) (h' : t' s' = (.error e, s₁'))
    (hR : R s₁ s₁') : Together R P t t' s s' :=
  .error (by rw [h]) (by rw [h']) (by rw [h, h']; exact hR)

theorem congr {u : ExceptT ε (StateM σ) α} {u' : ExceptT ε (StateM σ) β} {s₁ s₁' : σ}
    (ht : t s = u s₁) (ht' : t' s' = u' s₁') (h : Together R P u u' s₁ s₁') :
    Together R P t t' s s' := by
  cases h with
  | ok h h' hP => exact .ok (ht ▸ h) (ht' ▸ h') (ht ▸ ht' ▸ hP)
  | error h h' hR => exact .error (ht ▸ h) (ht' ▸ h') (ht ▸ ht' ▸ hR)

theorem pure {a : α} {b : β} (h : P a s b s') : Together R P
    (Pure.pure a : ExceptT ε (StateM σ) α) (Pure.pure b : ExceptT ε (StateM σ) β) s s' :=
  .ok rfl rfl h

theorem throw (e : ε) (h : R s s') : Together R P
    (MonadExcept.throw e : ExceptT ε (StateM σ) α) (MonadExcept.throw e : ExceptT ε (StateM σ) β)
    s s' :=
  .error rfl rfl h

theorem get {T : σ → σ → σ → σ → Prop} (h : T s s s' s') : Together R T
    (MonadState.get : ExceptT ε (StateM σ) σ) (MonadState.get : ExceptT ε (StateM σ) σ) s s' :=
  .ok rfl rfl h

theorem bind {f : α → ExceptT ε (StateM σ) α'} {f' : β → ExceptT ε (StateM σ) β'}
    (h : Together R P t t' s s')
    (hf : ∀ a s₁ b s₁', P a s₁ b s₁' → Together R Q (f a) (f' b) s₁ s₁') :
    Together R Q (t >>= f) (t' >>= f') s s' := by
  cases h with
  | ok h h' hP =>
    rcases bind_outcome t f s with ⟨e, he, -⟩ | ⟨a, ha, heq⟩
    · rw [h] at he
      contradiction
    rcases bind_outcome t' f' s' with ⟨e, he, -⟩ | ⟨b, hb, heq'⟩
    · rw [h'] at he
      contradiction
    obtain rfl := Except.ok.inj (h.symm.trans ha)
    obtain rfl := Except.ok.inj (h'.symm.trans hb)
    cases hf _ _ _ _ hP with
    | ok g g' hQ => exact .ok (heq ▸ g) (heq' ▸ g') (heq ▸ heq' ▸ hQ)
    | error g g' hR => exact .error (heq ▸ g) (heq' ▸ g') (heq ▸ heq' ▸ hR)
  | error h h' hR =>
    rcases bind_outcome t f s with ⟨e, he, heq⟩ | ⟨a, ha, -⟩
    · rcases bind_outcome t' f' s' with ⟨e', he', heq'⟩ | ⟨b, hb, -⟩
      · obtain rfl := Except.error.inj (h.symm.trans he)
        obtain rfl := Except.error.inj (h'.symm.trans he')
        exact .error (by rw [heq]) (by rw [heq']) (by rw [heq, heq']; exact hR)
      · rw [h'] at hb
        contradiction
    · rw [h] at ha
      contradiction

/-- Steps whose outcomes are known are taken. -/
theorem after {f : α → ExceptT ε (StateM σ) α'} {f' : β → ExceptT ε (StateM σ) β'} {a : α} {b : β}
    {s₁ s₁' : σ} (h : t s = (.ok a, s₁)) (h' : t' s' = (.ok b, s₁'))
    (hf : Together R Q (f a) (f' b) s₁ s₁') : Together R Q (t >>= f) (t' >>= f') s s' := by
  have hstep : Together R (fun x u y u' => (x = a ∧ u = s₁) ∧ y = b ∧ u' = s₁') t t' s s' :=
    .of_ok h h' ⟨⟨rfl, rfl⟩, rfl, rfl⟩
  refine hstep.bind ?_
  rintro _ _ _ _ ⟨⟨rfl, rfl⟩, rfl, rfl⟩
  exact hf

theorem mono {Q : α → σ → β → σ → Prop} (h : Together R P t t' s s')
    (hPQ : ∀ a s b s', P a s b s' → Q a s b s') : Together R Q t t' s s' := by
  cases h with
  | ok h h' hP => exact .ok h h' (hPQ _ _ _ _ hP)
  | error h h' hR => exact .error h h' hR

theorem mapM {f f' : α → ExceptT ε (StateM σ) β} : ∀ {xs : List α} {s s' : σ},
    (∀ x ∈ xs, ∀ s s', R s s' → Together R (Alike R) (f x) (f' x) s s') → R s s' →
      Together R (Alike R) (xs.mapM f) (xs.mapM f') s s'
  | [], _, _, _, hR => pure ⟨rfl, hR⟩
  | x :: xs, s, s', h, hR => by
    rw [List.mapM_cons, List.mapM_cons]
    refine (h x List.mem_cons_self s s' hR).bind fun y s₁ y' s₁' ⟨hy, hR₁⟩ => ?_
    have hrest := mapM (fun z hz => h z (List.mem_cons_of_mem x hz)) hR₁
    exact hrest.bind fun ys s₂ ys' s₂' ⟨hys, hR₂⟩ => pure ⟨by rw [hy, hys], hR₂⟩

/-- What two pieces of work give is the same. -/
theorem outcome {t' : ExceptT ε (StateM σ) α} (h : Together R (Alike R) t t' s s') :
    (t s).1 = (t' s').1 ∧ R (t s).2 (t' s').2 := by
  cases h with
  | ok h h' hP => exact ⟨by rw [h, h', hP.1], hP.2⟩
  | error h h' hR => exact ⟨by rw [h, h'], hR⟩

end Together

end SetupScript
