import Mathlib.Computability.Language
import SetupScript.Text.Pattern

/-!
# The language of a pattern

The texts that match a pattern are a language, built from the pattern's parts. `mem_after` says
that `Pattern.after` takes the first character off the texts of this language, and from it
`accepts_iff` that taking all characters one by one decides whether a text belongs to it.
-/

namespace SetupScript.Text.Pattern

def language : Pattern → Language Char
  | never => 0
  | nothing => 1
  | one p => {cs | ∃ c, p c = true ∧ cs = [c]}
  | either a b => a.language + b.language
  | andThen a b => a.language * b.language
  | many a => KStar.kstar a.language

theorem mem_language_one {p : Char → Bool} {cs : List Char} :
    cs ∈ (one p).language ↔ ∃ c, p c = true ∧ cs = [c] := Iff.rfl

theorem language_eitherOf (a b : Pattern) : (eitherOf a b).language = a.language + b.language := by
  unfold eitherOf
  split
  · exact (zero_add _).symm
  · exact (add_zero _).symm
  · rfl

theorem language_inOrder (a b : Pattern) : (inOrder a b).language = a.language * b.language := by
  unfold inOrder
  split
  · exact (zero_mul _).symm
  · exact (mul_zero _).symm
  · exact (one_mul _).symm
  · exact (mul_one _).symm
  · rfl

theorem language_inTurn : ∀ ps : List Pattern, (inTurn ps).language = (ps.map language).prod
  | [] => rfl
  | p :: ps => by
    have ih := language_inTurn ps
    rw [inTurn] at ih ⊢
    rw [List.foldr_cons, language_inOrder, ih, List.map_cons, List.prod_cons]

theorem optional_iff : ∀ p : Pattern, p.optional = true ↔ [] ∈ p.language
  | never => by simp [optional, language]
  | nothing => by simp [optional, language]
  | one p => by simp [optional, mem_language_one]
  | either a b => by simp [optional, language, Language.mem_add, optional_iff a, optional_iff b]
  | andThen a b => by simp [optional, language, Language.mem_mul, optional_iff a, optional_iff b]
  | many a => by simp [optional, language, Language.nil_mem_kstar]

section Parts

variable {l m : Language Char} {c : Char} {cs : List Char}

/-- The first character of two parts is the first part's, unless this is empty. -/
theorem cons_mem_mul : c :: cs ∈ l * m ↔
    (∃ u, c :: u ∈ l ∧ ∃ v ∈ m, u ++ v = cs) ∨ [] ∈ l ∧ c :: cs ∈ m := by
  rw [Language.mem_mul]
  constructor
  · rintro ⟨u, hu, v, hv, h⟩
    cases u with
    | nil => exact .inr ⟨hu, h ▸ hv⟩
    | cons d u =>
      obtain ⟨rfl, rfl⟩ := List.cons.inj h
      exact .inl ⟨u, hu, v, hv, rfl⟩
  · rintro (⟨u, hu, v, hv, rfl⟩ | ⟨hl, hm⟩)
    · exact ⟨c :: u, hu, v, hv, rfl⟩
    · exact ⟨[], hl, c :: cs, hm, rfl⟩

theorem cons_mem_kstar : c :: cs ∈ KStar.kstar l ↔
    ∃ u, c :: u ∈ l ∧ ∃ v ∈ KStar.kstar l, u ++ v = cs := by
  constructor
  · intro h
    obtain ⟨pieces, hflat, hpieces⟩ := Language.mem_kstar_iff_exists_nonempty.1 h
    cases pieces with
    | nil => simp at hflat
    | cons w ws =>
      obtain ⟨hw, hne⟩ := hpieces w List.mem_cons_self
      cases w with
      | nil => exact absurd rfl hne
      | cons d u =>
        obtain ⟨rfl, rfl⟩ := List.cons.inj hflat
        have hrest : ws.flatten ∈ KStar.kstar l :=
          Language.join_mem_kstar fun y hy => (hpieces y (List.mem_cons_of_mem _ hy)).1
        exact ⟨u, hw, ws.flatten, hrest, rfl⟩
  · rintro ⟨u, hu, v, hv, rfl⟩
    rw [← Language.one_add_self_mul_kstar_eq_kstar, Language.mem_add]
    exact .inr (Language.append_mem_mul hu hv)

end Parts

/-- What has to follow a character is what follows it in the texts of the language. -/
theorem mem_after {c : Char} : ∀ (p : Pattern) {cs : List Char},
    cs ∈ (p.after c).language ↔ c :: cs ∈ p.language
  | never, cs => by simp [after, language]
  | nothing, cs => by simp [after, language]
  | one p, cs => by
    rw [mem_language_one, after]
    split_ifs with h
    · simp [language, h]
    · simp [language, h]
  | either a b, cs => by
    rw [after, language_eitherOf, Language.mem_add, mem_after a, mem_after b]
    rfl
  | andThen a b, cs => by
    have hfirst : cs ∈ (inOrder (a.after c) b).language ↔
        ∃ u, c :: u ∈ a.language ∧ ∃ v ∈ b.language, u ++ v = cs := by
      simp only [language_inOrder, Language.mem_mul, mem_after a]
    rw [language, cons_mem_mul, ← optional_iff a, after]
    cases a.optional with
    | true => simp [language_eitherOf, Language.mem_add, hfirst, mem_after b]
    | false => simp [hfirst]
  | many a, cs => by
    rw [after, language, cons_mem_kstar, language_inOrder, Language.mem_mul]
    simp only [mem_after a]
    rfl

theorem accepts_iff : ∀ (p : Pattern) (cs : List Char), p.accepts cs = true ↔ cs ∈ p.language
  | p, [] => optional_iff p
  | p, c :: cs => by rw [accepts, accepts_iff (p.after c) cs, mem_after]

end SetupScript.Text.Pattern
