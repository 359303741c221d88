import Mathlib.Algebra.Group.Nat.Even
import SetupScript.Proofs.Script.OneLine

/-!
# Arguments of a constant

An argument of a constant is written with codes for the signs that would end or split it. Replacing
one sign after the other gives the same text as replacing all signs at once
(`replaceInTurn_eq`), because the percent sign, with which codes begin, is the first. Reading the
codes from left to right accepts exactly what is written this way and gives back the text
(`unescape?_eq_some_iff`).
-/

namespace SetupScript.Script

open Text

/-- The signs that are not written as they are, in the order in which they are replaced. -/
def codes : List (Char × List Char) :=
  [('%', ['%', '2', '5']), (',', ['%', '2', 'c']), ('|', ['%', '7', 'c']),
    ('\x7d', ['%', '7', 'd']), ('&', ['&', '&'])]

def replaceEach (cs : List Char) (p : Char × List Char) : List Char :=
  cs.flatMap fun c => if c = p.1 then p.2 else [c]

def replaceInTurn (cs : List Char) : List Char := codes.foldl replaceEach cs

/-- Reads codes; a sign that has a code is nothing by itself. -/
def unescape? : List Char → Option (List Char)
  | [] => some []
  | '%' :: '2' :: '5' :: cs => (unescape? cs).map ('%' :: ·)
  | '%' :: '2' :: 'c' :: cs => (unescape? cs).map (',' :: ·)
  | '%' :: '7' :: 'c' :: cs => (unescape? cs).map ('|' :: ·)
  | '%' :: '7' :: 'd' :: cs => (unescape? cs).map ('\x7d' :: ·)
  | '&' :: '&' :: cs => (unescape? cs).map ('&' :: ·)
  | c :: cs => if (codes.lookup c).isSome then none else (unescape? cs).map (c :: ·)

/-- The longest runs of ampersands, between any two other characters. -/
def ampersandRuns (cs : List Char) : List (List Char) := splitAll (· != '&') cs

/-- What follows a percent sign. -/
def percentCodes : List (List Char) := [['2', '5'], ['2', 'c'], ['7', 'c'], ['7', 'd']]

/-! ## Replacing in turn -/

theorem foldl_replaceEach (ps : List (Char × List Char)) :
    ∀ cs : List Char, ps.foldl replaceEach cs = cs.flatMap fun c => ps.foldl replaceEach [c] := by
  induction ps with
  | nil => intro cs; simp
  | cons p ps ih =>
    intro cs
    rw [List.foldl_cons, ih, replaceEach, List.flatMap_assoc]
    refine List.flatMap_congr fun c _ => ?_
    rw [List.foldl_cons, ih (replaceEach [c] p)]
    simp [replaceEach]

/-- A character has one of the codes, or it is written as it is. -/
theorem escapeChar_cases (c : Char) :
    (c, escapeChar c) ∈ codes ∨ (∀ p ∈ codes, c ≠ p.1) ∧ escapeChar c = [c] := by
  unfold escapeChar
  split_ifs with h₁ h₂ h₃ h₄ h₅
  case neg =>
    refine .inr ⟨?_, rfl⟩
    simp only [codes, List.forall_mem_cons]
    simp_all
  all_goals
    simp only [beq_iff_eq] at *
    subst c
    exact .inl (by decide)

theorem lookup_codes {c : Char} (h : ∀ p ∈ codes, c ≠ p.1) : codes.lookup c = none :=
  List.lookup_eq_none_iff.2 fun p hp => bne_iff_ne.2 (h p hp)

theorem escapeChar_eq (c : Char) : escapeChar c = (codes.lookup c).getD [c] := by
  rcases escapeChar_cases c with h | ⟨hne, h⟩
  · have hlookup : ∀ p ∈ codes, codes.lookup p.1 = some p.2 := by decide
    rw [hlookup (c, escapeChar c) h]
    rfl
  · rw [lookup_codes hne, h]
    rfl

theorem replaceInTurn_singleton (c : Char) : replaceInTurn [c] = escapeChar c := by
  rcases escapeChar_cases c with h | ⟨hne, h⟩
  · have hcodes : ∀ p ∈ codes, replaceInTurn [p.1] = p.2 := by decide
    exact hcodes (c, escapeChar c) h
  · simp only [codes, List.forall_mem_cons] at hne
    simp [replaceInTurn, codes, replaceEach, hne, h]

/-- One sign after the other, or all signs at once. -/
theorem replaceInTurn_eq (cs : List Char) : replaceInTurn cs = cs.flatMap escapeChar := by
  rw [replaceInTurn, foldl_replaceEach]
  exact List.flatMap_congr fun c _ => replaceInTurn_singleton c

/-! ## What is written -/

/-- A sign that has a code, and is in none, is not written. -/
theorem notMem_flatMap {c : Char} (hcodes : ∀ p ∈ codes, c ∉ p.2) (hcoded : ∃ p ∈ codes, c = p.1)
    (cs : List Char) : c ∉ cs.flatMap escapeChar := by
  intro hm
  obtain ⟨d, -, hd⟩ := List.mem_flatMap.1 hm
  rcases escapeChar_cases d with h | ⟨hne, h⟩
  · exact hcodes (d, escapeChar d) h hd
  · rw [h, List.mem_singleton] at hd
    obtain ⟨p, hp, heq⟩ := hcoded
    exact hne p hp (hd ▸ heq)

/-- Codes begin with a percent sign, but for the one of the ampersand. -/
theorem escapeChar_form (c : Char) : escapeChar c = ['&', '&'] ∨
    (∃ code ∈ percentCodes, escapeChar c = '%' :: code) ∨
    c ≠ '%' ∧ c ≠ '&' ∧ escapeChar c = [c] := by
  rcases escapeChar_cases c with h | ⟨hne, h⟩
  · have hcodes : ∀ p ∈ codes, p.2 = ['&', '&'] ∨ ∃ code ∈ percentCodes, p.2 = '%' :: code := by
      decide
    exact (hcodes (c, escapeChar c) h).imp_right .inl
  · refine .inr (.inr ⟨hne ('%', _) List.mem_cons_self, hne ('&', ['&', '&']) (by decide), h⟩)

theorem suffix_of_notMem {c : Char} {after rest : List Char} : ∀ {cs : List Char}, c ∉ cs →
    c :: after <:+ cs ++ rest → c :: after <:+ rest
  | [], _, h => h
  | d :: cs, hc, h => by
    rw [List.mem_cons, not_or] at hc
    rw [List.cons_append, List.suffix_cons_iff, List.cons.injEq] at h
    exact suffix_of_notMem hc.2 (h.resolve_left fun heq => hc.1 heq.1)

/-- Behind a percent sign stands the rest of a code. -/
theorem code_of_suffix {after : List Char} : ∀ {cs : List Char},
    '%' :: after <:+ cs.flatMap escapeChar → ∃ code ∈ percentCodes, code <+: after
  | [], h => by simp at h
  | c :: cs, h => by
    rw [List.flatMap_cons] at h
    obtain hc | ⟨code, hcode, hc⟩ | ⟨hne, -, hc⟩ := escapeChar_form c
    · exact code_of_suffix (suffix_of_notMem (by rw [hc]; decide) h)
    · have hnone : ∀ code ∈ percentCodes, '%' ∉ code := by decide
      rw [hc, List.cons_append, List.suffix_cons_iff] at h
      rcases h with h | h
      · exact ⟨code, hcode, (List.cons.inj h).2 ▸ List.prefix_append _ _⟩
      · exact code_of_suffix (suffix_of_notMem (hnone code hcode) h)
    · exact code_of_suffix (suffix_of_notMem (by rw [hc]; simpa using hne.symm) h)

theorem ampersandRuns_append {rest : List Char} : ∀ {cs : List Char}, '&' ∉ cs →
    ampersandRuns (cs ++ rest) = cs.map (fun _ => []) ++ ampersandRuns rest
  | [], _ => rfl
  | c :: cs, h => by
    rw [List.mem_cons, not_or] at h
    have hcut : (c != '&') = true := bne_iff_ne.2 (Ne.symm h.1)
    have hruns : ampersandRuns (c :: (cs ++ rest)) = [] :: ampersandRuns (cs ++ rest) :=
      splitAll_cons_of_pos (p := (· != '&')) hcut _
    rw [List.cons_append, hruns, ampersandRuns_append h.2]
    rfl

theorem even_of_mem_ampersandRuns : ∀ {cs : List Char},
    ∀ run ∈ ampersandRuns (cs.flatMap escapeChar), Even run.length
  | [], run, h => by
    obtain rfl : run = [] := by simpa [ampersandRuns, splitAll] using h
    exact ⟨0, rfl⟩
  | c :: cs, run, h => by
    have ih : ∀ run ∈ ampersandRuns (cs.flatMap escapeChar), Even run.length :=
      even_of_mem_ampersandRuns
    have hother : ∀ xs : List Char, '&' ∉ xs → escapeChar c = xs → Even run.length := by
      intro xs hxs hc
      rw [List.flatMap_cons, hc, ampersandRuns_append hxs, List.mem_append, List.mem_map] at h
      rcases h with ⟨-, -, rfl⟩ | h
      · exact ⟨0, rfl⟩
      · exact ih run h
    obtain hc | ⟨code, hcode, hc⟩ | ⟨-, hne, hc⟩ := escapeChar_form c
    · obtain ⟨first, runs, hruns⟩ :=
        List.exists_cons_of_ne_nil (splitAll_ne_nil (p := (· != '&')) (cs.flatMap escapeChar))
      have hlong : ampersandRuns ((c :: cs).flatMap escapeChar) =
          ('&' :: '&' :: first) :: runs := by
        rw [List.flatMap_cons, hc]
        exact splitAll_cons_of_neg (by decide) (splitAll_cons_of_neg (by decide) hruns)
      rw [ampersandRuns, hruns, List.forall_mem_cons] at ih
      rw [hlong] at h
      rcases List.mem_cons.1 h with rfl | h
      · exact (Nat.even_add.2 (iff_of_true ih.1 ⟨1, rfl⟩) : Even (first.length + 2))
      · exact ih.2 run h
    · have hnone : ∀ code ∈ percentCodes, '&' ∉ '%' :: code := by decide
      exact hother _ (hnone code hcode) hc
    · exact hother _ (by simpa using hne.symm) hc

/-! ## Reading codes -/

theorem unescape?_code {p : Char × List Char} (hp : p ∈ codes) (cs : List Char) :
    unescape? (p.2 ++ cs) = (unescape? cs).map (p.1 :: ·) := by
  simp only [codes, List.mem_cons, List.not_mem_nil, or_false] at hp
  rcases hp with rfl | rfl | rfl | rfl | rfl <;> rfl

theorem unescape?_cons {c : Char} (h : ∀ p ∈ codes, c ≠ p.1) (cs : List Char) :
    unescape? (c :: cs) = (unescape? cs).map (c :: ·) := by
  have hlookup := lookup_codes h
  simp only [codes, List.forall_mem_cons] at h
  rw [unescape?, hlookup]
  · rfl
  all_goals simp_all

theorem unescape?_flatMap : ∀ cs : List Char, unescape? (cs.flatMap escapeChar) = some cs
  | [] => rfl
  | c :: cs => by
    have ih := unescape?_flatMap cs
    rw [List.flatMap_cons]
    rcases escapeChar_cases c with h | ⟨hne, h⟩
    · rw [unescape?_code h, ih]
      rfl
    · rw [h, List.singleton_append, unescape?_cons hne, ih]
      rfl

theorem eq_of_unescape? {t s : List Char} (h : unescape? t = some s) :
    t = s.flatMap escapeChar := by
  fun_induction unescape? t generalizing s with
  | case1 => simp_all
  | case7 => contradiction
  | case8 c cs _ _ _ _ _ hcoded ih =>
    obtain ⟨u, hu, rfl⟩ := Option.map_eq_some_iff.1 h
    have hc : escapeChar c = [c] := by
      rw [escapeChar_eq, Option.not_isSome_iff_eq_none.1 hcoded, Option.getD_none]
    rw [List.flatMap_cons, hc, ← ih hu]
    rfl
  | _ cs ih =>
    obtain ⟨u, hu, rfl⟩ := Option.map_eq_some_iff.1 h
    rw [ih hu]
    rfl

theorem unescape?_eq_some_iff {t s : List Char} :
    unescape? t = some s ↔ t = s.flatMap escapeChar :=
  ⟨eq_of_unescape?, fun h => h ▸ unescape?_flatMap s⟩

theorem toList_constantArgument (s : String) :
    (constantArgument s).toList = s.toList.flatMap escapeChar := String.toList_ofList

theorem constantArgument_injective : Function.Injective constantArgument := by
  intro s t h
  have hread := unescape?_flatMap s.toList
  rw [← toList_constantArgument, h, toList_constantArgument, unescape?_flatMap] at hread
  exact (String.toList_inj.1 (Option.some.inj hread)).symm

/-- The written argument is the text with its signs replaced, in turn or at once; it holds no sign
that would end or split it; exactly such arguments are read, each as the text it is written for, and
so different names are shown differently. -/
theorem constantArgument_faithful (s : String) :
    let written := (constantArgument s).toList
    replaceInTurn s.toList = written ∧
      (s.toList.flatMap fun c => (codes.lookup c).getD [c]) = written ∧
      (∀ c ∈ [',', '|', '\x7d'], c ∉ written) ∧
      (∀ after, '%' :: after <:+ written → ∃ code ∈ percentCodes, code <+: after) ∧
      (∀ run ∈ ampersandRuns written, Even run.length) ∧
      (∀ cs, unescape? cs = some s.toList ↔ cs = written) ∧
      ∀ t, constant ("cm:LaunchProgram," ++ constantArgument s) =
        constant ("cm:LaunchProgram," ++ constantArgument t) → s = t := by
  intro written
  have hwritten : written = s.toList.flatMap escapeChar := toList_constantArgument s
  rw [hwritten]
  refine ⟨replaceInTurn_eq _, ?_, ?_, fun _ => code_of_suffix, even_of_mem_ampersandRuns,
    fun _ => unescape?_eq_some_iff, fun t h => constantArgument_injective ?_⟩
  · exact List.flatMap_congr fun c _ => (escapeChar_eq c).symm
  · simp only [List.forall_mem_cons]
    exact ⟨notMem_flatMap (by decide) (by decide) _, notMem_flatMap (by decide) (by decide) _,
      notMem_flatMap (by decide) (by decide) _, by simp⟩
  · simpa [constant] using h

end SetupScript.Script
