import Mathlib.Data.List.Basic
import SetupScript.Text.Blank

/-!
# Texts in pieces

`splitAll` cuts a list as the library does (`splitAll_eq_splitOnP`), so that it puts back together
what was joined at a cut (`splitAll_append_cons`). `lines` cuts a text at its line feeds, and a text
that holds none (`IsLine`) is one line.
-/

namespace SetupScript.Text

section Lists

variable {α : Type} {p : α → Bool}

/-- The pieces are those that the library cuts a list into. -/
theorem splitAll_eq_splitOnP : ∀ xs : List α, splitAll p xs = xs.splitOnP p
  | [] => rfl
  | x :: xs => by
    have ih := splitAll_eq_splitOnP xs
    obtain ⟨w, ws, hw⟩ := List.exists_cons_of_ne_nil (List.splitOnP_ne_nil p xs)
    rw [hw] at ih
    rw [List.splitOnP_cons_eq_if_modifyHead, hw, List.modifyHead_cons]
    simp only [splitAll, ih]

theorem splitAll_ne_nil (xs : List α) : splitAll p xs ≠ [] := by
  rw [splitAll_eq_splitOnP]
  exact List.splitOnP_ne_nil p xs

theorem splitAll_cons_of_pos {x : α} (h : p x = true) (xs : List α) :
    splitAll p (x :: xs) = [] :: splitAll p xs := by
  simp [splitAll, h]

theorem splitAll_cons_of_neg {x : α} (h : p x = false) {xs w : List α} {ws : List (List α)}
    (hs : splitAll p xs = w :: ws) : splitAll p (x :: xs) = (x :: w) :: ws := by
  simp [splitAll, h, hs]

theorem splitAll_append_cons {y : α} (h : p y = true) (ys xs : List α) :
    splitAll p (xs ++ y :: ys) = splitAll p xs ++ splitAll p ys := by
  simp only [splitAll_eq_splitOnP]
  exact List.splitOnP_append_cons xs ys h

theorem splitAll_eq_singleton {xs : List α} (h : ∀ x ∈ xs, p x = false) :
    splitAll p xs = [xs] := by
  rw [splitAll_eq_splitOnP]
  exact List.splitOnP_eq_singleton h

/-- Cutting drops what is cut at and nothing else. -/
theorem flatten_splitAll : ∀ xs : List α, (splitAll p xs).flatten = xs.filter fun x => !p x
  | [] => rfl
  | x :: xs => by
    have ih := flatten_splitAll xs
    cases hx : p x with
    | true => simp [splitAll_cons_of_pos hx, ih, hx]
    | false =>
      obtain ⟨w, ws, hw⟩ := List.exists_cons_of_ne_nil (splitAll_ne_nil (p := p) xs)
      rw [hw, List.flatten_cons] at ih
      simp [splitAll_cons_of_neg hx hw, ih, hx]

/-- No piece holds an element that is cut at, and every element of a piece is one of the whole. -/
theorem mem_of_mem_splitAll : ∀ {xs w : List α}, w ∈ splitAll p xs →
    ∀ x ∈ w, x ∈ xs ∧ p x = false
  | [], w, h, x, hx => by
    simp only [splitAll, List.mem_singleton] at h
    simp [h] at hx
  | y :: ys, w, h, x, hx => by
    cases hy : p y with
    | true =>
      rw [splitAll_cons_of_pos hy, List.mem_cons] at h
      rcases h with rfl | h
      · simp at hx
      · exact (mem_of_mem_splitAll h x hx).imp_left (List.mem_cons_of_mem y)
    | false =>
      obtain ⟨v, vs, hv⟩ := List.exists_cons_of_ne_nil (splitAll_ne_nil (p := p) ys)
      rw [splitAll_cons_of_neg hy hv, List.mem_cons] at h
      rcases h with rfl | h
      · rcases List.mem_cons.1 hx with rfl | hx
        · exact ⟨List.mem_cons_self, hy⟩
        · have hm : v ∈ splitAll p ys := hv ▸ List.mem_cons_self
          exact (mem_of_mem_splitAll hm x hx).imp_left (List.mem_cons_of_mem y)
      · have hm : w ∈ splitAll p ys := hv ▸ List.mem_cons_of_mem v h
        exact (mem_of_mem_splitAll hm x hx).imp_left (List.mem_cons_of_mem y)

/-- Pieces that each end in an element that is cut at are read back, with nothing after the last. -/
theorem splitAll_flatMap_concat {y : α} (h : p y = true) : ∀ {xss : List (List α)},
    (∀ xs ∈ xss, ∀ x ∈ xs, p x = false) → splitAll p (xss.flatMap (· ++ [y])) = xss ++ [[]]
  | [], _ => rfl
  | xs :: xss, hx => by
    have ih := splitAll_flatMap_concat h fun zs hz => hx zs (List.mem_cons_of_mem xs hz)
    rw [List.flatMap_cons, List.append_assoc, List.singleton_append, splitAll_append_cons h,
      splitAll_eq_singleton (hx xs List.mem_cons_self), ih]
    rfl

theorem cutFirst_append_cons {y : α} (h : p y = true) (ys : List α) :
    ∀ {xs : List α}, (∀ x ∈ xs, p x = false) → cutFirst p (xs ++ y :: ys) = (xs, some ys)
  | [], _ => by simp [cutFirst, h]
  | x :: xs, hx => by
    have ih := cutFirst_append_cons h ys fun z hz => hx z (List.mem_cons_of_mem x hz)
    simp [cutFirst, hx x List.mem_cons_self, ih]

/-- What is cut off the end does not reach past an element that is kept. -/
theorem trimRight_append_cons {y : α} (h : p y = false) (xs ys : List α) :
    trimRight p (xs ++ y :: ys) = xs ++ y :: trimRight p ys := by
  have hd : ∀ zs : List α, (zs ++ (y :: xs.reverse)).dropWhile p
      = zs.dropWhile p ++ y :: xs.reverse := by
    intro zs
    induction zs with
    | nil => simp [h]
    | cons z zs ih => by_cases hz : p z = true <;> simp [hz, ih]
  simp [trimRight, hd]

theorem trimRight_isPrefix (xs : List α) : trimRight p xs <+: xs := by
  have h := List.dropWhile_suffix p (l := xs.reverse)
  rwa [← List.reverse_prefix, List.reverse_reverse] at h

theorem beq_eq_false_of_notMem [BEq α] [LawfulBEq α] {x : α} {xs : List α} (h : x ∉ xs) :
    ∀ y ∈ xs, (y == x) = false :=
  fun _ hy => beq_eq_false_iff_ne.2 fun e => h (e ▸ hy)

end Lists

/-! ## Lines -/

def lines (s : String) : List String :=
  (splitAll (· == '\n') s.toList).map String.ofList

/-- Whether a text keeps to one line. -/
def IsLine (s : String) : Prop := '\n' ∉ s.toList

instance (s : String) : Decidable (IsLine s) := inferInstanceAs (Decidable (_ ∉ _))

@[simp]
theorem isLine_empty : IsLine "" := by
  simp [IsLine]

@[simp]
theorem isLine_append {s t : String} : IsLine (s ++ t) ↔ IsLine s ∧ IsLine t := by
  simp [IsLine, not_or]

theorem isLine_ofList {cs : List Char} (h : '\n' ∉ cs) : IsLine (String.ofList cs) := by
  rwa [IsLine, String.toList_ofList]

@[simp]
theorem lines_empty : lines "" = [""] := rfl

theorem lines_eq_singleton {s : String} (h : IsLine s) : lines s = [s] := by
  simp [lines, splitAll_eq_singleton (beq_eq_false_of_notMem h)]

theorem lines_append_feed (s t : String) : lines (s ++ "\n" ++ t) = lines s ++ lines t := by
  have hl : (s ++ "\n" ++ t).toList = s.toList ++ '\n' :: t.toList := by simp
  rw [lines, hl, splitAll_append_cons (by rfl), List.map_append]
  rfl

theorem lines_intercalate : ∀ (s : String) (ss : List String),
    lines ("\n".intercalate (s :: ss)) = (s :: ss).flatMap lines
  | s, [] => by simp
  | s, t :: ss => by
    rw [String.intercalate_cons_cons, lines_append_feed, lines_intercalate t ss]
    simp only [List.flatMap_cons]

theorem isLine_of_mem_lines {s l : String} (h : l ∈ lines s) : IsLine l := by
  obtain ⟨w, hw, rfl⟩ := List.mem_map.1 h
  refine isLine_ofList fun hm => ?_
  simpa using (mem_of_mem_splitAll hw '\n' hm).2

/-- Cutting at line feeds leaves exactly those lists of texts as they are whose texts hold none. -/
theorem flatMap_lines_eq_self_iff : ∀ ss : List String,
    ss.flatMap lines = ss ↔ ∀ s ∈ ss, IsLine s
  | [] => by simp
  | s :: ss => by
    have ih := flatMap_lines_eq_self_iff ss
    rw [List.flatMap_cons, List.forall_mem_cons]
    constructor
    · intro h
      have hne : lines s ≠ [] := by simp [lines, splitAll_ne_nil]
      obtain ⟨w, ws, hw⟩ := List.exists_cons_of_ne_nil hne
      have hws : w = s := by
        rw [hw, List.cons_append] at h
        exact (List.cons.inj h).1
      have hline : IsLine s := hws ▸ isLine_of_mem_lines (hw ▸ List.mem_cons_self)
      rw [lines_eq_singleton hline, List.singleton_append] at h
      exact ⟨hline, ih.1 (List.cons.inj h).2⟩
    · rintro ⟨hline, hlines⟩
      rw [lines_eq_singleton hline, ih.2 hlines]
      rfl

/-- Lines that are joined by line feeds are read back. -/
theorem lines_intercalate_of_isLine {ss : List String} (hne : ss ≠ [])
    (h : ∀ s ∈ ss, IsLine s) : lines ("\n".intercalate ss) = ss := by
  obtain ⟨s, ts, rfl⟩ := List.exists_cons_of_ne_nil hne
  rw [lines_intercalate, (flatMap_lines_eq_self_iff _).2 h]

end SetupScript.Text
