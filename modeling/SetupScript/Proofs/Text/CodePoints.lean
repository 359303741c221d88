import SetupScript.Proofs.Text.Pieces
import SetupScript.Text.CodePoints

/-!
# Reading code points

Code points that are written are read back, surrogates among them or not (`codes_ofCodes`). A text
without marks stands for itself and has its own bytes (`toBytes_eq_toUTF8`). At a slash nothing is
put together, so the names between the slashes of a text can be passed to the system if all of it
can (`isNameable_of_mem_splitAll`).
-/

namespace SetupScript.Text

variable {c : Char} {cs : List Char} {s : String}

theorem units_cons_of_ne (h : c ≠ mark) (cs : List Char) : units (c :: cs) = [c] :: units cs := by
  cases cs with
  | nil => rfl
  | cons d cs => rw [units, beq_eq_false_iff_ne.2 h, Bool.false_and, if_neg Bool.false_ne_true]

theorem units_mark_cons {d : Char} (h : (d == mark || isStandIn d) = true) (cs : List Char) :
    units (mark :: d :: cs) = [mark, d] :: units cs := by
  rw [units, h, beq_self_eq_true, Bool.true_and, if_pos rfl]

/-- No unit goes beyond a character that is no mark and stands for no surrogate. -/
theorem units_append_cons (h : c ≠ mark) (hstand : isStandIn c = false) (ys : List Char) :
    ∀ xs : List Char, units (xs ++ c :: ys) = units xs ++ [c] :: units ys
  | [] => units_cons_of_ne h ys
  | [x] => by
    have hpair : (x == mark && (c == mark || isStandIn c)) = false := by
      rw [hstand, beq_eq_false_iff_ne.2 h, Bool.or_self, Bool.and_false]
    change (if (x == mark && (c == mark || isStandIn c)) = true then _ else _) = _
    rw [hpair, if_neg Bool.false_ne_true, units_cons_of_ne h]
    rfl
  | x :: y :: xs => by
    rw [List.cons_append, List.cons_append, units, units]
    split_ifs
    · rw [units_append_cons h hstand ys xs, List.cons_append]
    · rw [← List.cons_append, units_append_cons h hstand ys (y :: xs), List.cons_append]

/-! ## Written code points -/

theorem codeOf_mark : codeOf [mark, mark] = mark.toNat := by decide

theorem toNat_ofNat_of_isSurrogate {n : Nat} (h : isSurrogate n = true) :
    (Char.ofNat (n + standInOffset)).toNat = n + standInOffset := by
  simp only [isSurrogate, Bool.and_eq_true, decide_eq_true_eq] at h
  have hvalid : (n + standInOffset).isValidChar := by
    unfold standInOffset
    exact .inr ⟨by omega, by omega⟩
  rw [Char.ofNat, dif_pos hvalid]
  rfl

theorem toNat_ofNat_of_not_isSurrogate {n : Nat} (h : isSurrogate n = false) (hn : n ≤ 0x10FFFF) :
    (Char.ofNat n).toNat = n := by
  simp only [isSurrogate, Bool.and_eq_false_iff, decide_eq_false_iff_not] at h
  have hvalid : n.isValidChar := by
    rcases h with h | h
    · exact .inl (by omega)
    · exact .inr ⟨by omega, by omega⟩
  rw [Char.ofNat, dif_pos hvalid]
  rfl

/-- The characters of a code point are one unit, which is read as that code point. -/
theorem units_ofCode_append {n : Nat} (hn : n ≤ 0x10FFFF) (cs : List Char) :
    ∃ u, units (ofCode n ++ cs) = u :: units cs ∧ codeOf u = n := by
  unfold ofCode
  split_ifs with hsurrogate hmark
  · have hnat := toNat_ofNat_of_isSurrogate hsurrogate
    have hstand : isStandIn (Char.ofNat (n + standInOffset)) = true := by
      rw [isStandIn, hnat, Nat.add_sub_cancel, hsurrogate]
    refine ⟨_, units_mark_cons (by rw [hstand, Bool.or_true]) cs, ?_⟩
    rw [codeOf, if_pos hstand, hnat, Nat.add_sub_cancel]
  · have hcode := toNat_ofNat_of_not_isSurrogate (Bool.not_eq_true _ ▸ hsurrogate) hn
    rw [beq_iff_eq.1 hmark] at hcode
    exact ⟨_, units_mark_cons rfl cs, codeOf_mark.trans hcode⟩
  · exact ⟨_, units_cons_of_ne (fun h => hmark (beq_iff_eq.2 h)) cs,
      toNat_ofNat_of_not_isSurrogate (Bool.not_eq_true _ ▸ hsurrogate) hn⟩

theorem codes_ofCodes {ns : List Nat} (h : ∀ n ∈ ns, n ≤ 0x10FFFF) : codes (ofCodes ns) = ns := by
  rw [codes, ofCodes, String.toList_ofList]
  induction ns with
  | nil => rfl
  | cons n ns ih =>
    obtain ⟨hn, hns⟩ := List.forall_mem_cons.1 h
    obtain ⟨u, hunits, hcode⟩ := units_ofCode_append hn (ns.flatMap ofCode)
    rw [List.flatMap_cons, hunits, List.map_cons, hcode, ih hns]

/-- A text can be written to a file unless a surrogate is among its code points. -/
theorem isEncodable_ofCodes {ns : List Nat} (h : ∀ n ∈ ns, n ≤ 0x10FFFF) :
    isEncodable (ofCodes ns) = true ↔ ∀ n ∈ ns, isSurrogate n = false := by
  rw [isEncodable, codes_ofCodes h]
  simp

/-! ## Texts without marks -/

theorem units_of_notMem (h : mark ∉ cs) : units cs = cs.map ([·]) := by
  induction cs with
  | nil => rfl
  | cons c cs ih =>
    rw [List.mem_cons, not_or] at h
    rw [units_cons_of_ne (Ne.symm h.1), ih h.2, List.map_cons]

theorem codes_of_notMem (h : mark ∉ s.toList) : codes s = s.toList.map Char.toNat := by
  rw [codes, units_of_notMem h, List.map_map]
  rfl

theorem isSurrogate_toNat (c : Char) : isSurrogate c.toNat = false := by
  have hvalid : c.toNat < 0xD800 ∨ 0xDFFF < c.toNat ∧ c.toNat < 0x110000 := c.valid
  simp only [isSurrogate, Bool.and_eq_false_iff, decide_eq_false_iff_not]
  omega

theorem isEncodable_of_notMem (h : mark ∉ s.toList) : isEncodable s = true := by
  rw [isEncodable, codes_of_notMem h]
  simp [isSurrogate_toNat]

theorem toBytes_eq_toUTF8 (h : mark ∉ s.toList) : toBytes s = s.toUTF8 := by
  rw [toBytes, if_pos (isEncodable_of_notMem h), codes_of_notMem h, List.map_map]
  simp [Function.comp_def]

/-- Texts with a character between them have bytes if each has. -/
theorem isEncodable_join (h : c ≠ mark) (hstand : isStandIn c = false) (s t : String) :
    isEncodable (s ++ String.singleton c ++ t) = (isEncodable s && isEncodable t) := by
  have hall : ∀ s, isEncodable s = (units s.toList).all fun u => !isSurrogate (codeOf u) := by
    intro s
    rw [isEncodable, codes, List.all_map]
    rfl
  have hc : isSurrogate (codeOf [c]) = false := isSurrogate_toNat c
  simp only [hall, String.toList_append, String.toList_singleton, List.append_assoc,
    List.singleton_append, units_append_cons h hstand, List.all_append, List.all_cons, hc,
    Bool.not_false, Bool.true_and]

theorem isEncodable_intercalate (h : c ≠ mark) (hstand : isStandIn c = false) :
    ∀ ss : List String, isEncodable ((String.singleton c).intercalate ss) = ss.all isEncodable
  | [] => rfl
  | [s] => by simp
  | s :: t :: ss => by
    rw [String.intercalate_cons_cons, isEncodable_join h hstand, List.all_cons,
      isEncodable_intercalate h hstand (t :: ss)]

/-! ## Names -/

theorem isNameable_eq_all (cs : List Char) : isNameable (String.ofList cs) =
    (units cs).all fun u =>
      codeOf u != 0 && (!isSurrogate (codeOf u) || isByteCode (codeOf u)) := by
  rw [isNameable, codes, String.toList_ofList, List.all_map]
  rfl

/-- By induction on the length, with a cut at the first slash. -/
theorem isNameable_of_mem_splitAll {cs w : List Char} (h : isNameable (String.ofList cs) = true)
    (hw : w ∈ splitAll (· == '/') cs) : isNameable (String.ofList w) = true := by
  by_cases hslash : '/' ∈ cs
  · obtain ⟨first, rest, hcut, hfirst⟩ := List.eq_append_cons_of_mem hslash
    rw [hcut] at h hw
    rw [isNameable_eq_all, units_append_cons (by decide) (by decide), List.all_append,
      List.all_cons, Bool.and_eq_true, Bool.and_eq_true] at h
    rw [splitAll_append_cons rfl, splitAll_eq_singleton (beq_eq_false_of_notMem hfirst),
      List.singleton_append, List.mem_cons] at hw
    rcases hw with rfl | hw
    · rw [isNameable_eq_all, h.1]
    · exact isNameable_of_mem_splitAll (by rw [isNameable_eq_all, h.2.2]) hw
  · rw [splitAll_eq_singleton (beq_eq_false_of_notMem hslash), List.mem_singleton] at hw
    rwa [hw]
termination_by cs.length
decreasing_by
  rw [hcut, List.length_append, List.length_cons]
  omega

end SetupScript.Text
