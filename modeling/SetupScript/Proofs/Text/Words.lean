import SetupScript.Proofs.Text.Pieces
import SetupScript.Text.Case

/-!
# Joined words

Putting the words of a name together leaves nothing of what separated them, and it adds no slash: no
word break is in a word (`mem_of_mem_splitAll`), and neither of them is the upper form of a letter
(`NoUpperForm.of_mem_upper`). A word break between two texts only keeps their words apart
(`joinedWords_push_append`), and a name that is joined stays as it is: what an upper form starts
with has no other upper form (`exists_of_upper`).
-/

namespace SetupScript.Text

/-! ## Upper forms -/

/-- The code points of a run. -/
def CaseRun.codes (r : CaseRun) : List Nat :=
  (List.range ((r.last - r.first) / r.step + 1)).map fun k => r.first + k * r.step

theorem CaseRun.mem_codes {r : CaseRun} {n : Nat} (h : r.contains n = true) : n ∈ r.codes := by
  simp only [contains, Bool.and_eq_true, decide_eq_true_eq, beq_iff_eq] at h
  obtain ⟨⟨hfirst, hlast⟩, hmod⟩ := h
  have hbound : (n - r.first) / r.step < (r.last - r.first) / r.step + 1 :=
    Nat.lt_succ_of_le (Nat.div_le_div_right (by omega))
  refine List.mem_map.2 ⟨(n - r.first) / r.step, List.mem_range.2 hbound, ?_⟩
  rw [Nat.div_mul_cancel (Nat.dvd_of_mod_eq_zero hmod)]
  omega

theorem upper_cases (c : Char) :
    (∃ r ∈ upperRuns, c.toNat ∈ r.codes ∧ upper c = [shifted c.toNat r.shift]) ∨
      (∃ ms, (c.toNat, ms) ∈ upperExpansions ∧ upper c = ms.map Char.ofNat) ∨ upper c = [c] := by
  unfold upper
  simp only
  split
  · rename_i r hr
    have hcontains : r.contains c.toNat = true := by simpa using List.find?_some hr
    exact .inl ⟨r, List.mem_of_find?_eq_some hr, CaseRun.mem_codes hcontains, rfl⟩
  · split
    · rename_i n ms hm
      obtain rfl : n = c.toNat := by simpa using List.find?_some hm
      exact .inr (.inl ⟨ms, List.mem_of_find?_eq_some hm, rfl⟩)
    · exact .inr (.inr rfl)

/-- A set of numbers, with one bit for each. -/
def bits : List Nat → Nat
  | [] => 0
  | n :: ns => 1 <<< n ||| bits ns

theorem testBit_bits {n : Nat} : ∀ {ns : List Nat}, (bits ns).testBit n = true ↔ n ∈ ns
  | [] => by simp [bits]
  | m :: ns => by
    have ih : (bits ns).testBit n = true ↔ n ∈ ns := testBit_bits
    rw [bits, Nat.testBit_or, Bool.or_eq_true, ih, List.mem_cons, Nat.one_shiftLeft,
      Nat.testBit_two_pow, decide_eq_true_eq, eq_comm]

theorem notMem_of_bits {ms ns : List Nat} (h : bits ms &&& bits ns = 0) {n : Nat} (hn : n ∈ ms) :
    n ∉ ns := by
  intro hn'
  have hboth : (bits ms &&& bits ns).testBit n = true := by
    rw [Nat.testBit_and, testBit_bits.2 hn, testBit_bits.2 hn']
    rfl
  rw [h, Nat.zero_testBit] at hboth
  contradiction

/-- The code points of the letters with an upper form. -/
def loweredCodes : List Nat := upperRuns.flatMap CaseRun.codes ++ upperExpansions.map (·.1)

/-- The code points that upper forms start with. -/
def raisedCodes : List Nat :=
  (upperRuns.flatMap fun r => r.codes.map fun n => (shifted n r.shift).toNat) ++
    upperExpansions.flatMap fun e => (e.2.map fun n => (Char.ofNat n).toNat).take 1

/-- The tables are too long to compare them letter by letter. -/
theorem bits_raisedCodes : bits raisedCodes &&& bits loweredCodes = 0 := by decide +kernel

theorem upper_eq_self {c : Char} (h : c.toNat ∉ loweredCodes) : upper c = [c] := by
  rw [loweredCodes, List.mem_append, not_or] at h
  rcases upper_cases c with ⟨r, hr, hc, -⟩ | ⟨ms, hms, -⟩ | hc
  · exact absurd (List.mem_flatMap.2 ⟨r, hr, hc⟩) h.1
  · exact absurd (List.mem_map.2 ⟨_, hms, rfl⟩) h.2
  · exact hc

theorem upper_of_raised {c : Char} (h : c.toNat ∈ raisedCodes) : upper c = [c] :=
  upper_eq_self (notMem_of_bits bits_raisedCodes h)

/-- What an upper form starts with is its own upper form. -/
theorem exists_of_upper (c : Char) : ∃ d ds, upper c = d :: ds ∧ upper d = [d] := by
  rcases upper_cases c with ⟨r, hr, hcode, hc⟩ | ⟨ms, hms, hc⟩ | hc
  · have hraised : (shifted c.toNat r.shift).toNat ∈ raisedCodes :=
      List.mem_append_left _ (List.mem_flatMap.2 ⟨r, hr, List.mem_map.2 ⟨_, hcode, rfl⟩⟩)
    exact ⟨_, [], hc, upper_of_raised hraised⟩
  · have hne : ∀ e ∈ upperExpansions, e.2 ≠ [] := by decide
    obtain ⟨n, ns, rfl⟩ := List.exists_cons_of_ne_nil (hne _ hms)
    have hraised : (Char.ofNat n).toNat ∈ raisedCodes :=
      List.mem_append_right _ (List.mem_flatMap.2 ⟨_, hms, List.mem_singleton.2 rfl⟩)
    exact ⟨_, ns.map Char.ofNat, hc, upper_of_raised hraised⟩
  · exact ⟨c, [], hc, hc⟩

/-! ## Signs that joining does not bring in -/

/-- No upper form in the tables is of a class of characters. -/
def NoUpperForm (p : Char → Bool) : Prop :=
  (∀ r ∈ upperRuns, ∀ k ∈ List.range ((r.last - r.first) / r.step + 1),
    p (shifted (r.first + k * r.step) r.shift) = false) ∧
  ∀ e ∈ upperExpansions, ∀ n ∈ e.2, p (Char.ofNat n) = false

instance (p : Char → Bool) : Decidable (NoUpperForm p) := inferInstanceAs (Decidable (_ ∧ _))

theorem noUpperForm_isWordBreak : NoUpperForm isWordBreak := by decide +kernel

theorem noUpperForm_slash : NoUpperForm (· == '/') := by decide +kernel

section NoUpperForm

variable {p : Char → Bool} (hp : NoUpperForm p)

include hp

theorem NoUpperForm.of_mem_upper {c d : Char} (hc : p c = false) (h : d ∈ upper c) :
    p d = false := by
  rcases upper_cases c with ⟨r, hr, hcode, hupper⟩ | ⟨ms, hms, hupper⟩ | hupper
  · rw [hupper, List.mem_singleton] at h
    obtain ⟨k, hk, hn⟩ := List.mem_map.1 hcode
    rw [h, ← hn]
    exact hp.1 r hr k hk
  · rw [hupper] at h
    obtain ⟨m, hm, rfl⟩ := List.mem_map.1 h
    exact hp.2 _ hms m hm
  · rw [hupper, List.mem_singleton] at h
    rwa [h]

theorem NoUpperForm.of_mem_capitalizeList {cs : List Char} {d : Char}
    (hcs : ∀ c ∈ cs, p c = false) (h : d ∈ capitalizeList cs) : p d = false := by
  cases cs with
  | nil => simp [capitalizeList] at h
  | cons c cs =>
    rw [capitalizeList, List.mem_append] at h
    rcases h with h | h
    · exact hp.of_mem_upper (hcs c List.mem_cons_self) h
    · exact hcs d (List.mem_cons_of_mem c h)

/-- A joined name is free of a class when the words of the name are. -/
theorem NoUpperForm.of_mem_joinedWords {s : String} {d : Char}
    (hs : ∀ c ∈ s.toList, isWordBreak c = false → p c = false)
    (h : d ∈ (joinedWords s).toList) : p d = false := by
  rw [joinedWords, String.toList_ofList, List.mem_flatMap] at h
  obtain ⟨w, hw, hd⟩ := h
  refine hp.of_mem_capitalizeList (fun c hc => ?_) hd
  obtain ⟨hmem, hbreak⟩ := mem_of_mem_splitAll hw c hc
  exact hs c hmem hbreak

end NoUpperForm

/-- What separated the words of a name is gone from the joined name. -/
theorem isWordBreak_of_mem_joinedWords {s : String} {c : Char} (h : c ∈ (joinedWords s).toList) :
    isWordBreak c = false :=
  noUpperForm_isWordBreak.of_mem_joinedWords (fun _ _ hc => hc) h

theorem NoUpperForm.notMem_joinedWords {c : Char} (hc : NoUpperForm (· == c)) {s : String}
    (hs : c ∉ s.toList) : c ∉ (joinedWords s).toList := by
  intro h
  have hfree : ∀ d ∈ s.toList, isWordBreak d = false → (d == c) = false :=
    fun d hd _ => beq_eq_false_of_notMem hs d hd
  simpa using hc.of_mem_joinedWords hfree h

theorem isLine_joinedWords (s : String) : IsLine (joinedWords s) := by
  intro h
  have hb : isWordBreak '\n' = false := isWordBreak_of_mem_joinedWords h
  revert hb
  decide

/-! ## Words between breaks -/

theorem toList_joinedWords (s : String) :
    (joinedWords s).toList = (splitAll isWordBreak s.toList).flatMap capitalizeList :=
  String.toList_ofList

/-- A word break keeps the words on both sides of it apart. -/
theorem joinedWords_push_append {c : Char} (hc : isWordBreak c = true) (s t : String) :
    joinedWords (s.push c ++ t) = joinedWords s ++ joinedWords t := by
  have hsplit : splitAll isWordBreak (s.push c ++ t).toList =
      splitAll isWordBreak s.toList ++ splitAll isWordBreak t.toList := by
    have hlist : (s.push c ++ t).toList = s.toList ++ c :: t.toList := by simp
    rw [hlist, splitAll_append_cons hc]
  rw [joinedWords, hsplit, List.flatMap_append, String.ofList_append]
  rfl

theorem joinedWords_empty : joinedWords "" = "" := rfl

theorem joinedWords_push {c : Char} (hc : isWordBreak c = true) (s : String) :
    joinedWords (s.push c) = joinedWords s := by
  have hend := joinedWords_push_append hc s ""
  rwa [joinedWords_empty, String.append_empty, String.append_empty] at hend

theorem joinedWords_singleton_append {c : Char} (hc : isWordBreak c = true) (s : String) :
    joinedWords (String.singleton c ++ s) = joinedWords s := by
  have hstart := joinedWords_push_append hc "" s
  rwa [joinedWords_empty, String.empty_append] at hstart

theorem capitalizeList_cons_append (c : Char) (cs rest : List Char) :
    capitalizeList (capitalizeList (c :: cs) ++ rest) = capitalizeList (c :: cs) ++ rest := by
  obtain ⟨d, ds, hc, hd⟩ := exists_of_upper c
  rw [capitalizeList, hc, List.cons_append, List.cons_append, capitalizeList, hd,
    List.singleton_append]

/-- Joined words start in upper form already. -/
theorem capitalizeList_flatMap : ∀ words : List (List Char),
    capitalizeList (words.flatMap capitalizeList) = words.flatMap capitalizeList
  | [] => rfl
  | [] :: words => capitalizeList_flatMap words
  | (c :: cs) :: words => capitalizeList_cons_append c cs (words.flatMap capitalizeList)

theorem joinedWords_joinedWords (s : String) : joinedWords (joinedWords s) = joinedWords s := by
  have hone : splitAll isWordBreak (joinedWords s).toList = [(joinedWords s).toList] :=
    splitAll_eq_singleton fun _ => isWordBreak_of_mem_joinedWords
  rw [joinedWords, hone, List.flatMap_singleton, toList_joinedWords, capitalizeList_flatMap]
  rfl

theorem capitalizeList_eq : ∀ cs : List Char,
    capitalizeList cs = (cs.take 1).flatMap upper ++ cs.drop 1
  | [] => rfl
  | c :: cs => by simp [capitalizeList]

/-- Joining is compatible with putting texts together at word breaks, however many there are and
wherever else they stand. No word break is left and a joined text stays as it is: it is made of the
words between the breaks, in their order and with nothing else of the text lost, each of which only
has its first character put into upper form. -/
theorem joinedWords_separated (s t : String) {c c' : Char} (hc : isWordBreak c = true)
    (hc' : isWordBreak c' = true) :
    joinedWords (s.push c ++ t) = joinedWords s ++ joinedWords t ∧
      (joinedWords ((s.push c).push c' ++ t) = joinedWords (s.push c ++ t) ∧
        joinedWords (String.singleton c ++ s) = joinedWords s ∧
        joinedWords (s.push c) = joinedWords s ∧
        joinedWords (s.push c ++ t) = joinedWords (s.push c' ++ t)) ∧
      (∀ d ∈ (joinedWords s).toList, isWordBreak d = false) ∧
      joinedWords (joinedWords s) = joinedWords s ∧
      let words := s.toList.splitOnP isWordBreak
      (∀ w ∈ words, ∀ d ∈ w, isWordBreak d = false) ∧
        words.flatten = s.toList.filter (fun d => !isWordBreak d) ∧
        (joinedWords s).toList = words.flatMap fun w => (w.take 1).flatMap upper ++ w.drop 1 := by
  refine ⟨joinedWords_push_append hc s t,
    ⟨?_, joinedWords_singleton_append hc s, joinedWords_push hc s, ?_⟩,
    fun _ => isWordBreak_of_mem_joinedWords, joinedWords_joinedWords s, ?_⟩
  · rw [joinedWords_push_append hc', joinedWords_push_append hc, joinedWords_push hc]
  · rw [joinedWords_push_append hc, joinedWords_push_append hc']
  · rw [← splitAll_eq_splitOnP]
    refine ⟨fun w hw d hd => (mem_of_mem_splitAll hw d hd).2, flatten_splitAll s.toList, ?_⟩
    rw [toList_joinedWords]
    exact List.flatMap_congr fun w _ => capitalizeList_eq w

/-- Words with a letter whose upper form is longer, between breaks of two kinds. -/
theorem joinedWords_separated_ligature :
    isWordBreak '_' = true ∧ isWordBreak '\u2003' = true ∧
      joinedWords ("my-app".push '_' ++ "\ufb01le viewer") = "MyAppFIleViewer" ∧
      joinedWords (("my-app".push '_').push '\u2003' ++ "\ufb01le viewer") = "MyAppFIleViewer" := by
  have hlow : isWordBreak '_' = true := by decide
  have hwide : isWordBreak '\u2003' = true := by decide
  obtain ⟨-, ⟨htwo, -⟩, -⟩ := joinedWords_separated "my-app" "\ufb01le viewer" hlow hwide
  have hone : joinedWords ("my-app".push '_' ++ "\ufb01le viewer") = "MyAppFIleViewer" := by
    decide +kernel
  exact ⟨hlow, hwide, hone, htwo.trans hone⟩

end SetupScript.Text
