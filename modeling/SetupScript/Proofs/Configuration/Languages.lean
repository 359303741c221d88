import Mathlib.Data.List.Forall2
import SetupScript.Proofs.Configuration.Resources
import SetupScript.Proofs.Script.Characters

/-!
# The selection of languages

A list of values that all name languages selects these in the order of their first mention, each
once (`selectAfter_means`), and the first value that names none is refused (`selectAfter_refused`).
So other spellings and further mentions change nothing (`selectFrom_respelled`,
`selectFrom_inserted`). `SelectsFirsts` says all of it, with the lines of the script that come of
it, and `selects_firsts` that it holds of every list.
-/

namespace SetupScript.Language

open Text

variable {v w : Value} {l : Language}

/-! ## Names of languages -/

/-- The value is a text that names the language. -/
def Means (v : Value) (l : Language) : Prop := ∃ s, v = .text s ∧ toLower (strip s) = l.locale

/-- The two small forms of sigma as one: which of them a capital gets depends on its neighbours. -/
def oneSigma (c : Char) : Char := if c = 'ς' then 'σ' else c

/-- What a name comes down to. -/
def spelling (s : String) : List Char := (toLower (strip s)).toList.map oneSigma

def SameSpelling (v w : Value) : Prop :=
  v = w ∨ ∃ s t, v = .text s ∧ w = .text t ∧ spelling s = spelling t

theorem mem_all (l : Language) : l ∈ all := by cases l <;> decide

theorem find?_locale (l : Language) : all.find? (·.locale == l.locale) = some l := by
  cases l <;> decide +kernel

theorem ofText?_eq_some {s : String} : ofText? s = some l ↔ toLower (strip s) = l.locale := by
  constructor
  · intro h
    have hl := List.find?_some h
    rw [beq_iff_eq] at hl
    exact hl.symm
  · intro h
    rw [ofText?, h, find?_locale]

theorem ofValue?_eq_some : ofValue? v = some l ↔ Means v l := by
  simp [ofValue?, Option.bind_eq_some_iff, Value.text?_eq_some, ofText?_eq_some, Means]

theorem ofValue?_eq_none : ofValue? v = none ↔ ∀ l, ¬ Means v l := by
  simp only [Option.eq_none_iff_forall_ne_some, ne_eq, ofValue?_eq_some]

theorem means_locale (l : Language) : Means (.text l.locale) l :=
  ⟨l.locale, rfl, by cases l <;> decide +kernel⟩

theorem map_oneSigma {cs : List Char} (h : 'ς' ∉ cs) : cs.map oneSigma = cs := by
  have hfixed : ∀ c ∈ cs, oneSigma c = id c := by
    intro c hc
    have hne : c ≠ 'ς' := fun e => h (e ▸ hc)
    exact if_neg hne
  rw [List.map_congr_left hfixed, List.map_id]

/-- No name of a language has a sigma. -/
theorem toLower_strip_iff {s : String} :
    toLower (strip s) = l.locale ↔ spelling s = l.locale.toList := by
  have hsigma : 'ς' ∉ l.locale.toList ∧ 'σ' ∉ l.locale.toList := by cases l <;> decide +kernel
  constructor
  · intro h
    rw [spelling, h, map_oneSigma hsigma.1]
  · intro h
    have hfinal : 'ς' ∉ (toLower (strip s)).toList := by
      intro hc
      have hmem : 'σ' ∈ spelling s := List.mem_map.2 ⟨_, hc, if_pos rfl⟩
      exact hsigma.2 (h ▸ hmem)
    rw [spelling, map_oneSigma hfinal] at h
    exact String.toList_injective h

theorem SameSpelling.ofValue?_eq (h : SameSpelling v w) : ofValue? v = ofValue? w := by
  obtain rfl | ⟨s, t, rfl, rfl, hspelling⟩ := h
  · rfl
  · refine Option.ext fun l => ?_
    simp only [ofValue?, Value.text?, Option.bind_some, ofText?_eq_some, toLower_strip_iff,
      hspelling]

/-! ## Selecting -/

section Selecting

variable {found ls : List Language} {names : List Value}

theorem addOnce_of_mem (h : l ∈ found) : addOnce found l = found :=
  if_pos (List.contains_iff_mem.2 h)

theorem mem_addOnce {k : Language} : k ∈ addOnce found l ↔ k ∈ found ∨ k = l := by
  unfold addOnce
  split_ifs with h
  · rw [List.contains_iff_mem] at h
    exact ⟨.inl, fun hk => hk.elim id fun hk => hk ▸ h⟩
  · simp

theorem addOnce_eraseDups (ls : List Language) (l : Language) :
    addOnce ls.eraseDups l = (ls ++ [l]).eraseDups := by
  rw [List.eraseDups_append, addOnce]
  by_cases h : l ∈ ls
  · simp [h, List.removeAll]
  · simp [h, List.removeAll, List.eraseDups_cons]

theorem selectAfter_cons (h : Means v l) :
    selectAfter found (v :: names) = selectAfter (addOnce found l) names := by
  rw [selectAfter, ofValue?_eq_some.2 h]

theorem selectAfter_means (h : List.Forall₂ Means names ls) : ∀ found : List Language,
    selectAfter found.eraseDups names = .ok (found ++ ls).eraseDups := by
  induction h with
  | nil =>
    intro found
    rw [List.append_nil]
    rfl
  | @cons v l vs ls hv _ ih =>
    intro found
    rw [selectAfter_cons hv, addOnce_eraseDups, ih, List.append_assoc, List.singleton_append]

theorem forall₂_means : ∀ {names : List Value}, (∀ v ∈ names, ∃ l, Means v l) →
    ∃ ls, List.Forall₂ Means names ls
  | [], _ => ⟨[], .nil⟩
  | v :: vs, h => by
    obtain ⟨hv, hvs⟩ := List.forall_mem_cons.1 h
    obtain ⟨l, hl⟩ := hv
    obtain ⟨ls, hls⟩ := forall₂_means hvs
    exact ⟨l :: ls, .cons hl hls⟩

theorem selectAfter_refused {before after : List Value} (hv : ∀ l, ¬ Means v l) :
    ∀ found : List Language, (∀ w ∈ before, ∃ l, Means w l) →
      selectAfter found (before ++ v :: after) = .error (.unsupportedLanguage v) := by
  induction before with
  | nil =>
    intro found _
    rw [List.nil_append, selectAfter, ofValue?_eq_none.2 hv]
  | cons w ws ih =>
    intro found h
    obtain ⟨⟨l, hl⟩, hws⟩ := List.forall_mem_cons.1 h
    rw [List.cons_append, selectAfter_cons hl]
    exact ih _ hws

theorem selectAfter_found (hw : Means w l) (after : List Value) : ∀ between {found},
    l ∈ found → selectAfter found (between ++ w :: after) = selectAfter found (between ++ after)
  | [], found, h => by
    rw [List.nil_append, List.nil_append, selectAfter_cons hw, addOnce_of_mem h]
  | u :: us, found, h => by
    rw [List.cons_append, List.cons_append, selectAfter, selectAfter]
    cases ofValue? u with
    | none => rfl
    | some k => exact selectAfter_found hw after us (mem_addOnce.2 (.inl h))

theorem selectAfter_inserted (h : SameSpelling v w) (between after : List Value) :
    ∀ before found, selectAfter found (before ++ v :: (between ++ w :: after)) =
      selectAfter found (before ++ v :: (between ++ after))
  | [], found => by
    rw [List.nil_append, List.nil_append, selectAfter, selectAfter]
    cases hl : ofValue? v with
    | none => rfl
    | some l =>
      have hw : Means w l := ofValue?_eq_some.1 (h.ofValue?_eq ▸ hl)
      exact selectAfter_found hw after between (mem_addOnce.2 (.inr rfl))
  | u :: us, found => by
    rw [List.cons_append, List.cons_append, selectAfter, selectAfter]
    cases ofValue? u with
    | none => rfl
    | some k => exact selectAfter_inserted h between after us _

end Selecting

/-! ## Selections -/

section Selections

variable {names : List Value} {ls : List Language}

theorem selectFrom_list (names : List Value) :
    selectFrom (.list names) = (select names).mapError .ofRefusal := by
  cases names with
  | nil => rfl
  | cons => rfl

/-- A list can also stand in a graph. -/
theorem selectFrom_of_list? (h : v.list? = some names) :
    selectFrom v = selectFrom (.list names) := by
  unfold Value.list? at h
  split at h
  · rename_i hv
    obtain rfl := Option.some.inj h
    unfold selectFrom Value.isNothing Value.items?
    rw [hv]
    rfl
  · contradiction

theorem select_eq_selectAfter (h : names ≠ []) : select names = selectAfter [] names :=
  if_neg (by simpa using h)

theorem selectFrom_means (hne : names ≠ []) (h : List.Forall₂ Means names ls) :
    selectFrom (.list names) = .ok ls.eraseDups := by
  rw [selectFrom_list, mapError_eq_ok, select_eq_selectAfter hne]
  exact selectAfter_means h []

theorem selectFrom_refused {before after : List Value} (hbefore : ∀ w ∈ before, ∃ l, Means w l)
    (hv : ∀ l, ¬ Means v l) : selectFrom (.list (before ++ v :: after)) =
      .error (.ofRefusal (.unsupportedLanguage v)) := by
  rw [selectFrom_list, select_eq_selectAfter (by simp), selectAfter_refused hv [] hbefore]
  rfl

/-- Where some value names no language, one of these is the first. -/
theorem exists_first_unknown (h : ∃ v ∈ names, ∀ l, ¬ Means v l) :
    ∃ before v after, names = before ++ v :: after ∧ (∀ w ∈ before, ∃ l, Means w l) ∧
      ∀ l, ¬ Means v l := by
  obtain ⟨v, hv, hnone⟩ := h
  have hsome : (names.find? fun v => (ofValue? v).isNone).isSome = true :=
    List.find?_isSome.2 ⟨v, hv, Option.isNone_iff_eq_none.2 (ofValue?_eq_none.2 hnone)⟩
  obtain ⟨u, hu⟩ := Option.isSome_iff_exists.1 hsome
  obtain ⟨hnone, before, after, rfl, hbefore⟩ := List.find?_eq_some_iff_append.1 hu
  refine ⟨before, u, after, rfl, fun w hw => ?_,
    ofValue?_eq_none.1 (Option.isNone_iff_eq_none.1 hnone)⟩
  obtain ⟨l, hl⟩ := Option.isSome_iff_exists.1 (by simpa using hbefore w hw)
  exact ⟨l, ofValue?_eq_some.1 hl⟩

theorem fails_iff (names : List Value) : (∃ f, selectFrom (.list names) = .error f) ↔
    names ≠ [] ∧ ∃ v ∈ names, ∀ l, ¬ Means v l := by
  constructor
  · rintro ⟨f, hf⟩
    have hne : names ≠ [] := by
      rintro rfl
      contradiction
    refine ⟨hne, ?_⟩
    by_contra hknown
    push Not at hknown
    obtain ⟨ls, hls⟩ := forall₂_means hknown
    rw [selectFrom_means hne hls] at hf
    contradiction
  · rintro ⟨-, h⟩
    obtain ⟨before, v, after, rfl, hbefore, hv⟩ := exists_first_unknown h
    exact ⟨_, selectFrom_refused hbefore hv⟩

/-- The message shows the value, if that can be written at all. -/
theorem told?_unsupported (v : Value) : (Failure.ofRefusal (.unsupportedLanguage v)).told? =
    some ⟨"ConfigurationError",
      "inno_bundle.languages is invalid: language " ++ v.written ++ " is not supported."⟩ ↔
    v.isWritable = true := by
  have hlabel : (Field.block "languages").label ++ " is invalid: language " =
      "inno_bundle.languages is invalid: language " := by decide +kernel
  have hmessage : (Refusal.unsupportedLanguage v).message =
      (Field.block "languages").label ++ " is invalid: language " ++ v.written ++
        " is not supported." := rfl
  rw [told?_ofRefusal, hmessage, hlabel, Refusal.shown?, Option.all_some]
  cases v.isWritable with
  | true => exact iff_of_true rfl rfl
  | false => simp

theorem selectFrom_respelled {names' : List Value} (h : List.Forall₂ SameSpelling names names') :
    (selectFrom (.list names)).toOption = (selectFrom (.list names')).toOption := by
  have hsame : List.Forall₂ (fun v w => ofValue? v = ofValue? w) names names' :=
    h.imp fun v w hvw => hvw.ofValue?_eq
  rw [selectFrom_list, selectFrom_list, toOption_mapError, toOption_mapError]
  cases hsame with
  | nil => rfl
  | cons hv hvs => exact selectAfter_congr (.cons hv hvs) []

theorem selectFrom_inserted (h : SameSpelling v w) (before between after : List Value) :
    selectFrom (.list (before ++ v :: (between ++ w :: after))) =
      selectFrom (.list (before ++ v :: (between ++ after))) := by
  rw [selectFrom_list, selectFrom_list, select_eq_selectAfter (by simp),
    select_eq_selectAfter (by simp), selectAfter_inserted h]

theorem eraseDups_eq_self : ∀ {ls : List Language}, ls.Nodup → ls.eraseDups = ls
  | [], _ => rfl
  | l :: ls, h => by
    obtain ⟨hl, hls⟩ := List.nodup_cons.1 h
    have hfilter : ls.filter (fun k => !k == l) = ls := by
      refine List.filter_eq_self.2 fun k hk => ?_
      simpa using fun e : k = l => hl (e ▸ hk)
    rw [List.eraseDups_cons, hfilter, eraseDups_eq_self hls]

theorem selectFrom_locales (h : selectFrom (.list names) = .ok ls) :
    selectFrom (.list (ls.map fun l => .text l.locale)) = .ok ls := by
  rw [selectFrom_list, mapError_eq_ok] at h
  obtain ⟨hne, hnodup⟩ := distinct_of_select h
  have hnames : List.Forall₂ Means (ls.map fun l => .text l.locale) ls :=
    List.forall₂_map_left_iff.2 (List.forall₂_same.2 fun l _ => means_locale l)
  rw [selectFrom_means (by simpa using hne) hnames, eraseDups_eq_self hnodup]

/-! ## Lines of a script -/

theorem entry_injective : Function.Injective entry := by
  have hentries : ∀ k ∈ all, ∀ l ∈ all, k.entry = l.entry → k = l := by decide +kernel
  exact fun k l h => hentries k (mem_all k) l (mem_all l) h

theorem lines_languages (c : Configuration) : lines (Script.languages c).text =
    "[Languages]" :: c.languages.map entry := by
  have hheading : IsLine "[Languages]" := by decide +kernel
  have hfeed : Foreign '\n' := rfl
  rw [Script.lines_text]
  exact (flatMap_lines_eq_self_iff _).2
    (List.forall_mem_cons.2 ⟨hheading, Script.lacks_languages hfeed⟩)

theorem selected_of_resolve {d : Disk} {v : Value} {o : Overrides} {dir : Path}
    {c : Configuration} (h : resolve d v o dir = .ok c)
    (hnames : ((Resolve.blockOf v).field "languages").list? = some names) :
    selectFrom (.list names) = .ok c.languages := by
  obtain ⟨f, hfront, hfinish⟩ := Resolve.resolve_eq_ok.1 h
  obtain ⟨root, outer, name, -, hblocks, -, -, hlanguages, -⟩ := Resolve.front_eq_ok.1 hfront
  have hnull : ((Resolve.blockOf v).field "languages").isNull = false := by
    rw [← Bool.not_eq_true, Value.isNull_iff]
    intro hnull
    rw [hnull] at hnames
    contradiction
  rw [(Resolve.blocksOf_eq_ok hblocks).2, Resolve.languages] at hlanguages
  simp only [hnull, hnames, Bool.false_eq_true, if_false] at hlanguages
  rw [(Resolve.finish_eq_ok.1 hfinish).2.2.2.2.2.2, selectFrom_list, mapError_eq_ok]
  exact hlanguages

end Selections

/-- What comes of selecting by a list of values: which lists fail and on which value, what the
others select, what makes no difference, and the lines of a script. -/
structure SelectsFirsts (names : List Value) : Prop where
  written : ∀ v : Value, v.list? = some names → selectFrom v = selectFrom (.list names)
  fails : (∃ f, selectFrom (.list names) = .error f) ↔ names ≠ [] ∧ ∃ v ∈ names, ∀ l, ¬ Means v l
  tells : ∀ before v after, names = before ++ v :: after → (∀ w ∈ before, ∃ l, Means w l) →
    (∀ l, ¬ Means v l) → ∃ f, selectFrom (.list names) = .error f ∧
      (f.told? = some ⟨"ConfigurationError", "inno_bundle.languages is invalid: language " ++
        v.written ++ " is not supported."⟩ ↔ v.isWritable = true)
  everything : names = [] → selectFrom (.list names) = .ok all
  firsts : ∀ ls, names ≠ [] → List.Forall₂ Means names ls →
    selectFrom (.list names) = .ok ls.eraseDups
  respelled : ∀ names', List.Forall₂ SameSpelling names names' →
    (selectFrom (.list names)).toOption = (selectFrom (.list names')).toOption
  inserted : ∀ before v between w after, names = before ++ v :: (between ++ after) →
    SameSpelling v w → selectFrom (.list (before ++ v :: (between ++ w :: after))) =
      selectFrom (.list names)
  locales : ∀ ls, selectFrom (.list names) = .ok ls →
    selectFrom (.list (ls.map fun l => .text l.locale)) = .ok ls
  rendered : ∀ {d : Disk} {v : Value} {o : Overrides} {dir : Path} {c : Configuration},
    resolve d v o dir = .ok c →
    ((Resolve.blockOf v).field "languages").list? = some names →
    ∃ ls, selectFrom (.list names) = .ok ls ∧
      lines (Script.languages c).text = "[Languages]" :: ls.map entry ∧ (ls.map entry).Nodup

/-- Selecting keeps the first mention of each language, in order, unless a value names none. -/
theorem selects_firsts (names : List Value) : SelectsFirsts names where
  written := fun _ => selectFrom_of_list?
  fails := fails_iff names
  tells := by
    rintro before v after rfl hbefore hv
    exact ⟨_, selectFrom_refused hbefore hv, told?_unsupported v⟩
  everything := fun h => h ▸ rfl
  firsts := fun _ => selectFrom_means
  respelled := fun _ => selectFrom_respelled
  inserted := by
    rintro before v between w after rfl h
    exact selectFrom_inserted h before between after
  locales := fun _ => selectFrom_locales
  rendered := by
    intro d v o dir c hc hnames
    have hselected := selected_of_resolve hc hnames
    obtain ⟨root, hroot, hprovided⟩ := resolve_provided hc
    exact ⟨c.languages, hselected, lines_languages c,
      hprovided.languages.2.map entry_injective⟩

/-- A number that is too long for a message is refused without one. -/
theorem selectFrom_unwritable : (∀ l, ¬ Means (.int longNumber) l) ∧
    selectFrom (.list [.int longNumber]) = .error (.defect .numberTooLong) ∧
      (Failure.defect .numberTooLong).told? = none := by
  have hlong : Value.isWritable (.int longNumber) = false := by decide +kernel
  have hnone : ∀ l, ¬ Means (.int longNumber) l := nofun
  have hdefect : Failure.ofRefusal (.unsupportedLanguage (.int longNumber)) =
      .defect .numberTooLong := by
    simp [Failure.ofRefusal, Refusal.shown?, hlong]
  have hrefused : selectFrom (.list ([] ++ [.int longNumber])) =
      .error (.ofRefusal (.unsupportedLanguage (.int longNumber))) :=
    selectFrom_refused (by simp) hnone
  exact ⟨hnone, hdefect ▸ hrefused, rfl⟩

end SetupScript.Language
