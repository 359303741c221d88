import Mathlib.Tactic.ByContra
import SetupScript.Proofs.Configuration.Resolved

/-!
# Checked sign tools

Checking an option and making a tool of it read the option's entries each in their own way.
`check_eq_ok_iff` says which options pass: those without a `Fault`. By `parts_eq_ok` the parts that
are put together from such an option are texts and numbers, and the tool that they make holds
overrides, entries and defaults in this order (`MadeFrom`).
-/

namespace SetupScript.SignTool

/-- The entry of an option under a key; a text alone is the command. -/
def valueAt? (option : Value) (key : String) : Option Value :=
  match option with
  | .scalar (.text s) => if key = "command" then some (.text s) else none
  | v => v.fields?.bind (·.field? key)

/-- The name that an option and the command line give; only a mapping has none by default. -/
def givenName (option : Value) (o : SignToolOverrides) : String :=
  o.name.getD <| match valueAt? option "name" with
    | some v => v.text?.getD ""
    | none => if option.fields?.isSome then "" else defaultName

def givenCommand (option : Value) (o : SignToolOverrides) : String :=
  o.command.getD (((valueAt? option "command").bind Value.text?).getD "")

/-- What can be wrong with an option. -/
inductive Fault (option : Value) (o : SignToolOverrides) : Prop
  | shape (hnull : option ≠ .null) (htext : ∀ s, option ≠ .text s) (hfields : option.fields? = none)
  | text {key : String} {v : Value} (hkey : key ∈ ["name", "command", "params"])
      (hvalue : valueAt? option key = some v) (hnull : v ≠ .null) (htext : ∀ s, v ≠ .text s)
  | number {key : String} {v : Value} (hkey : key ∈ ["retry_count", "retry_delay"])
      (hvalue : valueAt? option key = some v) (hnat : ∀ n : Nat, v ≠ .int n)
  | nameless (hname : givenName option o = "") (hcommand : givenCommand option o = "")

/-- Where a text of a tool comes from. -/
inductive TextFrom (override : Option String) (entry : Option Value) (default s : String) : Prop
  | override (h : override = some s)
  | entry (h : override = none) (hvalue : entry = some (.text s)) (hs : s ≠ "")
  | default (h : override = none)
      (hvalue : entry = none ∨ entry = some .null ∨ entry = some (.text "")) (hs : s = default)

/-- Where a number of a tool comes from. -/
inductive NumberFrom (entry : Option Value) (default n : Int) : Prop
  | entry (h : entry = some (.int n))
  | default (h : entry = none) (hn : n = default)

structure MadeFrom (option : Value) (o : SignToolOverrides) (t : SignTool) : Prop where
  name : TextFrom o.name (valueAt? option "name") defaultName t.name
  command : TextFrom o.command (valueAt? option "command") "" t.command
  params : TextFrom o.params (valueAt? option "params") "" t.params
  named : t.name ≠ "" ∨ t.command ≠ ""
  retryCount : NumberFrom (valueAt? option "retry_count") defaultRetryCount t.retryCount
  retryCount_nonneg : 0 ≤ t.retryCount
  retryDelay : NumberFrom (valueAt? option "retry_delay") defaultRetryDelay t.retryDelay
  retryDelay_nonneg : 0 ≤ t.retryDelay

def toParts (t : SignTool) : SignToolParts :=
  ⟨.text t.name, .text t.command, .text t.params, .int t.retryCount, .int t.retryDelay⟩

theorem ofParts?_toParts (t : SignTool) : ofParts? t.toParts = some t := rfl

variable {option : Value} {o : SignToolOverrides} {fs : Fields} {key : String}

/-! ## Options without fault -/

theorem fieldsOf?_eq_none : fieldsOf? option = none ↔
    option ≠ .null ∧ (∀ s, option ≠ .text s) ∧ option.fields? = none := by
  unfold fieldsOf?
  split
  · simp
  · simp
  · rename_i hnull htext
    exact ⟨fun h => ⟨hnull, htext, h⟩, fun h => h.2.2⟩

theorem valueAt?_eq (h : fieldsOf? option = some fs) (key : String) :
    valueAt? option key = fs.field? key := by
  unfold fieldsOf? at h
  split at h
  · obtain rfl := Option.some.inj h
    rfl
  · obtain rfl := Option.some.inj h
    by_cases hkey : key = "command"
    · simp [valueAt?, Fields.field?, hkey]
    · simp [valueAt?, Fields.field?, hkey, Ne.symm hkey]
  · rename_i htext
    unfold valueAt?
    split
    · exact absurd rfl (htext _)
    · rw [h]
      rfl

theorem checkText_eq_ok : checkText fs key = .ok () ↔
    ∀ v, fs.field? key = some v → v = .null ∨ ∃ s, v = .text s := by
  unfold checkText Fields.field
  cases fs.field? key with
  | none => simp
  | some v =>
    simp only [Option.getD_some, Option.some.injEq, forall_eq']
    split
    · simp
    · simp
    · rename_i hnull htext
      exact iff_of_false (by simp) fun h => h.elim hnull fun ⟨s, hs⟩ => htext s hs

theorem checkNumber_eq_ok : checkNumber fs key = .ok () ↔
    ∀ v, fs.field? key = some v → ∃ n : Nat, v = .int n := by
  unfold checkNumber
  cases fs.field? key with
  | none => simp
  | some v =>
    simp only [Option.some.injEq, forall_eq']
    unfold naturalOf
    split
    · rename_i n
      by_cases hn : n < 0
      · rw [if_pos hn]
        refine iff_of_false (by simp [Except.map]) ?_
        rintro ⟨m, hm⟩
        simp only [Value.scalar.injEq, Scalar.int.injEq] at hm
        omega
      · rw [if_neg hn]
        exact iff_of_true rfl ⟨n.toNat, by rw [Int.toNat_of_nonneg (by omega)]⟩
    · rename_i hint
      exact iff_of_false (by simp [Except.map]) fun ⟨n, hn⟩ => hint n hn

theorem given_getD (override entry : Option String) :
    given (override <|> entry) = true ↔ override.getD (entry.getD "") ≠ "" := by
  cases override with
  | none => cases entry <;> simp [given]
  | some s => simp [given]

theorem namesSomething_iff (h : fieldsOf? option = some fs) :
    namesSomething option fs o = true ↔ givenName option o ≠ "" ∨ givenCommand option o ≠ "" := by
  rw [namesSomething, Bool.or_eq_true, given_getD]
  refine or_congr ?_ ?_
  · rw [givenName, valueAt?_eq h]
    cases o.name with
    | some s => simp [given]
    | none =>
      cases fs.field? "name" with
      | some v => cases hv : v.text? <;> simp [given, hv]
      | none => cases option.fields?.isSome <;> simp [given]
  · rw [givenCommand, valueAt?_eq h, Fields.field]
    cases fs.field? "command" <;> rfl

theorem isNull_and_isEmpty :
    (option.isNull && o.isEmpty) = true ↔ option = .null ∧ o = .none := by
  have hempty : o.isEmpty = true ↔ o = .none := by
    obtain ⟨name, command, params⟩ := o
    cases name <;> cases command <;> cases params <;>
      simp [SignToolOverrides.isEmpty, SignToolOverrides.none]
  rw [Bool.and_eq_true, Value.isNull_iff, hempty]

/-- Where nothing asks for a tool there are no fields, and the default names one. -/
theorem check_eq_ok : check option o = .ok () ↔ ∃ fs, fieldsOf? option = some fs ∧
    (∀ key ∈ ["name", "command", "params"], checkText fs key = .ok ()) ∧
    (∀ key ∈ ["retry_count", "retry_delay"], checkNumber fs key = .ok ()) ∧
    namesSomething option fs o = true := by
  unfold check
  cases h : option.isNull && o.isEmpty with
  | true =>
    obtain ⟨rfl, rfl⟩ := isNull_and_isEmpty.1 h
    exact iff_of_true rfl ⟨[], rfl, by simp [checkText, Fields.field, Fields.field?],
      by simp [checkNumber, Fields.field?], rfl⟩
  | false =>
    cases fieldsOf? option with
    | none => simp
    | some fs => simp [unit_bind_eq_ok, and_assoc]

/-- Checking passes exactly the options without fault. -/
theorem check_eq_ok_iff : check option o = .ok () ↔ ¬ Fault option o := by
  rw [check_eq_ok]
  constructor
  · rintro ⟨fs, hfs, htexts, hnumbers, hnames⟩ fault
    cases fault with
    | shape hnull htext hfields =>
      rw [fieldsOf?_eq_none.2 ⟨hnull, htext, hfields⟩] at hfs
      contradiction
    | text hkey hvalue hnull htext =>
      rw [valueAt?_eq hfs] at hvalue
      rcases checkText_eq_ok.1 (htexts _ hkey) _ hvalue with h | ⟨s, h⟩
      · exact hnull h
      · exact htext s h
    | number hkey hvalue hnat =>
      rw [valueAt?_eq hfs] at hvalue
      obtain ⟨n, h⟩ := checkNumber_eq_ok.1 (hnumbers _ hkey) _ hvalue
      exact hnat n h
    | nameless hname hcommand =>
      rcases (namesSomething_iff hfs).1 hnames with h | h
      · exact h hname
      · exact h hcommand
  · intro h
    cases hfs : fieldsOf? option with
    | none =>
      obtain ⟨hnull, htext, hfields⟩ := fieldsOf?_eq_none.1 hfs
      exact absurd (.shape hnull htext hfields) h
    | some fs =>
      refine ⟨fs, rfl, fun key hkey => checkText_eq_ok.2 fun v hv => ?_,
        fun key hkey => checkNumber_eq_ok.2 fun v hv => ?_, (namesSomething_iff hfs).2 ?_⟩
      · rw [← valueAt?_eq hfs] at hv
        by_contra hne
        rw [not_or, not_exists] at hne
        exact h (.text hkey hv hne.1 hne.2)
      · rw [← valueAt?_eq hfs] at hv
        by_contra hne
        exact h (.number hkey hv (not_exists.1 hne))
      · by_contra hne
        rw [not_or, not_not, not_not] at hne
        exact h (.nameless hne.1 hne.2)

/-! ## Parts of a checked option -/

/-- A checked entry gives a text, and is replaced where it is no text with characters. -/
theorem textOr_eq (override : Option String) (default : String)
    (h : checkText fs key = .ok ()) : ∃ s, textOr override fs key default = .text s ∧
      TextFrom override (fs.field? key) default s := by
  unfold textOr
  cases override with
  | some s => exact ⟨s, rfl, .override rfl⟩
  | none =>
    have hvalue := checkText_eq_ok.1 h
    unfold Fields.field
    cases hv : fs.field? key with
    | none => exact ⟨default, rfl, .default rfl (.inl rfl) rfl⟩
    | some v =>
      rcases hvalue v hv with rfl | ⟨s, rfl⟩
      · exact ⟨default, rfl, .default rfl (.inr (.inl rfl)) rfl⟩
      · by_cases hs : s = ""
        · subst hs
          exact ⟨default, rfl, .default rfl (.inr (.inr rfl)) rfl⟩
        · have hsome : (Value.text s).isNothing = false := by
            simpa [Value.isNothing, Value.outermost, Scalar.isNothing] using hs
          exact ⟨s, by simp [hsome], .entry rfl rfl hs⟩

theorem numberOr_eq (default : Int) (hdefault : 0 ≤ default) (h : checkNumber fs key = .ok ()) :
    ∃ n : Int, numberOr fs key default = .int n ∧ 0 ≤ n ∧
      NumberFrom (fs.field? key) default n := by
  unfold numberOr
  cases hv : fs.field? key with
  | none => exact ⟨default, rfl, hdefault, .default rfl rfl⟩
  | some v =>
    obtain ⟨n, rfl⟩ := checkNumber_eq_ok.1 h v hv
    exact ⟨n, rfl, Int.natCast_nonneg n, .entry rfl⟩

theorem name_or_command_ne_empty {name command : String}
    (hname : TextFrom o.name (valueAt? option "name") defaultName name)
    (hcommand : TextFrom o.command (valueAt? option "command") "" command)
    (h : givenName option o ≠ "" ∨ givenCommand option o ≠ "") : name ≠ "" ∨ command ≠ "" := by
  cases hname with
  | entry _ _ hs => exact .inl hs
  | default _ _ hs => exact .inl (by rw [hs]; decide)
  | override hover =>
    rcases h with h | h
    · exact .inl (by simpa [givenName, hover] using h)
    · refine .inr ?_
      cases hcommand with
      | override hcover => simpa [givenCommand, hcover] using h
      | entry _ _ hs => exact hs
      | default hcover hvalue _ =>
        rcases hvalue with hvalue | hvalue | hvalue <;>
          exact absurd (by simp [givenCommand, hcover, hvalue, Value.text?]) h

/-- The parts of a checked option are those of a tool, unless nothing asks for one. -/
theorem parts_eq_ok (h : check option o = .ok ()) : ∃ r : Option SignTool,
    parts option o = .ok (r.map toParts) ∧ (r = none ↔ option = .null ∧ o = .none) ∧
      ∀ t, r = some t → MadeFrom option o t := by
  obtain ⟨fs, hfs, htexts, hnumbers, hnames⟩ := check_eq_ok.1 h
  unfold parts
  cases hnone : option.isNull && o.isEmpty with
  | true => exact ⟨none, rfl, iff_of_true rfl (isNull_and_isEmpty.1 hnone), by simp⟩
  | false =>
    obtain ⟨name, hname, fname⟩ := textOr_eq o.name defaultName (htexts "name" (by decide))
    obtain ⟨command, hcommand, fcommand⟩ := textOr_eq o.command "" (htexts "command" (by decide))
    obtain ⟨params, hparams, fparams⟩ := textOr_eq o.params "" (htexts "params" (by decide))
    obtain ⟨count, hcount, count_nonneg, fcount⟩ := numberOr_eq defaultRetryCount (by decide)
      (hnumbers "retry_count" (by decide))
    obtain ⟨delay, hdelay, delay_nonneg, fdelay⟩ := numberOr_eq defaultRetryDelay (by decide)
      (hnumbers "retry_delay" (by decide))
    rw [← valueAt?_eq hfs] at fname fcommand fparams fcount fdelay
    refine ⟨some ⟨name, command, params, count, delay⟩, ?_, ?_, ?_⟩
    · simp only [hfs, hname, hcommand, hparams, hcount, hdelay]
      rfl
    · refine iff_of_false (by simp) fun hnull => ?_
      rw [isNull_and_isEmpty.2 hnull] at hnone
      contradiction
    · rintro t ⟨⟩
      exact ⟨fname, fcommand, fparams,
        name_or_command_ne_empty fname fcommand ((namesSomething_iff hfs).1 hnames), fcount,
        count_nonneg, fdelay, delay_nonneg⟩

/-- From an option that passes the check a tool is made, or none where nothing asks for it, and the
check refuses just the options with a fault. -/
theorem check_parts_build (option : Value) (o : SignToolOverrides) :
    (check option o = .ok () → ∃ r : Option SignTool, parts option o = .ok (r.map toParts) ∧
      build option o = r ∧ (r = none ↔ option = .null ∧ o = .none) ∧
      ∀ t, r = some t → MadeFrom option o t) ∧
    ((∃ r, check option o = .error r) ↔ Fault option o) := by
  constructor
  · intro h
    obtain ⟨r, hparts, hnone, hmade⟩ := parts_eq_ok h
    refine ⟨r, hparts, ?_, hnone, hmade⟩
    rw [build, hparts]
    cases r with
    | none => rfl
    | some t => exact ofParts?_toParts t
  · rw [← not_iff_not, ← check_eq_ok_iff]
    cases check option o with
    | error r => simp
    | ok _ => simp

/-- Empty overrides stand although the option has a name, and the retries are its own. -/
theorem check_parts_build_overridden :
    let option := Value.map [(.text "name", .text "tool"), (.text "command", .text "sign"),
      (.text "params", .null), (.text "retry_count", .int 0)]
    let o : SignToolOverrides := ⟨some "", .none, .none⟩
    check option o = .ok () ∧ ∃ r : Option SignTool, parts option o = .ok (r.map toParts) ∧
      build option o = r ∧ (r = none ↔ option = .null ∧ o = .none) ∧
      (∀ t, r = some t → MadeFrom option o t) ∧ r = some ⟨"", "sign", "", 0, 500⟩ := by
  intro option o
  have hcheck : check option o = .ok () := rfl
  obtain ⟨r, hparts, hbuild, hnone, hmade⟩ := (check_parts_build option o).1 hcheck
  exact ⟨hcheck, r, hparts, hbuild, hnone, hmade, hbuild.symm.trans rfl⟩

end SetupScript.SignTool
