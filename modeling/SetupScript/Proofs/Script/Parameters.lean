import SetupScript.Proofs.Text.Pieces
import SetupScript.Script.Escape

/-!
# Entries as parameters

An entry of a script is a line of parameters with semicolons between them, each of them a key, a
colon and a value. A value in quotes ends at the first quote that is not doubled, and only a
semicolon outside of quotes ends a parameter (`parameters?`). So an entry whose quoted values are
written with their quotes doubled is read back, whatever these values hold
(`parameters?_entryText`).
-/

namespace SetupScript.Script

open Text

/-! ## Reading -/

/-- Puts characters before the first of some pieces. -/
def glue (cs : List Char) : List (List Char) → List (List Char)
  | [] => [cs]
  | w :: ws => (cs ++ w) :: ws

/-- Cuts at the semicolons outside of quotes; the mark says whether a quote is open. -/
def splitOutside : Bool → List Char → List (List Char)
  | _, [] => [[]]
  | isOpen, c :: cs =>
    if c == ';' && !isOpen then [] :: splitOutside isOpen cs
    else glue [c] (splitOutside (isOpen != (c == '"')) cs)

/-- The value of a quoted text behind its opening quote, with one quote for a doubled one, and what
follows its closing quote. -/
def readQuoted : List Char → Option (List Char × List Char)
  | [] => none
  | '"' :: '"' :: cs => (readQuoted cs).map fun r => ('"' :: r.1, r.2)
  | '"' :: cs => some ([], cs)
  | c :: cs => (readQuoted cs).map fun r => (c :: r.1, r.2)

/-- Nothing but blanks may follow a value in quotes. -/
def readValue : List Char → Option (List Char)
  | '"' :: cs =>
    match readQuoted cs with
    | some (value, rest) => if rest.all isBlank then some value else none
    | none => none
  | cs => some cs

def readParameter (cs : List Char) : Option (String × String) :=
  match cutFirst (· == ':') cs with
  | (key, some value) =>
    (readValue (trim isBlank value)).map fun v =>
      (String.ofList (trim isBlank key), String.ofList v)
  | (_, none) => none

/-- The keys of an entry with their values. -/
def parameters? (line : String) : Option (List (String × String)) :=
  (splitOutside false line.toList).mapM readParameter

/-! ## Writing -/

/-- A value in quotes, with its own quotes doubled. -/
def quotedValue (s : String) : String :=
  String.ofList ('"' :: s.toList.flatMap doubleQuote ++ ['"'])

inductive Parameter where
  | quoted (key value : String)
  | plain (key value : String)

namespace Parameter

def pair : Parameter → String × String
  | quoted key value => (key, value)
  | plain key value => (key, value)

def text : Parameter → String
  | quoted key value => key ++ ": " ++ quotedValue value
  | plain key value => key ++ ": " ++ value

/-- What stands outside of quotes, where it would be taken for a sign or cut off. -/
def IsBare (s : String) : Prop := ∀ c ∈ s.toList, c ≠ ';' ∧ c ≠ '"'

-- by the characters of the text, not by all characters that there are
instance (s : String) : Decidable (IsBare s) := List.decidableBAll (fun c => c ≠ ';' ∧ c ≠ '"') _

def IsKey (key : String) : Prop := ∀ c ∈ key.toList, c.isAlpha = true

instance (key : String) : Decidable (IsKey key) :=
  List.decidableBAll (fun c : Char => c.isAlpha = true) key.toList

/-- A key is a word of letters; a value without quotes holds no sign and no blank at its ends. -/
def WellFormed : Parameter → Prop
  | quoted key _ => IsKey key
  | plain key value => IsKey key ∧ IsBare value ∧ strip value = value

instance : (p : Parameter) → Decidable p.WellFormed
  | quoted key _ => inferInstanceAs (Decidable (IsKey key))
  | plain _ _ => inferInstanceAs (Decidable (_ ∧ _ ∧ _))

end Parameter

def entryText (ps : List Parameter) : String := "; ".intercalate (ps.map Parameter.text)

/-! ## Cutting into parameters -/

section Cutting

variable {cs xs ys : List Char} {ws : List (List Char)} {before after : Bool}

theorem glue_glue : glue xs (glue ys ws) = glue (xs ++ ys) ws := by
  cases ws with
  | nil => rfl
  | cons w ws => simp [glue]

/-- Characters with no semicolon outside of quotes, and whether a quote is open after them. -/
inductive Passes : Bool → List Char → Bool → Prop
  | nil {isOpen : Bool} : Passes isOpen [] isOpen
  | cons {isOpen after : Bool} {c : Char} {cs : List Char} (hc : c = ';' → isOpen = true)
      (h : Passes (isOpen != (c == '"')) cs after) : Passes isOpen (c :: cs) after

theorem Passes.append {middle : Bool} (h : Passes before xs middle) (h' : Passes middle ys after) :
    Passes before (xs ++ ys) after := by
  induction h with
  | nil => exact h'
  | cons hc _ ih => exact .cons hc (ih h')

theorem splitOutside_ne_nil (isOpen : Bool) : ∀ cs : List Char, splitOutside isOpen cs ≠ []
  | [] => by simp [splitOutside]
  | c :: cs => by
    unfold splitOutside
    split
    · simp
    · cases splitOutside (isOpen != (c == '"')) cs <;> simp [glue]

theorem Passes.splitOutside_append (h : Passes before xs after) :
    splitOutside before (xs ++ ys) = glue xs (splitOutside after ys) := by
  induction h with
  | @nil isOpen =>
    obtain ⟨w, ws, hws⟩ := List.exists_cons_of_ne_nil (splitOutside_ne_nil isOpen ys)
    rw [List.nil_append, hws, glue, List.nil_append]
  | @cons isOpen after c cs hc _ ih =>
    have hcut : ¬ (c == ';' && !isOpen) = true := by
      rw [Bool.and_eq_true, beq_iff_eq, Bool.not_eq_true', not_and]
      intro hsemicolon hclosed
      rw [hc hsemicolon] at hclosed
      contradiction
    rw [List.cons_append, splitOutside, if_neg hcut, ih, glue_glue]
    rfl

theorem passes_of_bare : ∀ {cs : List Char}, (∀ c ∈ cs, c ≠ ';' ∧ c ≠ '"') → Passes false cs false
  | [], _ => .nil
  | c :: cs, h => by
    obtain ⟨hc, hcs⟩ := List.forall_mem_cons.1 h
    refine .cons (fun hsemicolon => absurd hsemicolon hc.1) ?_
    rw [beq_eq_false_iff_ne.2 hc.2]
    exact passes_of_bare hcs

/-- A doubled quote closes and opens again. -/
theorem passes_doubled : ∀ cs : List Char, Passes true (cs.flatMap doubleQuote) true
  | [] => .nil
  | c :: cs => by
    rw [List.flatMap_cons]
    refine Passes.append ?_ (passes_doubled cs)
    unfold doubleQuote
    split_ifs with hc
    · exact .cons (fun _ => rfl) (.cons (fun h => absurd h (by decide)) .nil)
    · refine .cons (fun _ => rfl) ?_
      rw [Bool.not_eq_true _ |>.mp hc]
      exact .nil

theorem passes_quotedValue (s : String) : Passes false (quotedValue s).toList false := by
  rw [quotedValue, String.toList_ofList, List.cons_append]
  refine .cons (fun h => absurd h (by decide)) ((passes_doubled s.toList).append ?_)
  exact .cons (fun h => absurd h (by decide)) .nil

end Cutting

/-! ## Reading one parameter -/

theorem ne_of_isAlpha {c d : Char} (hc : c.isAlpha = true) (hd : d.isAlpha = false) : c ≠ d := by
  rintro rfl
  rw [hc] at hd
  contradiction

theorem isBlank_of_isAlpha {c : Char} (hc : c.isAlpha = true) : isBlank c = false := by
  have hletter : (65 ≤ c.toNat ∧ c.toNat ≤ 90) ∨ (97 ≤ c.toNat ∧ c.toNat ≤ 122) := by
    have hcase : (decide (65 ≤ c.val ∧ c.val ≤ 90) ||
        decide (97 ≤ c.val) && decide (c.val ≤ 122)) = true := hc
    simpa [UInt32.le_iff_toNat_le] using hcase
  simp only [isBlank, Bool.or_eq_false_iff, Bool.and_eq_false_iff, decide_eq_false_iff_not,
    beq_eq_false_iff_ne]
  omega

theorem readQuoted_cons {c : Char} (hc : c ≠ '"') (cs : List Char) :
    readQuoted (c :: cs) = (readQuoted cs).map fun r => (c :: r.1, r.2) :=
  readQuoted.eq_4 c cs (fun _ h _ => hc h) hc

theorem readQuoted_doubled : ∀ cs : List Char,
    readQuoted (cs.flatMap doubleQuote ++ ['"']) = some (cs, [])
  | [] => rfl
  | c :: cs => by
    rw [List.flatMap_cons, List.append_assoc]
    by_cases hc : c = '"'
    · subst hc
      change readQuoted ('"' :: '"' :: (cs.flatMap doubleQuote ++ ['"'])) = _
      rw [readQuoted, readQuoted_doubled cs]
      rfl
    · have hsingle : doubleQuote c = [c] := by simp [doubleQuote, hc]
      rw [hsingle, List.singleton_append, readQuoted_cons hc, readQuoted_doubled cs]
      rfl

theorem readValue_quotedValue (s : String) : readValue (quotedValue s).toList = some s.toList := by
  rw [quotedValue, String.toList_ofList, List.cons_append, readValue, readQuoted_doubled]
  rfl

/-- Nothing is cut off a text whose ends are not blank. -/
theorem trim_eq_self {c d : Char} {cs : List Char} (hc : isBlank c = false)
    (hd : isBlank d = false) : trim isBlank (c :: cs ++ [d]) = c :: cs ++ [d] := by
  rw [trim, List.cons_append, List.dropWhile_cons_of_neg (by simp [hc]), ← List.cons_append,
    trimRight_append_cons hd]
  rfl

theorem trim_quotedValue (s : String) :
    trim isBlank (quotedValue s).toList = (quotedValue s).toList := by
  rw [quotedValue, String.toList_ofList]
  exact trim_eq_self (by decide) (by decide)

theorem trim_blank (cs : List Char) : trim isBlank (' ' :: cs) = trim isBlank cs := by
  rw [trim, List.dropWhile_cons_of_pos (by decide), trim]

theorem dropWhile_eq_self {p : Char → Bool} {cs : List Char} (h : ∀ c ∈ cs, p c = false) :
    cs.dropWhile p = cs := by
  cases cs with
  | nil => rfl
  | cons c cs => exact List.dropWhile_cons_of_neg (by simp [h c List.mem_cons_self])

theorem trim_of_forall {p : Char → Bool} {cs : List Char} (h : ∀ c ∈ cs, p c = false) :
    trim p cs = cs := by
  rw [trim, dropWhile_eq_self h, trimRight,
    dropWhile_eq_self fun c hc => h c (List.mem_reverse.1 hc), List.reverse_reverse]

/-- Blanks before a parameter do not count. -/
theorem readParameter_blank (cs : List Char) : readParameter (' ' :: cs) = readParameter cs := by
  have hcut : cutFirst (· == ':') (' ' :: cs) =
      (' ' :: (cutFirst (· == ':') cs).1, (cutFirst (· == ':') cs).2) := rfl
  unfold readParameter
  rw [hcut]
  cases hrest : cutFirst (· == ':') cs with
  | mk key value =>
    cases value with
    | none => rfl
    | some value => simp only [trim_blank]

section Parameters

variable {key : String} {p : Parameter}

theorem readParameter_of_key (hkey : Parameter.IsKey key) (value : List Char) :
    readParameter (key.toList ++ ':' :: value) =
      (readValue (trim isBlank value)).map fun v => (key, String.ofList v) := by
  have hcolon : ∀ c ∈ key.toList, (c == ':') = false :=
    fun c hc => beq_eq_false_iff_ne.2 (ne_of_isAlpha (hkey c hc) (by decide))
  have hblank : ∀ c ∈ key.toList, isBlank c = false := fun c hc => isBlank_of_isAlpha (hkey c hc)
  unfold readParameter
  rw [cutFirst_append_cons (by rfl) value hcolon]
  simp only [trim_of_forall hblank, String.ofList_toList]

theorem readParameter_text (h : p.WellFormed) : readParameter p.text.toList = some p.pair := by
  cases p with
  | quoted key value =>
    have htext : (Parameter.quoted key value).text.toList =
        key.toList ++ ':' :: ' ' :: (quotedValue value).toList := by
      simp [Parameter.text]
    rw [htext, readParameter_of_key h, trim_blank, trim_quotedValue, readValue_quotedValue]
    simp [Parameter.pair]
  | plain key value =>
    obtain ⟨hkey, hbare, hstrip⟩ := h
    have htext : (Parameter.plain key value).text.toList =
        key.toList ++ ':' :: ' ' :: value.toList := by
      simp [Parameter.text]
    have htrim : trim isBlank value.toList = value.toList := by
      rw [← String.toList_ofList (l := trim isBlank value.toList)]
      exact congrArg String.toList hstrip
    have hread : readValue value.toList = some value.toList := by
      cases hcs : value.toList with
      | nil => rfl
      | cons c cs =>
        have hc : c ≠ '"' := (hbare c (hcs ▸ List.mem_cons_self)).2
        unfold readValue
        split
        · exact absurd (List.cons.inj ‹_›).1 hc
        · rfl
    rw [htext, readParameter_of_key hkey, trim_blank, htrim, hread]
    simp [Parameter.pair]

theorem passes_key (hkey : Parameter.IsKey key) : Passes false (key ++ ": ").toList false := by
  refine passes_of_bare fun c hc => ?_
  rw [String.toList_append, List.mem_append] at hc
  rcases hc with hc | hc
  · exact ⟨ne_of_isAlpha (hkey c hc) (by decide), ne_of_isAlpha (hkey c hc) (by decide)⟩
  · have hbare : Parameter.IsBare ": " := by decide
    exact hbare c hc

theorem passes_text (h : p.WellFormed) : Passes false p.text.toList false := by
  cases p with
  | quoted key value =>
    rw [Parameter.text, String.toList_append]
    exact (passes_key h).append (passes_quotedValue value)
  | plain key value =>
    rw [Parameter.text, String.toList_append]
    exact (passes_key h.1).append (passes_of_bare h.2.1)

end Parameters

/-! ## Reading an entry -/

theorem mapM_readParameter_glue {ws : List (List Char)} (h : ws ≠ []) :
    (glue [' '] ws).mapM readParameter = ws.mapM readParameter := by
  obtain ⟨w, ws, rfl⟩ := List.exists_cons_of_ne_nil h
  rw [glue, List.singleton_append, List.mapM_cons, List.mapM_cons, readParameter_blank]

/-- An entry is read back, whatever its quoted values hold. -/
theorem parameters?_entryText : ∀ {ps : List Parameter}, ps ≠ [] → (∀ p ∈ ps, p.WellFormed) →
    parameters? (entryText ps) = some (ps.map Parameter.pair)
  | [p], _, h => by
    have hp := h p List.mem_cons_self
    have hcut : splitOutside false (p.text.toList ++ []) = _ :=
      (passes_text hp).splitOutside_append
    rw [List.append_nil] at hcut
    rw [parameters?, entryText, List.map_singleton, String.intercalate_singleton, hcut]
    simp [splitOutside, glue, readParameter_text hp]
  | p :: q :: ps, _, h => by
    obtain ⟨hp, hps⟩ := List.forall_mem_cons.1 h
    have ih : (splitOutside false (entryText (q :: ps)).toList).mapM readParameter =
        some ((q :: ps).map Parameter.pair) :=
      parameters?_entryText (List.cons_ne_nil q ps) hps
    have htext : (entryText (p :: q :: ps)).toList =
        p.text.toList ++ ';' :: ' ' :: (entryText (q :: ps)).toList := by
      simp [entryText, String.intercalate_cons_cons]
    have hcut : splitOutside false (entryText (p :: q :: ps)).toList =
        p.text.toList :: glue [' '] (splitOutside false (entryText (q :: ps)).toList) := by
      rw [htext, (passes_text hp).splitOutside_append]
      simp [splitOutside, glue]
    rw [parameters?, hcut, List.mapM_cons, readParameter_text hp,
      mapM_readParameter_glue (splitOutside_ne_nil _ _), ih]
    rfl

end SetupScript.Script
