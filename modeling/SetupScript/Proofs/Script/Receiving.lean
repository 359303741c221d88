import Mathlib.Data.List.Chain
import SetupScript.Proofs.Script.Launching

/-!
# Arguments as the program receives them

A program cuts its command line into arguments itself. A quote opens or closes, unless a backslash
before it makes it stand for itself, and blanks separate arguments only where no quote is open
(`readArguments`). A script writes no backslash of its own, so arguments are received as they are
written exactly where none of them holds a quote and none ends in a backslash before the quote that
closes it (`received?_quotedArguments_iff`).
-/

namespace SetupScript.Script

open Text

/-! ## Reading a command line -/

/-- A quote that opens or closes, or a character that stands for itself. -/
inductive Sign where
  | quote
  | char (c : Char)
deriving DecidableEq

/-- Settles what the characters behind `n` backslashes are. Before a quote two backslashes are one,
and one that is left over makes the quote stand for itself; elsewhere backslashes are characters
like others. -/
def signs : Nat → List Char → List Sign
  | n, [] => List.replicate n (.char '\\')
  | n, c :: cs =>
    if c = '\\' then signs (n + 1) cs
    else if c = '"' then
      List.replicate (n / 2) (.char '\\') ++
        (if n % 2 = 1 then .char '"' else .quote) :: signs 0 cs
    else List.replicate n (.char '\\') ++ .char c :: signs 0 cs

def separates (c : Char) : Bool := c == ' ' || c == '\t'

/-- What the signs add to an argument before them, if anything, and the arguments after it. The
mark says whether a quote is open. -/
def arguments : Bool → List Sign → Option (List Char) × List (List Char)
  | _, [] => (none, [])
  | isOpen, .quote :: xs =>
    let r := arguments (!isOpen) xs
    (some (r.1.getD []), r.2)
  | isOpen, .char c :: xs =>
    let r := arguments isOpen xs
    if !isOpen && separates c then (none, r.1.toList ++ r.2) else (some (c :: r.1.getD []), r.2)

def readArguments (cs : List Char) : List (List Char) :=
  let r := arguments false (signs 0 cs)
  r.1.toList ++ r.2

/-- The arguments of a program that is started with a value in quotes. -/
def received? (value : String) : Option (List String) :=
  (readValue value.toList).map fun cs => (readArguments cs).map String.ofList

/-! ## Quotes behind backslashes -/

/-- No quote stands right behind a backslash. -/
def Parted (cs : List Char) : Prop := cs.IsChain fun c d => c = '\\' → d ≠ '"'

def plainSign (c : Char) : Sign := if c = '"' then .quote else .char c

theorem plainSign_of_ne {c : Char} (h : c ≠ '"') : plainSign c = .char c := if_neg h

theorem quote_notMem_map_plainSign (cs : List Char) : Sign.char '"' ∉ cs.map plainSign := by
  rw [List.mem_map]
  rintro ⟨c, -, hc⟩
  rw [plainSign] at hc
  split_ifs at hc with hquote
  exact hquote (Sign.char.inj hc)

theorem parted_of_notMem {cs : List Char} (h : '"' ∉ cs) : Parted cs :=
  List.isChain_iff_forall_rel_of_append_cons_cons.2 fun c d before after hcs _ hd =>
    h (by simp [hcs, hd])

theorem replicate_append_cons (n : Nat) (cs : List Char) :
    List.replicate n '\\' ++ '\\' :: cs = List.replicate (n + 1) '\\' ++ cs := by
  rw [List.replicate_succ', List.append_assoc, List.singleton_append]

section Signs

variable (n : Nat) (cs : List Char)

theorem signs_slash : signs n ('\\' :: cs) = signs (n + 1) cs := by
  rw [signs, if_pos rfl]

theorem signs_quote : signs n ('"' :: cs) = List.replicate (n / 2) (.char '\\') ++
    (if n % 2 = 1 then .char '"' else .quote) :: signs 0 cs := by
  rw [signs, if_neg (by decide), if_pos rfl]

theorem signs_of_ne {c : Char} (hslash : c ≠ '\\') (hquote : c ≠ '"') :
    signs n (c :: cs) = List.replicate n (.char '\\') ++ .char c :: signs 0 cs := by
  rw [signs, if_neg hslash, if_neg hquote]

end Signs

/-- Where no quote stands behind a backslash, every quote opens or closes. -/
theorem signs_of_parted : ∀ {n : Nat} {cs : List Char}, Parted (List.replicate n '\\' ++ cs) →
    signs n cs = (List.replicate n '\\' ++ cs).map plainSign
  | n, [], _ => by simp [signs, plainSign]
  | n, c :: cs, h => by
    have ih : signs 0 cs = cs.map plainSign :=
      signs_of_parted (n := 0) (List.IsChain.right_of_append h).tail
    rcases eq_or_ne c '\\' with rfl | hslash
    · rw [replicate_append_cons] at h ⊢
      rw [signs_slash, signs_of_parted h]
    rcases eq_or_ne c '"' with rfl | hquote
    · cases n with
      | zero => simp [signs_quote, ih, plainSign]
      | succ n =>
        rw [← replicate_append_cons] at h
        exact absurd rfl ((List.isChain_append_cons_cons.1 h).2.1 rfl)
    · rw [signs_of_ne _ _ hslash hquote, ih, List.map_append, List.map_replicate, List.map_cons,
        plainSign_of_ne hquote, plainSign_of_ne (by decide)]

theorem readArguments_of_parted {cs : List Char} (h : Parted cs) :
    readArguments cs =
      (arguments false (cs.map plainSign)).1.toList ++ (arguments false (cs.map plainSign)).2 := by
  have hsigns : signs 0 cs = cs.map plainSign := signs_of_parted (n := 0) h
  rw [readArguments, hsigns]

/-- A quote takes backslashes before it away, so they are all there only where none is before a
quote. -/
theorem count_signs : ∀ (n : Nat) (cs : List Char),
    (signs n cs).count (.char '\\') ≤ n + cs.count '\\' ∧
      ((signs n cs).count (.char '\\') = n + cs.count '\\' →
        Parted (List.replicate n '\\' ++ cs))
  | n, [] => by
    refine ⟨by simp [signs], fun _ => parted_of_notMem ?_⟩
    simp [List.mem_replicate]
  | n, c :: cs => by
    obtain ⟨hle, hparted⟩ := count_signs 0 cs
    rw [Nat.zero_add] at hle hparted
    rcases eq_or_ne c '\\' with rfl | hslash
    · rw [signs_slash, replicate_append_cons, List.count_cons_self,
        Nat.add_comm (cs.count '\\') 1, ← Nat.add_assoc]
      exact count_signs (n + 1) cs
    rcases eq_or_ne c '"' with rfl | hquote
    · have hsign : (if n % 2 = 1 then Sign.char '"' else .quote) ≠ .char '\\' := by
        split_ifs <;> decide
      rw [signs_quote, List.count_append, List.count_replicate_self, List.count_cons_of_ne hsign,
        List.count_cons_of_ne (by decide)]
      refine ⟨by omega, fun h => ?_⟩
      obtain rfl : n = 0 := by omega
      refine List.isChain_cons.2 ⟨fun _ _ hc => absurd hc (by decide), hparted ?_⟩
      omega
    · have hsign : Sign.char c ≠ .char '\\' := fun h => hslash (Sign.char.inj h)
      rw [signs_of_ne _ _ hslash hquote, List.count_append, List.count_replicate_self,
        List.count_cons_of_ne hsign, List.count_cons_of_ne hslash]
      refine ⟨by omega, fun h => ?_⟩
      refine List.isChain_append.2 ⟨parted_of_notMem (by simp [List.mem_replicate]), ?_, ?_⟩
      · exact List.isChain_cons.2 ⟨fun _ _ hc => absurd hc hslash, hparted (by omega)⟩
      · rintro _ - _ ⟨⟩ -
        exact hquote

theorem parted_of_count {cs : List Char} (h : (signs 0 cs).count (.char '\\') = cs.count '\\') :
    Parted cs :=
  (count_signs 0 cs).2 (h.trans (Nat.zero_add _).symm)

/-! ## Cutting at blanks -/

theorem flatten_toList_append (w : Option (List Char)) (ws : List (List Char)) :
    (w.toList ++ ws).flatten = w.getD [] ++ ws.flatten := by
  cases w <;> rfl

/-- No character but a separator is lost when the signs are cut into arguments. -/
theorem count_arguments {c : Char} (hc : separates c = false) : ∀ (isOpen : Bool) (xs : List Sign),
    ((arguments isOpen xs).1.toList ++ (arguments isOpen xs).2).flatten.count c =
      xs.count (.char c)
  | _, [] => rfl
  | isOpen, .quote :: xs => by
    have hne : Sign.quote ≠ .char c := by simp
    rw [List.count_cons_of_ne hne, ← count_arguments hc (!isOpen) xs, flatten_toList_append,
      flatten_toList_append]
    rfl
  | isOpen, .char d :: xs => by
    have ih := count_arguments hc isOpen xs
    rw [flatten_toList_append] at ih
    rw [arguments]
    split_ifs with hcut
    · have hne : Sign.char d ≠ .char c := by
        rintro ⟨⟩
        simp [hc] at hcut
      rw [List.count_cons_of_ne hne, ← ih, flatten_toList_append, flatten_toList_append]
      rfl
    · rw [flatten_toList_append, Option.getD_some, List.cons_append]
      rcases eq_or_ne d c with rfl | hne
      · rw [List.count_cons_self, List.count_cons_self, ih]
      · rw [List.count_cons_of_ne hne, List.count_cons_of_ne (by simpa using hne), ih]

/-- Characters that are not cut go to one argument. -/
theorem arguments_chars {isOpen : Bool} {xs : List Sign} : ∀ {c : Char} {cs : List Char},
    (∀ d ∈ c :: cs, (!isOpen && separates d) = false) →
      arguments isOpen ((c :: cs).map Sign.char ++ xs) =
        (some (c :: cs ++ (arguments isOpen xs).1.getD []), (arguments isOpen xs).2)
  | c, [], h => by
    rw [List.map_singleton, List.singleton_append, arguments, if_neg (by simp [h c])]
    rfl
  | c, d :: cs, h => by
    obtain ⟨hc, hcs⟩ := List.forall_mem_cons.1 h
    rw [List.map_cons, List.cons_append, arguments, if_neg (by simp [hc]), arguments_chars hcs]
    rfl

/-! ## Words -/

theorem map_plainSign {cs : List Char} (h : '"' ∉ cs) : cs.map plainSign = cs.map Sign.char :=
  List.map_congr_left fun _ hc => plainSign_of_ne fun e => h (e ▸ hc)

theorem isBlank_of_separates {c : Char} (h : separates c = true) : isBlank c = true := by
  rw [separates, Bool.or_eq_true, beq_iff_eq, beq_iff_eq] at h
  rcases h with rfl | rfl <;> decide

/-- A word without quotes of its own is one argument, if no argument goes on behind it. -/
theorem arguments_word {a : List Char} (ha : '"' ∉ a) {xs : List Sign}
    (hxs : (arguments false xs).1 = none) :
    arguments false ((word a).map plainSign ++ xs) = (some a, (arguments false xs).2) := by
  unfold word
  split_ifs with hquoted
  · have hsigns : ('"' :: a ++ ['"']).map plainSign ++ xs =
        .quote :: (a.map Sign.char ++ .quote :: xs) := by
      simp [map_plainSign ha, plainSign]
    have hrest : arguments true (.quote :: xs) = (some [], (arguments false xs).2) := by
      rw [arguments, Bool.not_true, hxs]
      rfl
    rw [hsigns, arguments, Bool.not_false]
    cases a with
    | nil =>
      rw [List.map_nil, List.nil_append, hrest]
      rfl
    | cons c cs =>
      rw [arguments_chars (by simp), hrest]
      simp
  · simp only [Bool.or_eq_true, List.isEmpty_iff, List.any_eq_true, not_or, not_exists,
      not_and] at hquoted
    obtain ⟨c, cs, rfl⟩ := List.exists_cons_of_ne_nil hquoted.1
    have hcut : ∀ d ∈ c :: cs, (!false && separates d) = false := by
      intro d hd
      simpa using fun h => hquoted.2 d hd (isBlank_of_separates h)
    rw [map_plainSign ha, arguments_chars hcut, hxs]
    simp

theorem commandLine_cons_cons (a b : List Char) (args : List (List Char)) :
    commandLine (a :: b :: args) = word a ++ ' ' :: commandLine (b :: args) := by
  simp [commandLine, List.intercalate_cons_cons]

/-- Words without quotes of their own are the arguments. -/
theorem arguments_commandLine : ∀ {a : List Char} {args : List (List Char)},
    (∀ b ∈ a :: args, '"' ∉ b) →
      arguments false ((commandLine (a :: args)).map plainSign) = (some a, args)
  | a, [], h => by
    have hword : commandLine [a] = word a := by simp [commandLine]
    have hlast : arguments false ((word a).map plainSign ++ []) = (some a, []) :=
      arguments_word (h a List.mem_cons_self) rfl
    rwa [List.append_nil, ← hword] at hlast
  | a, b :: args, h => by
    obtain ⟨ha, hargs⟩ := List.forall_mem_cons.1 h
    have hrest : arguments false (.char ' ' :: (commandLine (b :: args)).map plainSign) =
        (none, b :: args) := by
      rw [arguments, arguments_commandLine hargs]
      rfl
    rw [commandLine_cons_cons, List.map_append, List.map_cons, plainSign_of_ne (by decide),
      arguments_word ha (by rw [hrest]), hrest]

theorem count_word {c : Char} (hc : c ≠ '"') (a : List Char) : (word a).count c = a.count c := by
  unfold word
  split_ifs
  · rw [List.count_append, List.count_cons_of_ne hc.symm, List.count_singleton,
      if_neg (by simpa using hc.symm), Nat.add_zero]
  · rfl

theorem count_commandLine {c : Char} (hquote : c ≠ '"') (hspace : c ≠ ' ') :
    ∀ args : List (List Char), (commandLine args).count c = args.flatten.count c
  | [] => by simp [commandLine]
  | [a] => by simp [commandLine, count_word hquote]
  | a :: b :: args => by
    rw [commandLine_cons_cons, List.count_append, List.count_cons_of_ne hspace.symm,
      count_word hquote, count_commandLine hquote hspace (b :: args), ← List.count_append]
    rfl

theorem parted_commandLine_iff : ∀ {args : List (List Char)},
    Parted (commandLine args) ↔ ∀ a ∈ args, Parted (word a)
  | [] => by simp [commandLine, Parted]
  | [a] => by simp [commandLine]
  | a :: b :: args => by
    have ih : Parted (commandLine (b :: args)) ↔ ∀ a ∈ b :: args, Parted (word a) :=
      parted_commandLine_iff
    unfold Parted at ih ⊢
    rw [commandLine_cons_cons, List.isChain_append, List.isChain_cons, ih, List.forall_mem_cons]
    simp

theorem parted_word_iff {a : List Char} (ha : '"' ∉ a) :
    Parted (word a) ↔ (a.any isBlank = true → a.getLast? ≠ some '\\') := by
  have hparted : Parted a := parted_of_notMem ha
  unfold word
  split_ifs with hquoted
  · have hclosed : Parted ('"' :: a ++ ['"']) ↔ a.getLast? ≠ some '\\' := by
      unfold Parted at hparted ⊢
      rw [List.cons_append, List.isChain_cons, List.isChain_append]
      simp only [hparted, List.isChain_singleton, true_and]
      constructor
      · intro h hlast
        exact h.2 _ hlast '"' rfl rfl rfl
      · refine fun h => ⟨fun _ _ hc => absurd hc (by decide), ?_⟩
        rintro c hc _ - rfl
        exact absurd hc h
    rw [hclosed]
    rcases Bool.or_eq_true_iff.1 hquoted with hempty | hblank
    · simp [List.isEmpty_iff.1 hempty]
    · simp [hblank]
  · have hblank : a.any isBlank ≠ true := fun h => hquoted (by rw [h, Bool.or_true])
    exact iff_of_true hparted fun h => absurd h hblank

/-- Exactly those arguments are read from their words that hold no quote and do not end in a
backslash before a quote. -/
theorem readArguments_commandLine_iff {args : List (List Char)} :
    readArguments (commandLine args) = args ↔
      ∀ a ∈ args, '"' ∉ a ∧ (a.any isBlank = true → a.getLast? ≠ some '\\') := by
  constructor
  · intro h
    have hcount : ∀ c, separates c = false →
        args.flatten.count c = (signs 0 (commandLine args)).count (.char c) := by
      intro c hc
      rw [← count_arguments hc false, ← congrArg List.flatten h]
      rfl
    have hparted : Parted (commandLine args) := by
      refine parted_of_count ?_
      rw [← hcount '\\' (by decide), count_commandLine (by decide) (by decide)]
    have hsigns : signs 0 (commandLine args) = (commandLine args).map plainSign :=
      signs_of_parted (n := 0) hparted
    have hquote : '"' ∉ args.flatten := by
      rw [← List.count_eq_zero, hcount '"' (by decide), hsigns, List.count_eq_zero]
      exact quote_notMem_map_plainSign _
    intro a ha
    have hnone : '"' ∉ a := fun hm => hquote (List.mem_flatten_of_mem ha hm)
    exact ⟨hnone, (parted_word_iff hnone).1 (parted_commandLine_iff.1 hparted a ha)⟩
  · intro h
    have hparted : Parted (commandLine args) :=
      parted_commandLine_iff.2 fun a ha => (parted_word_iff (h a ha).1).2 (h a ha).2
    rw [readArguments_of_parted hparted]
    cases args with
    | nil => rfl
    | cons a args =>
      rw [arguments_commandLine fun b hb => (h b hb).1]
      rfl

/-! ## Arguments of a script -/

theorem received?_quotedArguments (args : List String) : received? (quotedArguments args) =
    some ((readArguments (commandLine (args.map String.toList))).map String.ofList) := by
  rw [received?, quotedArguments_eq, readValue_quotedValue, toList_argumentsText]
  rfl

/-- The program receives the arguments as they are configured exactly where none holds a quote, and
none with a blank, which stands in quotes, ends in a backslash. -/
theorem received?_quotedArguments_iff (args : List String) :
    received? (quotedArguments args) = some args ↔
      ∀ a ∈ args, '"' ∉ a.toList ∧
        (a.toList.any isBlank = true → a.toList.getLast? ≠ some '\\') := by
  have hmap : ∀ xs : List (List Char),
      xs.map String.ofList = args ↔ xs = args.map String.toList := by
    intro xs
    constructor
    · rintro rfl
      simp
    · rintro rfl
      simp
  rw [received?_quotedArguments, Option.some.injEq, hmap, readArguments_commandLine_iff,
    List.forall_mem_map]

/-- A directory that ends in a backslash takes in the argument behind it. -/
theorem received?_quotedArguments_merged :
    received? (quotedArguments ["C:\\My Files\\", "x"]) = some ["C:\\My Files\" x"] := by
  decide +kernel

end SetupScript.Script
