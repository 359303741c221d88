import SetupScript.Proofs.Build.Confinement
import SetupScript.Proofs.Script.FileRows
import SetupScript.Proofs.Script.Launching

/-!
# Braces in values

In a value two opening braces are one, and any other opening brace begins a constant that the next
closing brace ends (`expand?`). The names of a configuration and of directories are put into values
behind a constant and are written as they are. So a value means its constant and the name character
by character exactly where the name holds no opening brace (`readsAs_iff`), and that goes for
every value of a script that such a name stands in (`resolve_names_read`).
-/

namespace SetupScript.Script

open Text

/-! ## Expanding values -/

/-- What a value is made of: characters, and constants by their names. -/
inductive Piece where
  | char (c : Char)
  | constant (name : List Char)
deriving DecidableEq

/-- Expands what follows the first characters of a constant's name, or no constant. -/
def expandFrom : Option (List Char) → List Char → Option (List Piece)
  | none, [] => some []
  | none, '\x7b' :: '\x7b' :: cs => (expandFrom none cs).map (.char '\x7b' :: ·)
  | none, c :: cs =>
    if c = '\x7b' then expandFrom (some []) cs else (expandFrom none cs).map (.char c :: ·)
  | some _, [] => none
  | some name, c :: cs =>
    if c = '\x7d' then (expandFrom none cs).map (.constant name :: ·)
    else expandFrom (some (name ++ [c])) cs

/-- A constant that is not closed cannot be expanded. -/
def expand? (value : String) : Option (List Piece) := expandFrom none value.toList

/-- One constant, if any, and the characters of a text. -/
def pieces (name? : Option String) (text : String) : List Piece :=
  name?.toList.map (fun name => .constant name.toList) ++ text.toList.map .char

/-- Whether there is a value that means a constant and a text behind it. -/
def ReadsAs (value? name? : Option String) (text : String) : Prop :=
  value?.bind expand? = some (pieces name? text)

/-- Expanding leaves a piece for each character, and fewer where a brace opens. -/
theorem length_of_expandFrom {name? : Option (List Char)} {cs : List Char} {ps : List Piece}
    (h : expandFrom name? cs = some ps) :
    ps.length ≤ cs.length ∧ (name? = none → '\x7b' ∈ cs → ps.length < cs.length) := by
  fun_induction expandFrom name? cs generalizing ps with
  | case1 =>
    obtain rfl := Option.some.inj h
    simp
  | case2 cs ih =>
    obtain ⟨qs, hqs, rfl⟩ := Option.map_eq_some_iff.1 h
    have hle := (ih hqs).1
    simp only [List.length_cons]
    omega
  | case3 cs _ ih =>
    have hle := (ih h).1
    simp only [List.length_cons]
    omega
  | case4 c cs _ hc ih =>
    obtain ⟨qs, hqs, rfl⟩ := Option.map_eq_some_iff.1 h
    obtain ⟨hle, hlt⟩ := ih hqs
    refine ⟨Nat.succ_le_succ hle, fun _ hm => Nat.succ_lt_succ (hlt rfl ?_)⟩
    exact (List.mem_cons.1 hm).resolve_left fun e => hc e.symm
  | case5 => contradiction
  | case6 name cs ih =>
    obtain ⟨qs, hqs, rfl⟩ := Option.map_eq_some_iff.1 h
    exact ⟨Nat.succ_le_succ (ih hqs).1, nofun⟩
  | case7 name c cs _ ih => exact ⟨Nat.le_succ_of_le (ih h).1, nofun⟩

theorem expandFrom_chars : ∀ {cs : List Char}, '\x7b' ∉ cs →
    expandFrom none cs = some (cs.map .char)
  | [], _ => rfl
  | c :: cs, h => by
    rw [List.mem_cons, not_or] at h
    have hc : c ≠ '\x7b' := Ne.symm h.1
    rw [expandFrom.eq_3 c cs fun _ heq _ => hc heq, if_neg hc, expandFrom_chars h.2]
    rfl

/-- A text is its characters where it holds no opening brace. -/
theorem expandFrom_eq_chars_iff {cs : List Char} :
    expandFrom none cs = some (cs.map .char) ↔ '\x7b' ∉ cs := by
  refine ⟨fun h hm => ?_, expandFrom_chars⟩
  have hlt := (length_of_expandFrom h).2 rfl hm
  rw [List.length_map] at hlt
  exact lt_irrefl _ hlt

theorem expandFrom_name {name rest : List Char} : ∀ {cs : List Char}, '\x7d' ∉ cs →
    expandFrom (some name) (cs ++ '\x7d' :: rest) =
      (expandFrom none rest).map (.constant (name ++ cs) :: ·)
  | [], _ => by simp [expandFrom]
  | c :: cs, h => by
    rw [List.mem_cons, not_or] at h
    rw [List.cons_append, expandFrom, if_neg (Ne.symm h.1), expandFrom_name h.2,
      List.append_assoc, List.singleton_append]

/-- Names of constants are words of letters. -/
theorem expandFrom_constant {name : String} (h : Parameter.IsKey name) (rest : List Char) :
    expandFrom none ((constant name).toList ++ rest) =
      (expandFrom none rest).map (.constant name.toList :: ·) := by
  have hopen : ∀ c ∈ name.toList, c ≠ '\x7b' := fun c hc => ne_of_isAlpha (h c hc) (by decide)
  have hclose : '\x7d' ∉ name.toList := fun hm => ne_of_isAlpha (h _ hm) (by decide) rfl
  have htext : (constant name).toList ++ rest =
      '\x7b' :: (name.toList ++ '\x7d' :: rest) := by
    simp [constant]
  have hfirst : ∀ cs, name.toList ++ '\x7d' :: rest ≠ '\x7b' :: cs := by
    intro cs heq
    cases hname : name.toList with
    | nil => simp [hname] at heq
    | cons c ds =>
      rw [hname] at heq
      exact hopen c (hname ▸ List.mem_cons_self) (List.cons.inj heq).1
  rw [htext, expandFrom.eq_3 _ _ fun _ _ heq => hfirst _ heq, if_pos rfl, expandFrom_name hclose]
  rfl

/-- A text behind a constant means itself where it holds no opening brace. -/
theorem readsAs_constant_iff {name : String} (h : Parameter.IsKey name) (text : String) :
    ReadsAs (some (constant name ++ text)) (some name) text ↔ '\x7b' ∉ text.toList := by
  have hexpand : expand? (constant name ++ text) =
      (expandFrom none text.toList).map (.constant name.toList :: ·) := by
    rw [expand?, String.toList_append, expandFrom_constant h]
  have hpieces : pieces (some name) text =
      .constant name.toList :: text.toList.map .char := rfl
  rw [ReadsAs, Option.bind_some, hexpand, hpieces, ← expandFrom_eq_chars_iff]
  simp

theorem readsAs_text_iff (text : String) :
    ReadsAs (some text) none text ↔ '\x7b' ∉ text.toList :=
  expandFrom_eq_chars_iff

/-- A name in the directory that a constant stands for. -/
theorem readsAs_below_iff {place : String} (h : Parameter.IsKey place) (name : String) :
    ReadsAs (some (constant place ++ "\\" ++ name)) (some place) ("\\" ++ name) ↔
      '\x7b' ∉ name.toList := by
  rw [String.append_assoc, readsAs_constant_iff h]
  simp

theorem readsAs_inApp_iff (name : String) :
    ReadsAs (some (inApp name)) (some "app") ("\\" ++ name) ↔ '\x7b' ∉ name.toList :=
  readsAs_below_iff (by decide) name

/-! ## Values of a script -/

section Values

variable (c : Configuration) (outputDir icon : String)

/-- The value of a key in the setup section. -/
def setting? (key : String) : Option String :=
  ((setup c outputDir icon).lines.filterMap directive?).lookup key

/-- The value of a key in an entry. -/
def parameter? (key line : String) : Option String := (parameters? line).bind (·.lookup key)

theorem setting?_eq : ∀ s ∈ settings c outputDir icon, setting? c outputDir icon s.1 = s.2 := by
  intro s hs
  have hread : (setup c outputDir icon).lines.filterMap directive? =
      (settings c outputDir icon).filterMap Setting.pair? := by
    calc (setup c outputDir icon).lines.filterMap directive?
        = ((setup c outputDir icon).lines.map directive?).filterMap id := by
          rw [List.filterMap_map]
          rfl
      _ = (((settings c outputDir icon).filterMap Setting.pair?).map some).filterMap id := by
          rw [setup_lines, map_directive?_line (notMem_keys c outputDir icon)]
      _ = (settings c outputDir icon).filterMap Setting.pair? := by
          rw [List.filterMap_map]
          exact List.filterMap_some
  rw [setting?, hread, lookup_pair? (nodup_keys c outputDir icon) s hs]

theorem setting?_directory : setting? c outputDir icon "DefaultDirName" =
    some (constant "autopf" ++ "\\" ++ c.name) :=
  setting?_eq c outputDir icon (_, some _) (by simp [settings])

theorem setting?_uninstallIcon : setting? c outputDir icon "UninstallDisplayIcon" =
    some (inApp c.exeName) :=
  setting?_eq c outputDir icon (_, some _) (by simp [settings])

variable {c}

theorem name_of_icon (place : String) {ps : List Parameter}
    (hps : ps ∈ [[], [Parameter.plain "Tasks" "desktopicon"]]) :
    parameter? "Name" (entryText (iconEntry c place ++ ps)) =
      some (constant place ++ "\\" ++ c.name) := by
  rw [parameter?, parameters?_iconEntry place hps]
  simp [iconEntry, Parameter.pair]

end Values

/-- Every value that a name stands in is the constant before it and the name exactly where the name
holds no opening brace. -/
structure NamesRead (c : Configuration) (p : ScriptParts) : Prop where
  directory : ReadsAs (setting? c p.outputDir p.icon "DefaultDirName") (some "autopf")
    ("\\" ++ c.name) ↔ '\x7b' ∉ c.name.toList
  uninstallIcon : ReadsAs (setting? c p.outputDir p.icon "UninstallDisplayIcon") (some "app")
    ("\\" ++ c.exeName) ↔ '\x7b' ∉ c.name.toList
  shortcuts : List.Forall₂ (fun place line =>
      ReadsAs (parameter? "Name" line) (some place) ("\\" ++ c.name) ↔ '\x7b' ∉ c.name.toList)
    ["autoprograms", "autodesktop"] (icons c).lines
  starts : ∀ line ∈ (icons c).lines ++ (run c).lines,
    ReadsAs (parameter? "Filename" line) (some "app") ("\\" ++ c.exeName) ↔
      '\x7b' ∉ c.name.toList
  rows : files c p.entries p.libraries =
    ⟨"Files", (fileRows c p.entries p.libraries).map FileRow.text⟩
  directories : ∀ e ∈ p.entries, e.isDir = true →
    let row := FileRow.ofChild c e.name e.source e.isDir
    row.destName? = none ∧
      (ReadsAs row.destDir (some "app") ("\\" ++ e.name) ↔ '\x7b' ∉ e.name.toList)
  files : ∀ e ∈ p.entries, e.isDir = false →
    let row := FileRow.ofChild c e.name e.source e.isDir
    ReadsAs row.destDir (some "app") "" ∧
      ∀ name ∈ row.destName?, ReadsAs (some name) none c.exeName ↔ '\x7b' ∉ c.name.toList
  libraries : ∀ library ∈ p.libraries,
    let row := FileRow.verbatim library
    row.destName? = none ∧ ReadsAs row.destDir (some "app") ""

theorem readsAs_destDir : ReadsAs (some (constant "app")) (some "app") "" := rfl

/-- In the script of a resolved configuration a name is read as it is wherever it stands, unless it
holds an opening brace; closing braces do no harm. -/
theorem resolve_names_read {d : Disk} {v : Value} {o : Overrides} {dir : Path} {c : Configuration}
    (hc : resolve d v o dir = .ok c) (p : ScriptParts) : NamesRead c p := by
  obtain ⟨-, -, -, -, -, -, hname⟩ := resolve_id_name hc
  have hquote : '"' ∉ c.name.toList := Names.notMem_of_acceptsName (by decide) (by decide) hname
  have hexe : '\x7b' ∉ c.exeName.toList ↔ '\x7b' ∉ c.name.toList := by
    simp [Configuration.exeName]
  have hfile := (readsAs_inApp_iff c.exeName).trans hexe
  constructor
  case directory =>
    rw [setting?_directory]
    exact readsAs_below_iff (by decide) c.name
  case uninstallIcon =>
    rw [setting?_uninstallIcon]
    exact hfile
  case shortcuts =>
    have hplain : parameter? "Name" (entryText (iconEntry c "autoprograms" ++ [])) =
        some (constant "autoprograms" ++ "\\" ++ c.name) := name_of_icon _ (by simp)
    have htask : parameter? "Name" (entryText (iconEntry c "autodesktop" ++
        [Parameter.plain "Tasks" "desktopicon"])) =
        some (constant "autodesktop" ++ "\\" ++ c.name) := name_of_icon _ (by simp)
    rw [List.append_nil] at hplain
    rw [icons_lines hquote]
    refine .cons ?_ (.cons ?_ .nil)
    · rw [hplain]
      exact readsAs_below_iff (by decide) c.name
    · rw [htask]
      exact readsAs_below_iff (by decide) c.name
  case starts =>
    intro line hline
    rw [parameter?, filename_of_mem_starts hquote line hline]
    exact hfile
  case rows => exact files_eq c p.entries p.libraries
  case directories =>
    rintro ⟨name, source, isDir⟩ - rfl
    exact ⟨rfl, readsAs_inApp_iff name⟩
  case files =>
    rintro ⟨name, source, isDir⟩ - rfl
    rw [FileRow.ofChild, if_neg Bool.false_ne_true]
    split_ifs
    · refine ⟨readsAs_destDir, ?_⟩
      rintro _ ⟨⟩
      exact (readsAs_text_iff c.exeName).trans hexe
    · exact ⟨readsAs_destDir, by simp [FileRow.verbatim]⟩
  case libraries => exact fun _ _ => ⟨rfl, readsAs_destDir⟩

def namedDescriptor (name : String) : Value :=
  .map [(.text "name", .text "tool"), (.text "version", .text "1"),
    (.text "description", .text "d"), (.text "maintainer", .text "m"),
    (.text "inno_bundle", .map [(.text "id", .text "f887d5f0-4690-1e07-8efc-d16ea7711bfb"),
      (.text "name", .text name)])]

theorem resolve_names_read_closing : ∃ c,
    resolve ⟨.empty, []⟩ (namedDescriptor "a\x7d") .default ⟨.root, []⟩ = .ok c ∧
      ReadsAs (setting? c "/out" "a.ico" "DefaultDirName") (some "autopf") "\\a\x7d" := by
  obtain ⟨c, hc, hname⟩ : ∃ c,
      resolve ⟨.empty, []⟩ (namedDescriptor "a\x7d") .default ⟨.root, []⟩ = .ok c ∧
        c.name = "a\x7d" := ⟨_, rfl, rfl⟩
  have hread := (resolve_names_read hc ⟨"/out", "a.ico", [], []⟩).directory.2
  rw [hname] at hread
  exact ⟨c, hc, hread (by decide)⟩

/-- A name that looks like a constant is one, and an opening brace that stays open spoils the
value. -/
theorem not_readsAs_braced : ∃ c,
    resolve ⟨.empty, []⟩ (namedDescriptor "Draw \x7bapp\x7d") .default ⟨.root, []⟩ = .ok c ∧
      (setting? c "/out" "a.ico" "DefaultDirName").bind expand? =
        some (pieces (some "autopf") "\\Draw " ++ pieces (some "app") "") ∧
      ¬ ReadsAs (setting? c "/out" "a.ico" "DefaultDirName") (some "autopf") ("\\" ++ c.name) ∧
      expand? (FileRow.ofChild c "data\x7b" "/app/data\x7b" true).destDir = none := by
  obtain ⟨c, hc, hname⟩ : ∃ c,
      resolve ⟨.empty, []⟩ (namedDescriptor "Draw \x7bapp\x7d") .default ⟨.root, []⟩ = .ok c ∧
        c.name = "Draw \x7bapp\x7d" := ⟨_, rfl, rfl⟩
  refine ⟨c, hc, ?_, ?_, ?_⟩
  · rw [setting?_directory, hname]
    decide
  · rw [setting?_directory, readsAs_below_iff (by decide), hname]
    decide
  · exact (by decide : expand? (inApp "data\x7b") = none)

end SetupScript.Script
