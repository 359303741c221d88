import SetupScript.Proofs.Script.Parameters
import SetupScript.Proofs.Script.ReadBack

/-!
# Entries that start the program

After an installation the program is started with arguments that can hold any sign. Each entry of
the section is written as parameters (`launchLine_eq`), with the quotes of the arguments doubled, so
no argument ends its value early or adds a parameter: the section read back has an entry for each
start that is configured, with exactly the parameters of that start (`readsBack_run`).
-/

namespace SetupScript.Script

open Text

/-- Words with single spaces between them; one that is empty or holds a blank stands in quotes. -/
def argumentsText (args : List String) : String :=
  " ".intercalate
    (args.map fun a => if a = "" ∨ a.toList.any isBlank then "\"" ++ a ++ "\"" else a)

theorem toList_argumentsText (args : List String) :
    (argumentsText args).toList = commandLine (args.map String.toList) := by
  have hword : ∀ a : String,
      (if a = "" ∨ a.toList.any isBlank then "\"" ++ a ++ "\"" else a).toList =
        word a.toList := by
    intro a
    have hquoted : (a.toList.isEmpty || a.toList.any isBlank) = true ↔
        a = "" ∨ a.toList.any isBlank := by
      simp
    unfold word
    split_ifs with h h' h'
    · simp
    · exact absurd (hquoted.2 h) h'
    · exact absurd (hquoted.1 h') h
    · rfl
  rw [argumentsText, commandLine, String.toList_intercalate, List.map_map, List.map_map]
  exact congrArg _ (List.map_congr_left fun a _ => hword a)

theorem quotedArguments_eq (args : List String) :
    quotedArguments args = quotedValue (argumentsText args) := by
  rw [quotedArguments, quotedValue, toList_argumentsText]

section Launching

variable (c : Configuration) (args : List String) (flags check : String)

/-- What an entry says: the program, its arguments if there are any, the text beside the choice to
start it, and when it is started. -/
def launchParameters : List (String × String) :=
  ("Filename", inApp c.exeName) ::
    (if args = [] then [] else [("Parameters", argumentsText args)]) ++
    [("Description", constant ("cm:LaunchProgram," ++ constantArgument c.name)),
      ("Flags", flags), ("Check", check)]

def launchEntry : List Parameter :=
  .quoted "Filename" (inApp c.exeName) ::
    (if args = [] then [] else [.quoted "Parameters" (argumentsText args)]) ++
    [.quoted "Description" (constant ("cm:LaunchProgram," ++ constantArgument c.name)),
      .plain "Flags" flags, .plain "Check" check]

theorem map_pair_launchEntry :
    (launchEntry c args flags check).map Parameter.pair = launchParameters c args flags check := by
  unfold launchEntry launchParameters
  split_ifs <;> rfl

variable {c args flags check}

/-- A value without quotes is written as it is. -/
theorem quotedValue_eq {s : String} (h : '"' ∉ s.toList) : quotedValue s = "\"" ++ s ++ "\"" := by
  have hsingle : ∀ cs : List Char, '"' ∉ cs → cs.flatMap doubleQuote = cs := by
    intro cs hcs
    induction cs with
    | nil => rfl
    | cons x cs ih =>
      rw [List.mem_cons, not_or] at hcs
      have hx : doubleQuote x = [x] := if_neg (by simpa using Ne.symm hcs.1)
      rw [List.flatMap_cons, hx, ih hcs.2, List.singleton_append]
  rw [quotedValue, hsingle _ h, ← String.toList_inj]
  simp

theorem notMem_constantArgument {s : String} (h : '"' ∉ s.toList) :
    '"' ∉ (constantArgument s).toList := by
  have hf : ∀ x, '"' ∈ escapeChar x ↔ '"' = x := by
    intro x
    unfold escapeChar
    split_ifs <;> simp_all
  rwa [constantArgument, String.toList_ofList, mem_flatMap_iff_of_fixed hf]

theorem launchLine_eq (hname : '"' ∉ c.name.toList) :
    launchLine c args flags check = entryText (launchEntry c args flags check) := by
  have hfile : '"' ∉ (inApp c.exeName).toList := by
    simp [inApp, constant, Configuration.exeName, hname]
  have htext : '"' ∉ (constant ("cm:LaunchProgram," ++ constantArgument c.name)).toList := by
    simp [constant, notMem_constantArgument hname]
  unfold launchLine parameters entryText launchEntry
  simp only [List.isEmpty_iff]
  split_ifs
  all_goals
    simp only [List.map_cons, List.map_nil, List.nil_append, List.cons_append, Parameter.text,
      quotedValue_eq hfile, quotedValue_eq htext, quotedArguments_eq, String.intercalate_cons_cons,
      String.intercalate_singleton]
    generalize inApp c.exeName = file
    generalize constant _ = text
    simp [← String.toList_inj]

theorem wellFormed_quoted {key value : String} (h : Parameter.IsKey key) :
    (Parameter.quoted key value).WellFormed := h

theorem wellFormed_of_mem_launchEntry (hflags : Parameter.WellFormed (.plain "Flags" flags))
    (hcheck : Parameter.WellFormed (.plain "Check" check)) :
    ∀ p ∈ launchEntry c args flags check, p.WellFormed := by
  have hkeys : ∀ key ∈ ["Filename", "Parameters", "Description"], Parameter.IsKey key := by
    decide
  have hquoted : ∀ key ∈ ["Filename", "Parameters", "Description"], ∀ value,
      (Parameter.quoted key value).WellFormed :=
    fun key hkey _ => wellFormed_quoted (hkeys key hkey)
  unfold launchEntry
  split_ifs <;> simp [hquoted, hflags, hcheck]

theorem parameters?_launchLine (hname : '"' ∉ c.name.toList)
    (hflags : Parameter.WellFormed (.plain "Flags" flags))
    (hcheck : Parameter.WellFormed (.plain "Check" check)) :
    parameters? (launchLine c args flags check) = some (launchParameters c args flags check) := by
  have hne : launchEntry c args flags check ≠ [] := List.cons_ne_nil _ _
  rw [launchLine_eq hname, parameters?_entryText hne (wellFormed_of_mem_launchEntry hflags hcheck),
    map_pair_launchEntry]

def iconEntry (c : Configuration) (place : String) : List Parameter :=
  [.quoted "Name" (constant place ++ "\\" ++ c.name), .quoted "Filename" (inApp c.exeName)]

theorem iconLine_eq {place : String} (hplace : '"' ∉ place.toList) (hname : '"' ∉ c.name.toList) :
    iconLine c place = entryText (iconEntry c place) := by
  have hicon : '"' ∉ (constant place ++ "\\" ++ c.name).toList := by
    simp [constant, hplace, hname]
  have hfile : '"' ∉ (inApp c.exeName).toList := by
    simp [inApp, constant, Configuration.exeName, hname]
  simp only [iconLine, iconEntry, entryText, List.map_cons, List.map_nil, Parameter.text,
    quotedValue_eq hicon, quotedValue_eq hfile, String.intercalate_cons_cons,
    String.intercalate_singleton]
  rw [← String.toList_inj]
  simp

theorem icons_lines (hname : '"' ∉ c.name.toList) : (icons c).lines =
    [entryText (iconEntry c "autoprograms"),
      entryText (iconEntry c "autodesktop" ++ [.plain "Tasks" "desktopicon"])] := by
  have hplaces : '"' ∉ "autoprograms".toList ∧ '"' ∉ "autodesktop".toList := by decide
  have htask : entryText (iconEntry c "autodesktop") ++ "; Tasks: desktopicon" =
      entryText (iconEntry c "autodesktop" ++ [.plain "Tasks" "desktopicon"]) := by
    rw [← String.toList_inj]
    simp [iconEntry, entryText, Parameter.text, String.intercalate_cons_cons]
  rw [← htask, ← iconLine_eq hplaces.1 hname, ← iconLine_eq hplaces.2 hname]
  rfl

theorem mem_run_lines {l : String} (h : l ∈ (run c).lines) : ∃ args flags check,
    l = launchLine c args flags check ∧ Parameter.WellFormed (.plain "Flags" flags) ∧
      Parameter.WellFormed (.plain "Check" check) := by
  rcases List.mem_append.1 h with h | h
  · cases hargs : c.runArgs with
    | none => simp [hargs] at h
    | some args =>
      simp only [hargs, List.mem_singleton] at h
      exact ⟨args, _, _, h, by decide, by decide⟩
  · cases hsilent : c.runIfSilent with
    | false => simp [hsilent] at h
    | true =>
      cases hargs : c.runSilentArgs with
      | none => simp [hsilent, hargs] at h
      | some args =>
        simp only [hsilent, hargs, List.mem_singleton] at h
        exact ⟨args, _, _, h, by decide, by decide⟩

theorem parameters?_iconEntry (place : String) {ps : List Parameter}
    (hps : ps ∈ [[], [Parameter.plain "Tasks" "desktopicon"]]) :
    parameters? (entryText (iconEntry c place ++ ps)) =
      some ((iconEntry c place ++ ps).map Parameter.pair) := by
  have hentry : ∀ p ∈ iconEntry c place, p.WellFormed := by
    simp only [iconEntry, List.forall_mem_cons]
    exact ⟨wellFormed_quoted (by decide), wellFormed_quoted (by decide), by simp⟩
  have htask : ∀ ps ∈ [[], [Parameter.plain "Tasks" "desktopicon"]], ∀ p ∈ ps, p.WellFormed := by
    decide
  exact parameters?_entryText (by simp [iconEntry])
    (List.forall_mem_append.2 ⟨hentry, htask ps hps⟩)

/-- Whatever starts the program names it as it is installed. -/
theorem filename_of_mem_starts (hname : '"' ∉ c.name.toList) :
    ∀ l ∈ (icons c).lines ++ (run c).lines,
      (parameters? l).bind (·.lookup "Filename") = some (inApp c.exeName) := by
  have hread : ∀ place, ∀ ps ∈ [[], [Parameter.plain "Tasks" "desktopicon"]],
      (parameters? (entryText (iconEntry c place ++ ps))).bind (·.lookup "Filename") =
        some (inApp c.exeName) := by
    intro place ps hps
    rw [parameters?_iconEntry place hps]
    simp [iconEntry, Parameter.pair, List.lookup_cons]
  intro l hl
  rw [icons_lines hname] at hl
  rcases List.mem_append.1 hl with hl | hl
  · simp only [List.mem_cons, List.not_mem_nil, or_false] at hl
    rcases hl with rfl | rfl
    · rw [← List.append_nil (iconEntry c "autoprograms")]
      exact hread _ _ (by simp)
    · exact hread _ _ (by simp)
  · obtain ⟨args, flags, check, rfl, hflags, hcheck⟩ := mem_run_lines hl
    rw [parameters?_launchLine hname hflags hcheck]
    simp [launchParameters]

end Launching

/-- The entries to start the program, a start with arguments for each of the two kinds that is
configured, are read back, whatever signs the arguments hold. -/
theorem readsBack_run {c : Configuration} (hquote : '"' ∉ c.name.toList) (hname : IsLine c.name)
    (hargs : ∀ args, c.runArgs = some args → ∀ a ∈ args, IsLine a)
    (hsilent : ∀ args, c.runSilentArgs = some args → ∀ a ∈ args, IsLine a) :
    ∃ entries, lines (run c).text = headingOf "Run" :: entries ∧
      entries.map parameters? =
        c.runArgs.toList.map (fun args => some
          (launchParameters c args "nowait postinstall skipifsilent" "not IsSilentInstall")) ++
        (if c.runIfSilent then c.runSilentArgs else none).toList.map (fun args => some
          (launchParameters c args "nowait postinstall" "IsSilentInstall")) := by
  have hrows : ∀ l ∈ (run c).rows, IsLine l := by
    have hheading : IsLine (headingOf "Run") := by decide
    have hfeed : Text.Foreign '\n' := rfl
    exact List.forall_mem_cons.2
      ⟨hheading, (lacks_run hfeed hname).2 ⟨hargs, fun args _ => hsilent args⟩⟩
  have hread : ∀ args flags check, Parameter.WellFormed (.plain "Flags" flags) →
      Parameter.WellFormed (.plain "Check" check) →
      parameters? (launchLine c args flags check) = some (launchParameters c args flags check) :=
    fun _ _ _ => parameters?_launchLine hquote
  refine ⟨(run c).lines, ?_, ?_⟩
  · rw [lines_text, (flatMap_lines_eq_self_iff _).2 hrows]
    rfl
  · rw [run, List.map_append]
    congr 1
    · cases c.runArgs with
      | none => rfl
      | some args => exact congrArg (fun e => [e]) (hread args _ _ (by decide) (by decide))
    · cases c.runIfSilent with
      | false => rfl
      | true =>
        cases c.runSilentArgs with
        | none => rfl
        | some args => exact congrArg (fun e => [e]) (hread args _ _ (by decide) (by decide))

/-- Arguments that look like ends of values and like further parameters. -/
def quarrelsome : Configuration :=
  { Builder.sample.config with
    name := "Ink & Co, 1"
    runArgs := some ["\"", "", "x\"; Flags: y", "\x7bapp\x7d\\"]
    runIfSilent := true
    runSilentArgs := some [] }

theorem readsBack_run_quarrelsome : ∃ entries,
    lines (run quarrelsome).text = headingOf "Run" :: entries ∧
      entries.map parameters? =
        [some [("Filename", "\x7bapp\x7d\\Ink & Co, 1.exe"),
            ("Parameters", "\" \"\" \"x\"; Flags: y\" \x7bapp\x7d\\"),
            ("Description", "\x7bcm:LaunchProgram,Ink && Co%2c 1\x7d"),
            ("Flags", "nowait postinstall skipifsilent"), ("Check", "not IsSilentInstall")],
          some [("Filename", "\x7bapp\x7d\\Ink & Co, 1.exe"),
            ("Description", "\x7bcm:LaunchProgram,Ink && Co%2c 1\x7d"),
            ("Flags", "nowait postinstall"), ("Check", "IsSilentInstall")]] := by
  have hargs : ∀ args, quarrelsome.runArgs = some args → ∀ a ∈ args, IsLine a := by
    rintro _ ⟨⟩
    decide
  have hsilent : ∀ args, quarrelsome.runSilentArgs = some args → ∀ a ∈ args, IsLine a := by
    rintro _ ⟨⟩
    decide
  obtain ⟨entries, hlines, hentries⟩ := readsBack_run (by decide) (by decide) hargs hsilent
  refine ⟨entries, hlines, hentries.trans ?_⟩
  decide +kernel

end SetupScript.Script
