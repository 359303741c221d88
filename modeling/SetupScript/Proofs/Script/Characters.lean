import SetupScript.Proofs.Script.Layout

/-!
# The characters of a script

A script puts nothing but printable ASCII beside the texts that it is made of. So for any other
character (`Foreign`) a line of a script lacks it exactly when the texts placed on that line do
(`lacks_setup`, `lacks_files`, `lacks_icons`, `lacks_run`); the other sections lack it anyway.
-/

namespace SetupScript

namespace Text

variable {x : Char} {s t : String} {cs : List Char}

def Lacks (x : Char) (s : String) : Prop := x ∉ s.toList

instance (x : Char) (s : String) : Decidable (Lacks x s) := inferInstanceAs (Decidable (_ ∉ _))

def isPrintableAscii (c : Char) : Bool := 0x20 ≤ c.toNat && c.toNat ≤ 0x7e

def Foreign (x : Char) : Prop := isPrintableAscii x = false

theorem isPrintableAscii_of_isDigit {c : Char} (h : c.isDigit = true) :
    isPrintableAscii c = true := by
  simp only [Char.isDigit, ge_iff_le, Bool.and_eq_true, decide_eq_true_eq] at h
  have hlow : 48 ≤ c.toNat := h.1
  have hhigh : c.toNat ≤ 57 := h.2
  simp only [isPrintableAscii, Bool.and_eq_true, decide_eq_true_eq]
  omega

theorem Foreign.ne (hx : Foreign x) {c : Char} (h : isPrintableAscii c = true) : x ≠ c := by
  rintro rfl
  rw [hx] at h
  contradiction

theorem Foreign.notMem (hx : Foreign x) (h : cs.all isPrintableAscii = true) : x ∉ cs :=
  fun hmem => hx.ne (List.all_eq_true.1 h x hmem) rfl

theorem lacks_append : Lacks x (s ++ t) ↔ Lacks x s ∧ Lacks x t := by
  simp [Lacks, not_or]

theorem lacks_ofList (hx : Foreign x) (h : cs.all isPrintableAscii = true) :
    Lacks x (String.ofList cs) := by
  rw [Lacks, String.toList_ofList]
  exact hx.notMem h

theorem lacks_ofList_append (hx : Foreign x) (h : cs.all isPrintableAscii = true) :
    Lacks x (String.ofList cs ++ s) ↔ Lacks x s := by
  rw [lacks_append, and_iff_right (lacks_ofList hx h)]

end Text

namespace Script

open Text

/-- Replacing characters one by one keeps out a character that only stands for itself. -/
theorem mem_flatMap_iff_of_fixed {f : Char → List Char} {x : Char} (h : ∀ c, x ∈ f c ↔ x = c)
    (cs : List Char) : x ∈ cs.flatMap f ↔ x ∈ cs := by
  simp [List.mem_flatMap, h]

variable {x : Char} (hx : Foreign x)

include hx

theorem lacks_constantArgument {s : String} : Lacks x (constantArgument s) ↔ Lacks x s := by
  have hfixed : ∀ c, x ∈ escapeChar c ↔ x = c := by
    intro c
    have hcode : ∀ cs : List Char, isPrintableAscii c = true → cs.all isPrintableAscii = true →
        (x ∈ cs ↔ x = c) := fun cs hc hcs => iff_of_false (hx.notMem hcs) (hx.ne hc)
    unfold escapeChar
    split_ifs with h₁ h₂ h₃ h₄ h₅
    · exact hcode _ (by rw [beq_iff_eq.1 h₁]; rfl) (by decide)
    · exact hcode _ (by rw [beq_iff_eq.1 h₂]; rfl) (by decide)
    · exact hcode _ (by rw [beq_iff_eq.1 h₃]; rfl) (by decide)
    · exact hcode _ (by rw [beq_iff_eq.1 h₄]; rfl) (by decide)
    · exact hcode _ (by rw [beq_iff_eq.1 h₅]; rfl) (by decide)
    · exact List.mem_singleton
  rw [Lacks, Lacks, constantArgument, String.toList_ofList, mem_flatMap_iff_of_fixed hfixed]

theorem mem_word_iff {cs : List Char} : x ∈ word cs ↔ x ∈ cs := by
  have hquote : x ≠ '"' := hx.ne (by decide)
  unfold word
  split_ifs
  · simp [hquote]
  · rfl

theorem mem_commandLine_iff : ∀ args : List (List Char), x ∈ commandLine args ↔ ∃ a ∈ args, x ∈ a
  | [] => by simp [commandLine]
  | [a] => by simp [commandLine, mem_word_iff hx]
  | a :: b :: args => by
    have hspace : x ≠ ' ' := hx.ne (by decide)
    have ih := mem_commandLine_iff (b :: args)
    simp only [commandLine, List.map_cons] at ih ⊢
    rw [List.intercalate_cons_cons, List.mem_append, List.mem_append, ih, mem_word_iff hx]
    simp [hspace]

theorem lacks_quotedArguments {args : List String} :
    Lacks x (quotedArguments args) ↔ ∀ a ∈ args, Lacks x a := by
  have hquote : x ≠ '"' := hx.ne (by decide)
  have hfixed : ∀ c, x ∈ doubleQuote c ↔ x = c := by
    intro c
    unfold doubleQuote
    split_ifs with h
    · simp [beq_iff_eq.1 h, hquote]
    · exact List.mem_singleton
  simp [Lacks, quotedArguments, mem_flatMap_iff_of_fixed hfixed, mem_commandLine_iff hx, hquote]

theorem lacks_parameters {args : List String} :
    Lacks x (parameters args) ↔ ∀ a ∈ args, Lacks x a := by
  unfold parameters
  split_ifs with h
  · rw [List.isEmpty_iff] at h
    simp [h, Lacks]
  · rw [lacks_append, lacks_ofList_append hx (by decide),
      and_iff_left (lacks_ofList hx (by decide)), lacks_quotedArguments hx]

theorem lacks_toString (n : Int) : Lacks x (toString n) := by
  have hd : ∀ m : Nat, Lacks x m.repr := by
    intro m h
    rw [Nat.toList_repr] at h
    have hdigit := Nat.isDigit_of_mem_toDigits (by decide) (by decide) h
    exact hx.ne (isPrintableAscii_of_isDigit hdigit) rfl
  rw [Int.toString_eq_repr, Int.repr_eq_if]
  split_ifs
  · exact hd _
  · exact (lacks_ofList_append hx (by decide)).2 (hd _)

theorem lacks_entry (l : Language) : Lacks x l.entry := by
  have hlocale : Lacks x l.locale := by cases l <;> exact lacks_ofList hx (by decide)
  have hfile : Lacks x l.messagesFile := by cases l <;> exact lacks_ofList hx (by decide)
  simp only [Language.entry, lacks_append]
  exact ⟨⟨⟨⟨lacks_ofList hx (by decide), hlocale⟩, lacks_ofList hx (by decide)⟩, hfile⟩,
    lacks_ofList hx (by decide)⟩

theorem lacks_constant {name : String} : Lacks x (constant name) ↔ Lacks x name := by
  rw [constant, String.append_assoc, lacks_ofList_append hx (by decide), lacks_append,
    and_iff_left (lacks_ofList hx (by decide))]

theorem lacks_inApp {name : String} : Lacks x (inApp name) ↔ Lacks x name := by
  have hp : Lacks x (constant "app") ∧ Lacks x "\\" :=
    ⟨(lacks_constant hx).2 (lacks_ofList hx (by decide)), lacks_ofList hx (by decide)⟩
  simp only [inApp, lacks_append, hp, true_and]

section Sections

variable {c : Configuration}

theorem lacks_exeName : Lacks x c.exeName ↔ Lacks x c.name := by
  rw [Configuration.exeName, lacks_append, and_iff_left (lacks_ofList hx (by decide))]

theorem lacks_outputName (hjoined : Lacks x c.joinedName) :
    Lacks x (outputName c) ↔ Lacks x c.version := by
  have hcpu : Lacks x c.architecture.family := by
    cases c.architecture <;> exact lacks_ofList hx (by decide)
  have hfixed : Lacks x "-" ∧ Lacks x "-Installer" :=
    ⟨lacks_ofList hx (by decide), lacks_ofList hx (by decide)⟩
  simp only [outputName, lacks_append, hjoined, hcpu, hfixed, and_true, true_and]

theorem lacks_licenseLines : (∀ l ∈ licenseLines c, Lacks x l) ↔ Lacks x c.licenseText := by
  unfold licenseLines
  split_ifs with h
  · rw [beq_iff_eq] at h
    simp [h, Lacks]
  · rw [List.forall_mem_singleton, lacks_ofList_append hx (by decide)]

theorem lacks_privilegeLines : ∀ l ∈ privilegeLines c, Lacks x l := by
  unfold privilegeLines
  cases c.privilege with
  | admin => exact List.forall_mem_singleton.2 (lacks_ofList hx (by decide))
  | nonAdmin => exact List.forall_mem_singleton.2 (lacks_ofList hx (by decide))
  | auto =>
    exact List.forall_mem_cons.2
      ⟨lacks_ofList hx (by decide), List.forall_mem_singleton.2 (lacks_ofList hx (by decide))⟩

theorem lacks_signToolLines : (∀ l ∈ signToolLines c, Lacks x l) ↔
    ∀ t, c.signTool = some t → Lacks x (stripRight (t.name ++ " " ++ t.params)) := by
  unfold signToolLines
  cases c.signTool with
  | none => simp
  | some t =>
    have hcount : Lacks x ("SignToolRetryCount=" ++ toString t.retryCount) :=
      (lacks_ofList_append hx (by decide)).2 (lacks_toString hx _)
    have hdelay : Lacks x ("SignToolRetryDelay=" ++ toString t.retryDelay) :=
      (lacks_ofList_append hx (by decide)).2 (lacks_toString hx _)
    simp only [directives_eq, List.forall_mem_cons, hcount, hdelay, Option.some.injEq, forall_eq']
    rw [lacks_ofList_append hx (by decide)]
    simp

theorem lacks_setup (hjoined : Lacks x c.joinedName) {outputDir icon : String} :
    (∀ l ∈ (setup c outputDir icon).lines, Lacks x l) ↔
      Lacks x c.id ∧ Lacks x c.name ∧ Lacks x c.version ∧ Lacks x c.publisher ∧ Lacks x c.url ∧
        Lacks x c.supportUrl ∧ Lacks x c.updatesUrl ∧ Lacks x c.licenseText ∧ Lacks x outputDir ∧
        Lacks x icon ∧
        ∀ t, c.signTool = some t → Lacks x (stripRight (t.name ++ " " ++ t.params)) := by
  have hfixed : Lacks x "Compression=lzma2/max" ∧ Lacks x "SolidCompression=yes" ∧
      Lacks x "WizardStyle=modern" ∧ Lacks x "DisableDirPage=auto" ∧
      Lacks x "DisableProgramGroupPage=auto" ∧ Lacks x (constant "autopf") := by
    refine ⟨?_, ?_, ?_, ?_, ?_, (lacks_constant hx).2 ?_⟩ <;> exact lacks_ofList hx (by decide)
  have harch : Lacks x c.architecture.identifier := by
    cases c.architecture <;> exact lacks_ofList hx (by decide)
  have hprivilege : (∀ l ∈ privilegeLines c, Lacks x l) ↔ True :=
    iff_true_intro (lacks_privilegeLines hx)
  have hdir : Lacks x (constant "autopf" ++ ("\\" ++ c.name)) ↔ Lacks x c.name := by
    rw [lacks_append, and_iff_right hfixed.2.2.2.2.2, lacks_ofList_append hx (by decide)]
  simp only [setup, List.forall_mem_append, List.forall_mem_cons, lacks_signToolLines hx,
    lacks_licenseLines hx, hprivilege, hfixed, String.append_assoc]
  repeat rw [lacks_ofList_append hx (by decide)]
  simp only [lacks_inApp hx, lacks_exeName hx, lacks_outputName hx hjoined, hdir, harch,
    List.not_mem_nil, false_imp_iff, forall_const, and_true, and_assoc]
  constructor
  · rintro ⟨hid, hname, -, -, hversion, hpublisher, hurl, hsupport, hupdates, hlicense, -, houtput,
      -, hicon, htool⟩
    exact ⟨hid, hname, hversion, hpublisher, hurl, hsupport, hupdates, hlicense, houtput, hicon,
      htool⟩
  · rintro ⟨hid, hname, hversion, hpublisher, hurl, hsupport, hupdates, hlicense, houtput, hicon,
      htool⟩
    exact ⟨hid, hname, hname, hname, hversion, hpublisher, hurl, hsupport, hupdates, hlicense,
      hname, houtput, hversion, hicon, htool⟩

theorem lacks_fileLine {source : String} : Lacks x (fileLine source) ↔ Lacks x source := by
  have hend : Lacks x "\"; DestDir: \"" ∧ Lacks x (constant "app") ∧
      Lacks x "\"; Flags: ignoreversion" :=
    ⟨lacks_ofList hx (by decide), (lacks_constant hx).2 (lacks_ofList hx (by decide)),
      lacks_ofList hx (by decide)⟩
  simp only [fileLine, String.append_assoc]
  rw [lacks_ofList_append hx (by decide)]
  simp only [lacks_append, hend, and_true]

/-- Only a directory's line holds its name beside where it lies. -/
theorem lacks_entryLine (hname : Lacks x c.name) {e : AppEntry} :
    Lacks x (entryLine c e) ↔ Lacks x e.source ∧ (e.isDir = true → Lacks x e.name) := by
  have hdir : Lacks x "\\*\"; DestDir: \"" ∧
      Lacks x "\"; Flags: ignoreversion recursesubdirs createallsubdirs" :=
    ⟨lacks_ofList hx (by decide), lacks_ofList hx (by decide)⟩
  have hrenamed : Lacks x "\"; DestDir: \"" ∧ Lacks x (constant "app") ∧
      Lacks x "\"; DestName: \"" ∧ Lacks x "\"; Flags: ignoreversion" :=
    ⟨lacks_ofList hx (by decide), (lacks_constant hx).2 (lacks_ofList hx (by decide)),
      lacks_ofList hx (by decide), lacks_ofList hx (by decide)⟩
  unfold entryLine
  split_ifs with h h'
  · simp only [String.append_assoc]
    rw [lacks_ofList_append hx (by decide)]
    simp only [lacks_append, hdir, lacks_inApp hx, h, true_and, and_true, forall_const]
  · simp only [String.append_assoc]
    rw [lacks_ofList_append hx (by decide)]
    simp only [lacks_append, hrenamed, lacks_exeName hx, hname, and_true]
    exact (and_iff_left fun hd => absurd hd h).symm
  · exact (lacks_fileLine hx).trans (and_iff_left fun hd => absurd hd h).symm

theorem lacks_files (hname : Lacks x c.name) {entries : List AppEntry} {libraries : List String} :
    (∀ l ∈ (files c entries libraries).lines, Lacks x l) ↔
      (∀ e ∈ entries, Lacks x e.source ∧ (e.isDir = true → Lacks x e.name)) ∧
        ∀ l ∈ libraries, Lacks x l := by
  simp only [files, List.forall_mem_append, List.forall_mem_map, lacks_entryLine hx hname,
    lacks_fileLine hx]

theorem lacks_iconLine {place : String} (hplace : Lacks x place) :
    Lacks x (iconLine c place) ↔ Lacks x c.name := by
  have hend : Lacks x "\"; Filename: \"" ∧ Lacks x "\"" :=
    ⟨lacks_ofList hx (by decide), lacks_ofList hx (by decide)⟩
  simp only [iconLine, String.append_assoc]
  rw [lacks_ofList_append hx (by decide), lacks_append,
    and_iff_right ((lacks_constant hx).2 hplace), lacks_ofList_append hx (by decide)]
  simp only [lacks_append, hend, lacks_inApp hx, lacks_exeName hx, true_and, and_true, and_self]

theorem lacks_icons : (∀ l ∈ (icons c).lines, Lacks x l) ↔ Lacks x c.name := by
  have hplaces : Lacks x "autoprograms" ∧ Lacks x "autodesktop" :=
    ⟨lacks_ofList hx (by decide), lacks_ofList hx (by decide)⟩
  simp only [icons, List.forall_mem_cons, lacks_append, lacks_iconLine hx hplaces.1,
    lacks_iconLine hx hplaces.2]
  have htasks : Lacks x "; Tasks: desktopicon" := lacks_ofList hx (by decide)
  simp [htasks]

theorem lacks_launchLine {args : List String} {flags check : String} (hflags : Lacks x flags)
    (hcheck : Lacks x check) :
    Lacks x (launchLine c args flags check) ↔ Lacks x c.name ∧ ∀ a ∈ args, Lacks x a := by
  have hfixed : Lacks x "Filename: \"" ∧ Lacks x "\";" ∧ Lacks x " Description: \"" ∧
      Lacks x "\"; Flags: " ∧ Lacks x "; Check: " := by
    refine ⟨?_, ?_, ?_, ?_, ?_⟩ <;> exact lacks_ofList hx (by decide)
  have hlaunch : Lacks x (constant ("cm:LaunchProgram," ++ constantArgument c.name)) ↔
      Lacks x c.name := by
    rw [lacks_constant hx, lacks_ofList_append hx (by decide), lacks_constantArgument hx]
  unfold launchLine
  simp only [lacks_append, lacks_inApp hx, lacks_exeName hx, lacks_parameters hx, hlaunch, hfixed,
    hflags, hcheck, true_and, and_true]
  constructor
  · exact fun h => h.1
  · exact fun h => ⟨h, h.1⟩

theorem lacks_run (hname : Lacks x c.name) : (∀ l ∈ (run c).lines, Lacks x l) ↔
    (∀ args, c.runArgs = some args → ∀ a ∈ args, Lacks x a) ∧
      ∀ args, c.runIfSilent = true → c.runSilentArgs = some args → ∀ a ∈ args, Lacks x a := by
  have hfixed : Lacks x "nowait postinstall skipifsilent" ∧ Lacks x "not IsSilentInstall" ∧
      Lacks x "nowait postinstall" ∧ Lacks x "IsSilentInstall" := by
    refine ⟨?_, ?_, ?_, ?_⟩ <;> exact lacks_ofList hx (by decide)
  have hnormal : ∀ args, Lacks x (launchLine c args "nowait postinstall skipifsilent"
      "not IsSilentInstall") ↔ ∀ a ∈ args, Lacks x a := fun args =>
    (lacks_launchLine hx hfixed.1 hfixed.2.1).trans (and_iff_right hname)
  have hsilent : ∀ args, Lacks x (launchLine c args "nowait postinstall" "IsSilentInstall") ↔
      ∀ a ∈ args, Lacks x a := fun args =>
    (lacks_launchLine hx hfixed.2.2.1 hfixed.2.2.2).trans (and_iff_right hname)
  unfold run
  rw [List.forall_mem_append]
  refine and_congr ?_ ?_
  · cases c.runArgs with
    | none => simp
    | some args => simp only [List.forall_mem_singleton, hnormal, Option.some.injEq, forall_eq']
  · cases c.runIfSilent with
    | false => simp
    | true =>
      cases c.runSilentArgs with
      | none => simp
      | some args =>
        simp only [List.forall_mem_singleton, hsilent, Option.some.injEq, forall_eq', true_imp_iff]

theorem lacks_installDelete : ∀ l ∈ installDelete.lines, Lacks x l := by
  have hfixed : Lacks x "Type: filesandordirs; Name: \"" ∧ Lacks x (inApp "*") ∧ Lacks x "\"" :=
    ⟨lacks_ofList hx (by decide), (lacks_inApp hx).2 (lacks_ofList hx (by decide)),
      lacks_ofList hx (by decide)⟩
  unfold installDelete
  simp only [List.forall_mem_singleton, lacks_append, hfixed, and_self]

theorem lacks_languages : ∀ l ∈ (languages c).lines, Lacks x l :=
  List.forall_mem_map.2 fun l _ => lacks_entry hx l

theorem lacks_tasks : ∀ l ∈ tasks.lines, Lacks x l := by
  have hfixed : Lacks x "Name: \"desktopicon\"; Description: \"" ∧
      Lacks x (constant "cm:CreateDesktopIcon") ∧ Lacks x "\"; GroupDescription: \"" ∧
      Lacks x (constant "cm:AdditionalIcons") ∧ Lacks x "\"" :=
    ⟨lacks_ofList hx (by decide), (lacks_constant hx).2 (lacks_ofList hx (by decide)),
      lacks_ofList hx (by decide), (lacks_constant hx).2 (lacks_ofList hx (by decide)),
      lacks_ofList hx (by decide)⟩
  unfold tasks
  simp only [List.forall_mem_singleton, lacks_append, hfixed, and_self]


end Sections

end Script

end SetupScript
