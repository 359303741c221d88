import SetupScript.Proofs.Script.Layout

/-!
# The settings of a script

The lines of the setup section are the settings of a configuration that have a value
(`setup_lines`). Cut at its first equals sign each line gives back its key and its value
(`map_directive?_line`), and as no two settings have one key, a key leads to its value
(`lookup_pair?`).
-/

namespace SetupScript.Script

open Text

/-- A key of the setup section, and its value where the section has the key. -/
abbrev Setting := String × Option String

namespace Setting

def pair? (s : Setting) : Option (String × String) := s.2.map (s.1, ·)

def line? (s : Setting) : Option String := s.2.map fun value => s.1 ++ "=" ++ value

end Setting

/-- What the setup section says of a configuration. -/
def settings (c : Configuration) (outputDir icon : String) : List Setting :=
  [("AppId", c.id),
    ("AppName", c.name),
    ("UninstallDisplayName", c.name),
    ("UninstallDisplayIcon", inApp c.exeName),
    ("AppVersion", c.version),
    ("AppPublisher", c.publisher),
    ("AppPublisherURL", c.url),
    ("AppSupportURL", c.supportUrl),
    ("AppUpdatesURL", c.updatesUrl),
    ("LicenseFile", if c.licenseText = "" then none else some c.licenseText),
    ("DefaultDirName", constant "autopf" ++ "\\" ++ c.name),
    ("PrivilegesRequired", some (if c.privilege = .nonAdmin then "lowest" else "admin")),
    ("PrivilegesRequiredOverridesAllowed",
      if c.privilege = .auto then some "dialog commandline" else none),
    ("OutputDir", outputDir),
    ("OutputBaseFilename", outputName c),
    ("SetupIconFile", icon),
    ("Compression", "lzma2/max"),
    ("SolidCompression", "yes"),
    ("WizardStyle", "modern"),
    ("ArchitecturesAllowed", c.architecture.identifier),
    ("ArchitecturesInstallIn64BitMode", c.architecture.identifier),
    ("DisableDirPage", "auto"),
    ("DisableProgramGroupPage", "auto"),
    ("SignTool", c.signTool.map fun t => stripRight (t.name ++ " " ++ t.params)),
    ("SignToolRetryCount", c.signTool.map fun t => toString t.retryCount),
    ("SignToolRetryDelay", c.signTool.map fun t => toString t.retryDelay)]

section Settings

variable (c : Configuration) (outputDir icon : String)

theorem nodup_keys : ((settings c outputDir icon).map Prod.fst).Nodup := by
  simp only [settings, List.map_cons, List.map_nil]
  decide +kernel

theorem notMem_keys : ∀ key ∈ (settings c outputDir icon).map Prod.fst, '=' ∉ key.toList := by
  simp only [settings, List.map_cons, List.map_nil]
  decide +kernel

theorem setup_lines :
    (setup c outputDir icon).lines = (settings c outputDir icon).filterMap Setting.line? := by
  have hlicense : licenseLines c = (Setting.line?
      ("LicenseFile", if c.licenseText = "" then none else some c.licenseText)).toList := by
    unfold licenseLines
    by_cases h : c.licenseText = "" <;> simp [h, Setting.line?]
  have hprivilege : privilegeLines c =
      (Setting.line? ("PrivilegesRequired",
        some (if c.privilege = .nonAdmin then "lowest" else "admin"))).toList ++
      (Setting.line? ("PrivilegesRequiredOverridesAllowed",
        if c.privilege = .auto then some "dialog commandline" else none)).toList := by
    unfold privilegeLines
    cases c.privilege <;> simp [Setting.line?]
  have htool : signToolLines c =
      (Setting.line? ("SignTool",
        c.signTool.map fun t => stripRight (t.name ++ " " ++ t.params))).toList ++
      (Setting.line? ("SignToolRetryCount",
        c.signTool.map fun t => toString t.retryCount)).toList ++
      (Setting.line? ("SignToolRetryDelay",
        c.signTool.map fun t => toString t.retryDelay)).toList := by
    unfold signToolLines
    cases c.signTool with
    | none => rfl
    | some t => simp [directives_eq, Setting.line?]
  rw [List.filterMap_eq_flatMap_toList]
  simp only [setup, settings, hlicense, hprivilege, htool, Setting.line?, List.flatMap_cons,
    List.flatMap_nil, Option.map_some, Option.toList_some, List.cons_append, List.nil_append,
    List.append_assoc, List.append_nil, String.reduceAppend]
  simp only [String.append_assoc]

def directive? (line : String) : Option (String × String) :=
  match cutFirst (· == '=') line.toList with
  | (key, some value) => some (String.ofList key, String.ofList value)
  | (_, none) => none

theorem directive?_append {key : String} (h : '=' ∉ key.toList) (value : String) :
    directive? (key ++ "=" ++ value) = some (key, value) := by
  have hl : (key ++ "=" ++ value).toList = key.toList ++ '=' :: value.toList := by simp
  rw [directive?, hl, cutFirst_append_cons (by rfl) _ (beq_eq_false_of_notMem h)]
  simp

theorem map_directive?_line : ∀ {ss : List Setting},
    (∀ key ∈ ss.map Prod.fst, '=' ∉ key.toList) →
      (ss.filterMap Setting.line?).map directive? = (ss.filterMap Setting.pair?).map some
  | [], _ => rfl
  | (key, value) :: ss, h => by
    obtain ⟨hkey, hkeys⟩ := List.forall_mem_cons.1 h
    have ih := map_directive?_line hkeys
    cases value with
    | none => exact ih
    | some v =>
      rw [List.filterMap_cons_some (rfl : Setting.line? (key, some v) = some (key ++ "=" ++ v)),
        List.filterMap_cons_some (rfl : Setting.pair? (key, some v) = some (key, v)),
        List.map_cons, List.map_cons, directive?_append hkey, ih]

theorem map_fst_pair?_sublist : ∀ ss : List Setting,
    ((ss.filterMap Setting.pair?).map Prod.fst).Sublist (ss.map Prod.fst)
  | [] => .slnil
  | (_, none) :: ss => (map_fst_pair?_sublist ss).cons _
  | (_, some _) :: ss => (map_fst_pair?_sublist ss).cons_cons _

/-- Among distinct keys each has its own value, or none. -/
theorem lookup_pair? : ∀ {ss : List Setting}, (ss.map Prod.fst).Nodup → ∀ s ∈ ss,
    (ss.filterMap Setting.pair?).lookup s.1 = s.2
  | [], _, s, hs => by simp at hs
  | (key, value) :: ss, h, s, hs => by
    obtain ⟨hkey, hnodup⟩ : key ∉ ss.map Prod.fst ∧ (ss.map Prod.fst).Nodup := List.nodup_cons.1 h
    have hfresh : (ss.filterMap Setting.pair?).lookup key = none := by
      rw [List.lookup_eq_none_iff]
      intro q hq
      have hm := (map_fst_pair?_sublist ss).subset (List.mem_map_of_mem hq)
      exact bne_iff_ne.2 fun e => hkey (e ▸ hm)
    rcases List.mem_cons.1 hs with rfl | hs
    · cases value with
      | none => exact hfresh
      | some v => simp [Setting.pair?]
    · have hne : (s.1 == key) = false :=
        beq_eq_false_iff_ne.2 fun e => hkey (e ▸ List.mem_map_of_mem (f := Prod.fst) hs)
      have ih := lookup_pair? hnodup s hs
      cases value with
      | none => exact ih
      | some v => simpa [Setting.pair?, List.lookup_cons, hne] using ih

end Settings

end SetupScript.Script
