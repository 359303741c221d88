import SetupScript.Proofs.Configuration.Identity
import SetupScript.Proofs.Script.ReadBack

/-!
# Line breaks in a configuration

Of the texts that a descriptor puts on single lines of a script only the id and the name are checked
for line breaks. All others are taken as they are, whatever they hold
(`FreeTexts.resolve_eq_ok`), so a script has the lines of its layout exactly when no text in it
holds a line feed.
-/

namespace SetupScript

open Text Names Script

/-- Texts for single lines of a script, besides the id and the name. -/
structure FreeTexts where
  version : String
  publisher : String
  url : String
  supportUrl : String
  updatesUrl : String
  tool : String
  params : String
  runArgs : List String
  runSilentArgs : List String

namespace FreeTexts

variable (t : FreeTexts)

def block : Fields :=
  [(.text "id", .text "f887d5f0-4690-1e07-8efc-d16ea7711bfb"), (.text "version", .text t.version),
    (.text "publisher", .text t.publisher), (.text "url", .text t.url),
    (.text "support_url", .text t.supportUrl), (.text "updates_url", .text t.updatesUrl),
    (.text "run_args", .list (t.runArgs.map .text)),
    (.text "run_silent_args", .list (t.runSilentArgs.map .text))]

def outer : Fields :=
  [(.text "name", .text "tool"), (.text "description", .text ""),
    (.text "inno_bundle", .map t.block)]

/-- The sign tool comes from the command line. -/
def overrides : Overrides :=
  { Overrides.default with signTool := ⟨some t.tool, some "sign", some t.params⟩ }

def configuration (licenseText : String) : Configuration :=
  { id := "f887d5f0-4690-1e07-8efc-d16ea7711bfb", declaredName := "tool", name := "tool"
    description := "", version := t.version, publisher := t.publisher, url := t.url
    supportUrl := t.supportUrl, updatesUrl := t.updatesUrl
    iconText := Configuration.defaultIconMark, licenseText
    signTool := some ⟨t.tool, "sign", t.params, 2, 500⟩, languages := Language.all
    privilege := .admin, architecture := .x64Compatible, variant := .debug, app := true
    installer := true, buildArgs := none, runArgs := some t.runArgs, runIfSilent := false
    runSilentArgs := some t.runSilentArgs, appendedCode := none }

/-- A configuration has the texts. -/
structure StandIn (c : Configuration) : Prop where
  version : c.version = t.version
  publisher : c.publisher = t.publisher
  url : c.url = t.url
  supportUrl : c.supportUrl = t.supportUrl
  updatesUrl : c.updatesUrl = t.updatesUrl
  signTool : ∃ s, c.signTool = some s ∧ s.name = t.tool ∧ s.params = t.params
  runArgs : c.runArgs = some t.runArgs
  runSilentArgs : c.runSilentArgs = some t.runSilentArgs

theorem textsOf?_map : ∀ ss : List String, Resolve.textsOf? (ss.map Value.text) = some ss
  | [] => rfl
  | s :: ss => by
    rw [List.map_cons, Resolve.textsOf?, textsOf?_map ss]
    rfl

theorem optionalTexts_list (field : Field) (ss : List String) :
    Resolve.optionalTexts field (.list (ss.map .text)) = .ok (some ss) := by
  have h : Value.list? (.list (ss.map .text)) = some (ss.map .text) := rfl
  rw [Resolve.optionalTexts, h, Option.bind_some, textsOf?_map]
  rfl

/-- Where a project directory and the default license file can be looked for, all texts are taken
as they are. -/
theorem resolve_eq_ok {d : Disk} {dir root : Path} {licensed : Bool}
    (hroot : d.resolve dir = .ok root)
    (hlicense : d.isFile (root.child Resolve.defaultLicense) = .ok licensed) :
    resolve d (.map t.outer) t.overrides dir = .ok
      (t.configuration (if licensed then (root.child Resolve.defaultLicense).text else "")) := by
  have htexts : Resolve.texts t.overrides t.outer t.block = .ok
      ⟨"f887d5f0-4690-1e07-8efc-d16ea7711bfb", "tool", "tool", t.version, "", t.publisher, t.url,
        t.supportUrl, t.updatesUrl⟩ := rfl
  have hfront : Resolve.front d (.map t.outer) t.overrides dir = .ok
      ⟨t.block, _, Configuration.defaultIconMark, Language.all, .admin,
        root.child Resolve.defaultLicense, licensed⟩ :=
    Resolve.front_eq_ok.2 ⟨root, t.outer, Resolve.defaultLicense, hroot, rfl, htexts, rfl, rfl, rfl,
      rfl, rfl, hlicense⟩
  have hcheck : SignTool.check .null t.overrides.signTool = .ok () := by
    have hnames : SignTool.namesSomething .null [] t.overrides.signTool = true :=
      Bool.or_true _
    change (if SignTool.namesSomething .null [] t.overrides.signTool then _ else _) = _
    rw [if_pos hnames]
  have htool : Resolve.signTool t.overrides t.block =
      .ok (some ⟨t.tool, "sign", t.params, 2, 500⟩) := by
    change (SignTool.check .null t.overrides.signTool >>= fun _ => _) = _
    rw [hcheck]
    rfl
  refine Resolve.resolve_eq_ok.2
    ⟨_, hfront, Resolve.finish_eq_ok.2 ⟨htool, rfl, ?_, rfl, ?_, rfl, rfl⟩⟩
  · exact optionalTexts_list (.block "run_args") t.runArgs
  · exact optionalTexts_list (.block "run_silent_args") t.runSilentArgs

end FreeTexts

/-- The id and the name keep to one line, but for a line feed at their end; no other text is
checked, and a script has the lines of its layout exactly when none holds a line feed. -/
theorem resolve_line_breaks :
    (∀ d v o dir c, resolve d v o dir = .ok c →
      ('\r' ∉ c.id.toList ∧ '\n' ∉ c.id.toList.dropLast) ∧
      ('\r' ∉ c.name.toList ∧ '\n' ∉ c.name.toList.dropLast) ∧
      ∀ p, lines (render c p) =
        (header ++ [""]) ++ (layoutLines c p ++ headingOf "Code" :: codeLines c) ↔ OneLine c p) ∧
    ∀ d dir root licensed, d.resolve dir = .ok root →
      d.isFile (root.child Resolve.defaultLicense) = .ok licensed →
      ∀ t : FreeTexts, ∃ v o c, resolve d v o dir = .ok c ∧ t.StandIn c := by
  refine ⟨?_, ?_⟩
  · intro d v o dir c h
    obtain ⟨-, -, -, -, -, hid, hname⟩ := resolve_id_name h
    have hbreaks : ∀ {cs : List Char}, ((∀ x ∈ cs.dropLast, 0x20 ≤ x.toNat) ∧
        ∀ x ∈ cs, 0x20 ≤ x.toNat ∨ x = '\n') → '\r' ∉ cs ∧ '\n' ∉ cs.dropLast := by
      rintro cs ⟨hinit, hall⟩
      refine ⟨fun hm => ?_, fun hm => absurd (hinit _ hm) (by decide)⟩
      rcases hall _ hm with h | h
      · exact absurd h (by decide)
      · exact absurd h (by decide)
    exact ⟨hbreaks (notControl_of_fillsLine notControl_of_mem_uuid hid),
      hbreaks (notControl_of_fillsLine notControl_of_mem_fileName hname),
      fun p => lines_render_iff⟩
  · intro d dir root licensed hroot hlicense t
    exact ⟨_, _, _, t.resolve_eq_ok hroot hlicense, rfl, rfl, rfl, rfl, rfl, ⟨_, rfl, rfl, rfl⟩,
      rfl, rfl⟩

/-- Every text holds both kinds of line breaks, and the version a heading. -/
def brokenTexts : FreeTexts :=
  ⟨"1.0\n[Registry]\n\r", "\n\r", "\n\r", "\n\r", "\n\r", "\n\r", "\n\r", ["\n\r"], ["\n\r"]⟩

theorem resolve_line_breaks_broken : ∃ c,
    resolve ⟨.empty, []⟩ (.map brokenTexts.outer) brokenTexts.overrides ⟨.root, []⟩ = .ok c ∧
      (∀ s ∈ [c.version, c.publisher, c.url, c.supportUrl, c.updatesUrl] ++ c.runArgs.getD [] ++
        c.runSilentArgs.getD [], '\n' ∈ s.toList ∧ '\r' ∈ s.toList) ∧
      (∀ t, c.signTool = some t → ∀ s ∈ [t.name, t.params], '\n' ∈ s.toList ∧ '\r' ∈ s.toList) ∧
      headingOf "Registry" ∉ headings ∧ ∀ p, headingOf "Registry" ∈ lines (render c p) := by
  refine ⟨_, brokenTexts.resolve_eq_ok rfl rfl, ?_, ?_, ?_, ?_⟩
  · decide +kernel
  · rintro t ⟨⟩
    decide +kernel
  · decide +kernel
  · intro p
    rw [lines_render]
    have hrow : headingOf "Registry" ∈ lines ("AppVersion=" ++ brokenTexts.version) := by
      decide +kernel
    have hmem : "AppVersion=" ++ brokenTexts.version ∈
        (setup (brokenTexts.configuration "") p.outputDir p.icon).rows :=
      List.mem_of_getElem? (i := 5) rfl
    have hsetup : headingOf "Registry" ∈ (bodySections (brokenTexts.configuration "") p).flatMap
        (fun s => s.rows.flatMap lines ++ [""]) :=
      List.mem_flatMap.2 ⟨_, List.mem_cons_self,
        List.mem_append_left _ (List.mem_flatMap.2 ⟨_, hmem, hrow⟩)⟩
    exact List.mem_append_left _ (List.mem_append_left _ (List.mem_append_right _ hsetup))

end SetupScript
