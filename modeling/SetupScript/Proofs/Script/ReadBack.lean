import SetupScript.Build
import SetupScript.Proofs.Script.OneLine
import SetupScript.Proofs.Script.Settings

/-!
# Reading a script back

A script whose texts keep to their lines is read back: cut at its empty lines, what stands before
the code section is its sections (`blocks_render`), and cut at their first equals signs, the lines
of the setup section are the settings of the configuration, each key on one line
(`directives_render`). The code at the end can hold anything, as the first heading of a code
section is the script's own.
-/

namespace SetupScript.Script

open Text

/-- The names of the sections before the code section. -/
def bodyNames : List String :=
  ["Setup", "InstallDelete", "Languages", "Tasks", "Files", "Icons", "Run"]

def headings : List String := (bodyNames ++ ["Code"]).map headingOf

/-- The lines between the comments at the top and the code section. -/
def body (text : String) : List String :=
  ((lines text).drop (header ++ [""]).length).takeWhile (· != headingOf "Code")

/-- The lines from the heading of the code section on. -/
def codePart (text : String) : List String :=
  (lines text).dropWhile (· != headingOf "Code")

def blocks (text : String) : List (List String) := splitAll (· == "") (body text)

/-- The lines of the first block below its heading, each cut at its first equals sign. -/
def directives (text : String) : List (Option (String × String)) :=
  ((blocks text).headD []).tail.map directive?

def value? (text key : String) : Option String := (directives text).reduceOption.lookup key

/-! ## Blocks -/

section Blocks

variable {c : Configuration} {p : ScriptParts}

theorem row_ne_empty {s : Section} (hs : s ∈ bodySections c p) : ∀ r ∈ s.rows, r ≠ "" := by
  have hheading : headingOf s.heading ≠ "" := by
    intro h
    simpa [headingOf] using congrArg String.toList h
  exact List.forall_mem_cons.2 ⟨hheading, fun l hl => (startsWithLetter_of_mem hs l hl).ne_empty⟩

theorem heading_mem_bodyNames {s : Section} (hs : s ∈ bodySections c p) : s.heading ∈ bodyNames :=
  List.mem_map_of_mem (f := Section.heading) hs

theorem row_ne_code {s : Section} (hs : s ∈ bodySections c p) :
    ∀ r ∈ s.rows, r ≠ headingOf "Code" := by
  have hnames : ∀ name ∈ bodyNames, headingOf name ≠ headingOf "Code" := by decide +kernel
  have hlines : ∀ l ∈ s.lines, l ≠ headingOf "Code" :=
    fun l hl => (startsWithLetter_of_mem hs l hl).ne_headingOf "Code"
  exact List.forall_mem_cons.2 ⟨hnames _ (heading_mem_bodyNames hs), hlines⟩

/-- What follows the heading of the code section. -/
def codeLines (c : Configuration) : List String :=
  let appended := stripLines (c.appendedCode.getD "")
  silentCheck ++ (if appended = "" then [] else "" :: lines appended) ++ [""]

theorem lines_code : (code c).rows.flatMap lines ++ [""] = headingOf "Code" :: codeLines c := by
  have hcheck : ∀ l ∈ headingOf "Code" :: silentCheck, IsLine l := by decide +kernel
  have happend : ∀ s : String, (if s == "" then [] else ["", s]).flatMap lines =
      if s = "" then [] else "" :: lines s := by
    intro s
    by_cases hs : s = "" <;> simp [hs]
  have hrows : (code c).rows = (headingOf "Code" :: silentCheck) ++
      if stripLines (c.appendedCode.getD "") == "" then []
      else ["", stripLines (c.appendedCode.getD "")] := rfl
  rw [hrows, List.flatMap_append, (flatMap_lines_eq_self_iff _).2 hcheck, happend, codeLines]
  rfl

/-- The lines of the layout, each block with an empty line below it. -/
def layoutLines (c : Configuration) (p : ScriptParts) : List String :=
  ((bodySections c p).map Section.rows).flatMap (· ++ [""])

theorem isLine_layoutLines : (∀ l ∈ layoutLines c p, IsLine l) ↔ OneLine c p := by
  have hnames : ∀ name ∈ bodyNames, IsLine (headingOf name) := by decide +kernel
  have hrows : ∀ s ∈ bodySections c p, (∀ r ∈ s.rows, IsLine r) ↔ ∀ l ∈ s.lines, IsLine l := by
    intro s hs
    rw [Section.rows, List.forall_mem_cons, and_iff_right (hnames _ (heading_mem_bodyNames hs))]
  rw [oneLine_iff, layoutLines, List.flatMap_map]
  constructor
  · intro h s hs
    refine (hrows s hs).1 fun r hr => h r ?_
    exact List.mem_flatMap.2 ⟨s, hs, List.mem_append_left _ hr⟩
  · intro h l hl
    obtain ⟨s, hs, hl⟩ := List.mem_flatMap.1 hl
    rcases List.mem_append.1 hl with hl | hl
    · exact (hrows s hs).2 (h s hs) l hl
    · exact List.mem_singleton.1 hl ▸ isLine_empty

/-- Before the code section a script has exactly the lines of its layout, unless a text placed on
a single line holds a line feed. -/
theorem lines_render_iff : lines (render c p) =
    (header ++ [""]) ++ (layoutLines c p ++ headingOf "Code" :: codeLines c) ↔ OneLine c p := by
  have hbody : (bodySections c p).flatMap (fun s => s.rows.flatMap lines ++ [""]) =
      (layoutLines c p).flatMap lines := by
    simp [layoutLines, List.flatMap_map, List.flatMap_assoc]
  rw [lines_render, hbody, ← lines_code, ← isLine_layoutLines, ← flatMap_lines_eq_self_iff]
  simp only [List.append_assoc, List.append_cancel_left_eq, List.append_cancel_right_eq]

theorem layoutLine_ne_code : ∀ l ∈ layoutLines c p, (l != headingOf "Code") = true := by
  intro l hl
  simp only [layoutLines, List.mem_flatMap, List.mem_map, List.mem_append, List.mem_singleton] at hl
  obtain ⟨-, ⟨s, hs, rfl⟩, hl | rfl⟩ := hl
  · exact bne_iff_ne.2 (row_ne_code hs l hl)
  · decide +kernel

theorem body_render (h : OneLine c p) : body (render c p) = layoutLines c p := by
  rw [body, lines_render_iff.2 h, List.drop_left, List.takeWhile_append_of_pos layoutLine_ne_code]
  simp

theorem codePart_render (h : OneLine c p) :
    codePart (render c p) = headingOf "Code" :: codeLines c := by
  have htop : ∀ l ∈ header ++ [""], (l != headingOf "Code") = true := by decide +kernel
  rw [codePart, lines_render_iff.2 h, List.dropWhile_append_of_pos htop,
    List.dropWhile_append_of_pos layoutLine_ne_code]
  simp

/-- Cut at its empty lines, a script before its code section is its sections. -/
theorem blocks_render (h : OneLine c p) :
    blocks (render c p) = (bodySections c p).map Section.rows ++ [[]] := by
  rw [blocks, body_render h]
  refine splitAll_flatMap_concat (by rfl) (List.forall_mem_map.2 fun s hs r hr => ?_)
  exact beq_eq_false_iff_ne.2 (row_ne_empty hs r hr)

theorem directives_render (h : OneLine c p) :
    directives (render c p) =
      ((settings c p.outputDir p.icon).filterMap Setting.pair?).map some := by
  have hlines : directives (render c p) = (setup c p.outputDir p.icon).lines.map directive? := by
    rw [directives, blocks_render h]
    rfl
  rw [hlines, setup_lines, map_directive?_line (notMem_keys c p.outputDir p.icon)]

end Blocks

/-! ## Reading back -/

/-- A text is cut into the sections of a script, with the lines of the setup section giving back
the settings of a configuration. -/
structure ReadsBack (c : Configuration) (p : ScriptParts) (text : String) : Prop where
  top : (lines text).take (header ++ [""]).length = header ++ [""]
  -- The empty line above the code section leaves an empty piece behind the last block.
  heads : (blocks text).map List.head? = bodyNames.map (some ∘ headingOf) ++ [none]
  plain : ∀ b ∈ blocks text, ∀ l ∈ b.tail, l ≠ "" ∧ l ∉ headings
  setup : directives text = ((settings c p.outputDir p.icon).filterMap Setting.pair?).map some
  distinct : ((directives text).reduceOption.map Prod.fst).Nodup
  values : ∀ s ∈ settings c p.outputDir p.icon, value? text s.1 = s.2
  code : codePart text = headingOf "Code" :: codeLines c

theorem readsBack_render {c : Configuration} {p : ScriptParts} (h : OneLine c p) :
    ReadsBack c p (render c p) := by
  have hread : (directives (render c p)).reduceOption =
      (settings c p.outputDir p.icon).filterMap Setting.pair? := by
    change List.filterMap id _ = _
    rw [directives_render h, List.filterMap_map]
    exact List.filterMap_some
  refine ⟨?_, ?_, ?_, directives_render h, ?_, ?_, codePart_render h⟩
  · rw [lines_render_iff.2 h, List.take_left]
  · rw [blocks_render h]
    rfl
  · rw [blocks_render h]
    intro b hb l hl
    rcases List.mem_append.1 hb with hb | hb
    · obtain ⟨s, hs, rfl⟩ := List.mem_map.1 hb
      have hletter := startsWithLetter_of_mem hs l hl
      refine ⟨hletter.ne_empty, fun hm => ?_⟩
      obtain ⟨name, -, rfl⟩ := List.mem_map.1 hm
      exact hletter.ne_headingOf name rfl
    · rw [List.mem_singleton.1 hb] at hl
      simp at hl
  · rw [hread]
    exact (nodup_keys c p.outputDir p.icon).sublist (map_fst_pair?_sublist _)
  · intro s hs
    rw [value?, hread, lookup_pair? (nodup_keys c p.outputDir p.icon) s hs]

end SetupScript.Script

/-! ## The script of a build -/

namespace SetupScript.Builder

open Script

theorem render_eq {b : Builder} {icon : String} {libraries : List Path} {s s' : Session}
    {entries : List AppEntry} (hlist : b.entries s = (.ok entries, s')) :
    b.render icon libraries s =
      if b.config.signTool.all SignTool.isWritable then
        (.ok (Script.render b.config (b.parts icon entries libraries)), s')
      else (.error (.defect .numberTooLong), s) := by
  unfold Builder.render
  cases b.config.signTool.all SignTool.isWritable with
  | true => exact Work.bind_of_ok hlist _
  | false => rfl

/-- When the application's build can be listed and no text on a single line holds a line feed, the
script reads back as the configuration; it is not written only for a number too long to write. -/
theorem render_readsBack {b : Builder} {icon : String} {libraries : List Path} {s s' : Session}
    {entries : List AppEntry} (hlist : b.entries s = (.ok entries, s'))
    (hline : OneLine b.config (b.parts icon entries libraries)) :
    ∃ text, ReadsBack b.config (b.parts icon entries libraries) text ∧
      b.render icon libraries s =
        if b.config.signTool.all SignTool.isWritable then (.ok text, s')
        else (.error (.defect .numberTooLong), s) :=
  ⟨_, readsBack_render hline, render_eq hlist⟩

def sample : Builder where
  config :=
    { id := "f887d5f0-4690-1e07-8efc-d16ea7711bfb", declaredName := "tool", name := "tool"
      description := "", version := "1.0=[Run]", publisher := "P", url := "u", supportUrl := ""
      updatesUrl := "", iconText := "a.ico", licenseText := "LICENSE"
      signTool := some ⟨"sign", "c", "", 2, 500⟩, languages := [.english, .french]
      privilege := .auto, architecture := .x64, variant := .release, app := true
      installer := true, buildArgs := none, runArgs := some ["--first"], runIfSilent := false
      runSilentArgs := none, appendedCode := some "\n[Setup]\n\n[Code]\nAppId=1\n" }
  appDir := ⟨.root, ["app"]⟩
  projectDir := ⟨.root, ["project"]⟩
  tempDir := ⟨.root, ["tmp"]⟩
  systemDirs := []
  logger := "builder"

def sampleSession : Session :=
  .begin ⟨(FileTree.empty.put ["app"] .dir).put ["app", "tool.exe"] (.file .empty), []⟩
    ⟨.root, ["tmp"]⟩ ""

theorem render_readsBack_sample : ∃ text,
    ReadsBack sample.config (sample.parts "a.ico" [⟨"tool.exe", "/app/tool.exe", false⟩] []) text ∧
      sample.render "a.ico" [] sampleSession = (.ok text, sampleSession) := by
  have hlist : sample.entries sampleSession =
      (.ok [⟨"tool.exe", "/app/tool.exe", false⟩], sampleSession) := by
    have hnames : Work.ask (·.names sample.appDir) sampleSession =
        (.ok ["tool.exe"], sampleSession) := rfl
    rw [Builder.entries, Work.bind_of_ok hnames, List.mergeSort_singleton]
    rfl
  have hline : OneLine sample.config
      (sample.parts "a.ico" [⟨"tool.exe", "/app/tool.exe", false⟩] []) := by
    constructor
    all_goals simp only [sample, parts, Option.some.injEq, forall_eq', Bool.false_eq_true,
      false_imp_iff, forall_const]
    all_goals decide +kernel
  have hwritable : sample.config.signTool.all SignTool.isWritable = true := by decide +kernel
  obtain ⟨text, hread, hrender⟩ := render_readsBack hlist hline
  exact ⟨text, hread, hrender.trans (if_pos hwritable)⟩

end SetupScript.Builder
