import SetupScript.Proofs.Script.Characters
import SetupScript.Proofs.Text.CodePoints

/-!
# Scripts that have bytes

A character that no text of a configuration and of the parts holds is in their script only if it is
printable ASCII or a line feed (`lacks_render`). So a script has bytes where no mark is among its
texts (`isEncodable_render`).
-/

namespace SetupScript

/-- The texts of a configuration that can get into a script. -/
def Configuration.texts (c : Configuration) : List String :=
  [c.id, c.name, c.version, c.publisher, c.url, c.supportUrl, c.updatesUrl, c.iconText,
    c.licenseText] ++ (c.signTool.toList.flatMap fun t => [t.name, t.params]) ++
    c.runArgs.getD [] ++ c.runSilentArgs.getD [] ++ c.appendedCode.toList

def ScriptParts.texts (p : ScriptParts) : List String :=
  [p.outputDir, p.icon] ++ (p.entries.flatMap fun e => [e.name, e.source]) ++ p.libraries

namespace Text

variable {x : Char} {s : String}

theorem Lacks.trimRight {p : Char → Bool} (h : Lacks x s) :
    Lacks x (String.ofList (trimRight p s.toList)) := by
  rw [Lacks, String.toList_ofList]
  exact fun hmem => h ((trimRight_isPrefix _).mem hmem)

theorem Lacks.stripLines (h : Lacks x s) : Lacks x (stripLines s) := by
  have hdropped : Lacks x (String.ofList (s.toList.dropWhile (· == '\n'))) := by
    rw [Lacks, String.toList_ofList]
    exact fun hmem => h ((List.dropWhile_suffix _).mem hmem)
  have htrimmed := hdropped.trimRight (p := (· == '\n'))
  rwa [String.toList_ofList] at htrimmed

theorem Lacks.intercalate (h : Lacks x s) : ∀ {ss : List String}, (∀ t ∈ ss, Lacks x t) →
    Lacks x (s.intercalate ss)
  | [], _ => List.not_mem_nil
  | [t], ht => by simpa using ht
  | t :: u :: ss, hss => by
    obtain ⟨ht, hrest⟩ := List.forall_mem_cons.1 hss
    rw [String.intercalate_cons_cons, lacks_append, lacks_append]
    exact ⟨⟨ht, h⟩, h.intercalate hrest⟩

theorem noUpperForm_mark : NoUpperForm (· == mark) := by decide +kernel

end Text

namespace Script

open Text

variable {c : Configuration} {p : ScriptParts} {x : Char} (hx : Foreign x)

include hx

theorem lacks_bodySections (hjoined : Lacks x c.joinedName) (hc : ∀ s ∈ c.texts, Lacks x s)
    (hp : ∀ s ∈ p.texts, Lacks x s) : ∀ s ∈ bodySections c p, ∀ l ∈ s.lines, Lacks x l := by
  simp only [Configuration.texts, ScriptParts.texts, List.forall_mem_append, List.forall_mem_cons,
    List.forall_mem_flatMap] at hc hp
  obtain ⟨⟨⟨⟨⟨hid, hname, hversion, hpublisher, hurl, hsupport, hupdates, -, hlicense, -⟩, htool⟩,
    hargs⟩, hsilent⟩, -⟩ := hc
  obtain ⟨⟨⟨hout, hicon, -⟩, hentries⟩, hlibraries⟩ := hp
  have hsigned : ∀ t, c.signTool = some t → Lacks x (stripRight (t.name ++ " " ++ t.params)) := by
    intro t ht
    have htexts := htool t (by rw [ht]; exact List.mem_singleton.2 rfl)
    refine Lacks.trimRight (lacks_append.2 ⟨lacks_append.2 ⟨htexts.1, ?_⟩, htexts.2.1⟩)
    exact lacks_ofList hx (by decide)
  have hrun : (∀ args, c.runArgs = some args → ∀ a ∈ args, Lacks x a) ∧
      ∀ args, c.runIfSilent = true → c.runSilentArgs = some args → ∀ a ∈ args, Lacks x a := by
    constructor
    · intro args h
      rwa [h] at hargs
    · intro args _ h
      rwa [h] at hsilent
  simp only [bodySections, List.forall_mem_cons, lacks_setup hx hjoined, lacks_icons hx]
  refine ⟨?_, lacks_installDelete hx, lacks_languages hx, lacks_tasks hx, ?_, hname,
    (lacks_run hx hname).2 hrun, by simp⟩
  · exact ⟨hid, hname, hversion, hpublisher, hurl, hsupport, hupdates, hlicense, hout, hicon,
      hsigned⟩
  · exact (lacks_files hx hname).2
      ⟨fun e he => ⟨(hentries e he).2.1, fun _ => (hentries e he).1⟩, hlibraries⟩

theorem lacks_heading : ∀ s ∈ sections c p, Lacks x s.heading := by
  have hheadings : ∀ heading ∈ (sections c p).map Section.heading,
      heading.toList.all isPrintableAscii = true := by
    change ∀ heading ∈ ["Setup", "InstallDelete", "Languages", "Tasks", "Files", "Icons", "Run",
      "Code"], _
    decide
  exact fun s hs => hx.notMem (hheadings _ (List.mem_map_of_mem hs))

theorem lacks_code (hc : ∀ s ∈ c.texts, Lacks x s) :
    ∀ l ∈ (code c).lines, Lacks x l := by
  have hcheck : ∀ l ∈ silentCheck, l.toList.all isPrintableAscii = true := by decide
  have happended : Lacks x (stripLines (c.appendedCode.getD "")) := by
    refine Lacks.stripLines ?_
    cases hcode : c.appendedCode with
    | none => exact List.not_mem_nil
    | some s =>
      refine hc s (List.mem_append_right _ ?_)
      rw [hcode]
      exact List.mem_singleton.2 rfl
  unfold code
  refine List.forall_mem_append.2 ⟨fun l hl => hx.notMem (hcheck l hl), ?_⟩
  split_ifs
  · simp
  · exact List.forall_mem_cons.2 ⟨List.not_mem_nil, List.forall_mem_singleton.2 happended⟩

/-- A script holds no other characters than those of its texts, printable ASCII and line feeds. -/
theorem lacks_render (hfeed : x ≠ '\n') (hjoined : Lacks x c.joinedName)
    (hc : ∀ s ∈ c.texts, Lacks x s) (hp : ∀ s ∈ p.texts, Lacks x s) : Lacks x (render c p) := by
  have hbreak : Lacks x "\n" ∧ Lacks x "\n\n" := by simp [Lacks, hfeed]
  have hheader : ∀ l ∈ header, l.toList.all isPrintableAscii = true := by decide
  have hlines : ∀ s ∈ sections c p, ∀ l ∈ s.lines, Lacks x l := by
    rw [sections_eq]
    exact List.forall_mem_append.2 ⟨lacks_bodySections hx hjoined hc hp,
      List.forall_mem_singleton.2 (lacks_code hx hc)⟩
  have htexts : ∀ t ∈ (sections c p).map Section.text, Lacks x t := by
    refine List.forall_mem_map.2 fun s hs => hbreak.1.intercalate ?_
    refine List.forall_mem_cons.2 ⟨?_, hlines s hs⟩
    rw [lacks_append, lacks_append]
    exact ⟨⟨lacks_ofList hx (by decide), lacks_heading hx s hs⟩, lacks_ofList hx (by decide)⟩
  have htop : Lacks x ("\n".intercalate header) :=
    hbreak.1.intercalate fun l hl => hx.notMem (hheader l hl)
  simp only [render, lacks_append, htop, hbreak.1, hbreak.2, hbreak.2.intercalate htexts, and_self]

omit hx in
/-- Texts without marks make a script without surrogates. -/
theorem isEncodable_render (hc : ∀ s ∈ c.texts, Lacks mark s) (hp : ∀ s ∈ p.texts, Lacks mark s) :
    isEncodable (render c p) = true := by
  have hname : Lacks mark c.name := hc _ (by simp [Configuration.texts])
  exact isEncodable_of_notMem (lacks_render rfl (by decide)
    (noUpperForm_mark.notMem_joinedWords hname) hc hp)

end Script

end SetupScript
