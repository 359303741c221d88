import SetupScript.Proofs.Text.Words
import SetupScript.Script.Sections

/-!
# The lines of a script

A script cut at its line feeds is its sections one after the other (`lines_render`), whatever the
texts in it hold. Each line that a section lists starts with a letter
(`startsWithLetter_of_mem`), so it is neither empty nor a heading.
-/

namespace SetupScript.Script

open Text

/-- The text that opens a section. -/
def headingOf (name : String) : String := "[" ++ name ++ "]"

/-- The heading of a section and its lines. -/
def Section.rows (s : Section) : List String := headingOf s.heading :: s.lines

/-- The sections before the code section. -/
def bodySections (c : Configuration) (p : ScriptParts) : List Section :=
  [setup c p.outputDir p.icon, installDelete, languages c, tasks, files c p.entries p.libraries,
    icons c, run c]

theorem sections_eq (c : Configuration) (p : ScriptParts) :
    sections c p = bodySections c p ++ [code c] := rfl

theorem lines_text (s : Section) : lines s.text = s.rows.flatMap lines :=
  lines_intercalate _ _

theorem lines_append_blank (s t : String) :
    lines (s ++ "\n\n" ++ t) = lines s ++ "" :: lines t := by
  have h : s ++ "\n\n" ++ t = s ++ "\n" ++ ("" ++ "\n" ++ t) := by
    rw [show "\n\n" = "\n" ++ "\n" from rfl, String.empty_append]
    simp only [String.append_assoc]
  rw [h, lines_append_feed, lines_append_feed]
  rfl

theorem lines_intercalate_blank (s : String) : ∀ ss : List String,
    lines ("\n\n".intercalate (ss ++ [s])) = ss.flatMap (fun t => lines t ++ [""]) ++ lines s
  | [] => by simp
  | [t] => by
    simp [String.intercalate_cons_cons, lines_append_blank]
  | t :: u :: ss => by
    have ih := lines_intercalate_blank s (u :: ss)
    simp only [List.cons_append] at ih ⊢
    rw [String.intercalate_cons_cons, lines_append_blank, ih]
    simp

/-- The lines of a script, of which a text placed on one can make several. -/
theorem lines_render (c : Configuration) (p : ScriptParts) :
    lines (render c p) = header ++ [""] ++
      (bodySections c p).flatMap (fun s => s.rows.flatMap lines ++ [""]) ++
      (code c).rows.flatMap lines ++ [""] := by
  have hheader : lines ("\n".intercalate header) = header :=
    lines_intercalate_of_isLine (by decide) (by decide)
  have hfeed : ∀ s : String, lines (s ++ "\n") = lines s ++ [""] := by
    intro s
    have h := lines_append_feed s ""
    rwa [String.append_empty] at h
  rw [render, hfeed, lines_append_blank, hheader, sections_eq, List.map_append, List.map_singleton,
    lines_intercalate_blank, lines_text]
  simp [List.flatMap_map, lines_text]

/-! ## How lines start -/

def StartsWithLetter (s : String) : Prop := ∃ c, s.toList.head? = some c ∧ c.isAlpha = true

theorem startsWithLetter_ofList {c : Char} {cs : List Char} (h : c.isAlpha = true) :
    StartsWithLetter (String.ofList (c :: cs)) :=
  ⟨c, by simp, h⟩

theorem StartsWithLetter.append {s : String} (h : StartsWithLetter s) (t : String) :
    StartsWithLetter (s ++ t) := by
  obtain ⟨c, hc, ha⟩ := h
  exact ⟨c, by simp [hc], ha⟩

theorem StartsWithLetter.ne_empty {s : String} (h : StartsWithLetter s) : s ≠ "" := by
  rintro rfl
  obtain ⟨c, hc, -⟩ := h
  simp at hc

theorem StartsWithLetter.ne_headingOf {s : String} (h : StartsWithLetter s) (name : String) :
    s ≠ headingOf name := by
  rintro rfl
  obtain ⟨c, hc, ha⟩ := h
  simp only [headingOf, String.toList_append, String.reduceToList, List.cons_append,
    List.head?_cons, Option.some.injEq] at hc
  subst hc
  exact absurd ha (by decide)

theorem stripRight_signTool (s : String) :
    stripRight ("SignTool=" ++ s) = "SignTool=" ++ stripRight s := by
  have h : ("SignTool=" ++ s).toList = "SignTool".toList ++ '=' :: s.toList := by simp
  rw [stripRight, h, trimRight_append_cons (by decide), ← String.toList_inj]
  simp [stripRight]

theorem directives_eq (t : SignTool) : t.directives =
    ["SignTool=" ++ stripRight (t.name ++ " " ++ t.params),
      "SignToolRetryCount=" ++ toString t.retryCount,
      "SignToolRetryDelay=" ++ toString t.retryDelay] := by
  have hname : "SignTool=" ++ t.name ++ " " ++ t.params
      = "SignTool=" ++ (t.name ++ " " ++ t.params) := by
    simp only [String.append_assoc]
  rw [SignTool.directives, hname, stripRight_signTool]

theorem startsWithLetter_setup {c : Configuration} {outputDir icon : String} :
    ∀ l ∈ (setup c outputDir icon).lines, StartsWithLetter l := by
  have hlicense : ∀ l ∈ licenseLines c, StartsWithLetter l := by
    unfold licenseLines
    split_ifs
    · simp
    · refine List.forall_mem_singleton.2 (StartsWithLetter.append ?_ _)
      exact startsWithLetter_ofList (by decide)
  have hprivilege : ∀ l ∈ privilegeLines c, StartsWithLetter l := by
    unfold privilegeLines
    cases c.privilege with
    | admin => exact List.forall_mem_singleton.2 (startsWithLetter_ofList (by decide))
    | nonAdmin => exact List.forall_mem_singleton.2 (startsWithLetter_ofList (by decide))
    | auto =>
      exact List.forall_mem_cons.2 ⟨startsWithLetter_ofList (by decide),
        List.forall_mem_singleton.2 (startsWithLetter_ofList (by decide))⟩
  have htool : ∀ l ∈ signToolLines c, StartsWithLetter l := by
    unfold signToolLines
    cases c.signTool with
    | none => simp
    | some t =>
      simp only [directives_eq, List.forall_mem_cons, List.not_mem_nil, false_imp_iff,
        forall_const, and_true]
      refine ⟨?_, ?_, ?_⟩ <;> refine StartsWithLetter.append ?_ _ <;>
        exact startsWithLetter_ofList (by decide)
  have hoptional : ((∀ l ∈ licenseLines c, StartsWithLetter l) ↔ True) ∧
      ((∀ l ∈ privilegeLines c, StartsWithLetter l) ↔ True) ∧
      ((∀ l ∈ signToolLines c, StartsWithLetter l) ↔ True) :=
    ⟨iff_true_intro hlicense, iff_true_intro hprivilege, iff_true_intro htool⟩
  simp only [setup, List.forall_mem_append, List.forall_mem_cons, hoptional, List.not_mem_nil,
    false_imp_iff, forall_const, and_true, and_assoc]
  refine ⟨?_, ?_, ?_, ?_, ?_, ?_, ?_, ?_, ?_, ?_, ?_, ?_, ?_, ?_, ?_, ?_, ?_, ?_, ?_, ?_⟩
  all_goals
    repeat apply StartsWithLetter.append
    exact startsWithLetter_ofList (by decide)

theorem startsWithLetter_files {c : Configuration} {entries : List AppEntry}
    {libraries : List String} : ∀ l ∈ (files c entries libraries).lines, StartsWithLetter l := by
  have hfile : ∀ source, StartsWithLetter (fileLine source) := by
    intro source
    unfold fileLine
    repeat apply StartsWithLetter.append
    exact startsWithLetter_ofList (by decide)
  have hentry : ∀ e, StartsWithLetter (entryLine c e) := by
    intro e
    unfold entryLine
    split_ifs
    · repeat apply StartsWithLetter.append
      exact startsWithLetter_ofList (by decide)
    · repeat apply StartsWithLetter.append
      exact startsWithLetter_ofList (by decide)
    · exact hfile e.source
  exact List.forall_mem_append.2
    ⟨List.forall_mem_map.2 fun e _ => hentry e, List.forall_mem_map.2 fun l _ => hfile l⟩

theorem startsWithLetter_icons {c : Configuration} : ∀ l ∈ (icons c).lines, StartsWithLetter l := by
  have hicon : ∀ place, StartsWithLetter (iconLine c place) := by
    intro place
    unfold iconLine
    repeat apply StartsWithLetter.append
    exact startsWithLetter_ofList (by decide)
  exact List.forall_mem_cons.2
    ⟨hicon _, List.forall_mem_singleton.2 ((hicon _).append _)⟩

theorem startsWithLetter_run {c : Configuration} : ∀ l ∈ (run c).lines, StartsWithLetter l := by
  have hlaunch : ∀ args flags check, StartsWithLetter (launchLine c args flags check) := by
    intro args flags check
    unfold launchLine
    repeat apply StartsWithLetter.append
    exact startsWithLetter_ofList (by decide)
  unfold run
  refine List.forall_mem_append.2 ⟨?_, ?_⟩
  · cases c.runArgs with
    | none => simp
    | some args => exact List.forall_mem_singleton.2 (hlaunch args _ _)
  · split
    · exact List.forall_mem_singleton.2 (hlaunch _ _ _)
    · simp

/-- A line below a heading starts with a letter. -/
theorem startsWithLetter_of_mem {c : Configuration} {p : ScriptParts} {s : Section}
    (hs : s ∈ bodySections c p) : ∀ l ∈ s.lines, StartsWithLetter l := by
  simp only [bodySections, List.mem_cons, List.not_mem_nil, or_false] at hs
  rcases hs with rfl | rfl | rfl | rfl | rfl | rfl | rfl
  · exact startsWithLetter_setup
  · refine List.forall_mem_singleton.2 ?_
    repeat apply StartsWithLetter.append
    exact startsWithLetter_ofList (by decide)
  · refine List.forall_mem_map.2 fun l _ => ?_
    unfold Language.entry
    repeat apply StartsWithLetter.append
    exact startsWithLetter_ofList (by decide)
  · refine List.forall_mem_singleton.2 ?_
    repeat apply StartsWithLetter.append
    exact startsWithLetter_ofList (by decide)
  · exact startsWithLetter_files
  · exact startsWithLetter_icons
  · exact startsWithLetter_run

end SetupScript.Script
