import SetupScript.Proofs.Script.Characters

/-!
# Texts on single lines

Many texts of a configuration are placed on one line of a script each. `OneLine` says that none of
them holds a line feed, and `oneLine_iff` that this is exactly what keeps the lines of the sections
whole.
-/

namespace SetupScript.Script

open Text

/-- No text placed on a single line holds a line feed. A sign tool stands on its line without the
blanks at the end, a file by where it lies, a directory also by its name, and arguments for a
silent start only where there is such a start. -/
structure OneLine (c : Configuration) (p : ScriptParts) : Prop where
  id : IsLine c.id
  name : IsLine c.name
  version : IsLine c.version
  publisher : IsLine c.publisher
  url : IsLine c.url
  supportUrl : IsLine c.supportUrl
  updatesUrl : IsLine c.updatesUrl
  license : IsLine c.licenseText
  signTool : ∀ t, c.signTool = some t → IsLine (stripRight (t.name ++ " " ++ t.params))
  runArgs : ∀ args, c.runArgs = some args → ∀ a ∈ args, IsLine a
  runSilentArgs : ∀ args, c.runIfSilent = true → c.runSilentArgs = some args →
    ∀ a ∈ args, IsLine a
  outputDir : IsLine p.outputDir
  icon : IsLine p.icon
  entries : ∀ e ∈ p.entries, IsLine e.source ∧ (e.isDir = true → IsLine e.name)
  libraries : ∀ l ∈ p.libraries, IsLine l

/-- The lines of the sections stay whole exactly when the texts placed on them do. -/
theorem oneLine_iff {c : Configuration} {p : ScriptParts} :
    OneLine c p ↔ ∀ s ∈ bodySections c p, ∀ l ∈ s.lines, IsLine l := by
  have hx : Foreign '\n' := rfl
  change _ ↔ ∀ s ∈ bodySections c p, ∀ l ∈ s.lines, Lacks '\n' l
  simp only [bodySections, List.forall_mem_cons, lacks_setup hx (isLine_joinedWords c.name),
    lacks_icons hx]
  constructor
  · intro h
    refine ⟨?_, lacks_installDelete hx, lacks_languages hx, lacks_tasks hx, ?_, h.name, ?_, by simp⟩
    · exact ⟨h.id, h.name, h.version, h.publisher, h.url, h.supportUrl, h.updatesUrl, h.license,
        h.outputDir, h.icon, h.signTool⟩
    · exact (lacks_files hx h.name).2 ⟨h.entries, h.libraries⟩
    · exact (lacks_run hx h.name).2 ⟨h.runArgs, h.runSilentArgs⟩
  · rintro ⟨⟨hid, hname, hversion, hpublisher, hurl, hsupport, hupdates, hlicense, hdir, hicon,
      htool⟩, -, -, -, hfiles, -, hrun, -⟩
    obtain ⟨hentries, hlibraries⟩ := (lacks_files hx hname).1 hfiles
    obtain ⟨hargs, hsilent⟩ := (lacks_run hx hname).1 hrun
    exact ⟨hid, hname, hversion, hpublisher, hurl, hsupport, hupdates, hlicense, htool, hargs,
      hsilent, hdir, hicon, hentries, hlibraries⟩

end SetupScript.Script
