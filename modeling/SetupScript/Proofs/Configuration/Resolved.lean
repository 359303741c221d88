import Mathlib.Data.List.Forall2
import SetupScript.Configuration.Resolve
import SetupScript.Proofs.Outcome

/-!
# What a configuration is read from

Each step of resolving succeeds exactly when everything it reads does: `texts_eq_ok` for the texts,
`front_eq_ok` up to the license file and `finish_eq_ok` for the rest. By `resolve_eq_ok` every field
of a configuration is then the result of one reading of the descriptor.
-/

namespace SetupScript

theorem Value.text?_eq_some {v : Value} {s : String} : v.text? = some s ↔ v = .text s := by
  unfold text?
  split
  · simp
  · rename_i h
    exact iff_of_false (by simp) (h s)

theorem Value.isNull_iff {v : Value} : v.isNull = true ↔ v = .null := by
  unfold isNull
  split
  · simp
  · rename_i h
    exact iff_of_false (by simp) h

/-- Values that name the same languages select the same. -/
theorem Language.selectAfter_congr {vs ws : List Value}
    (h : List.Forall₂ (fun v w => ofValue? v = ofValue? w) vs ws) : ∀ found : List Language,
      (selectAfter found vs).toOption = (selectAfter found ws).toOption := by
  induction h with
  | nil => exact fun _ => rfl
  | @cons v w vs ws hvw _ ih =>
    intro found
    rw [selectAfter, selectAfter, hvw]
    cases ofValue? w with
    | none => rfl
    | some l => exact ih _

namespace Resolve

variable {d : Disk} {v : Value} {o : Overrides} {dir : Path} {outer block : Fields}

theorem optionalText_eq_ok {field : Field} {r : Option String} : optionalText field v = .ok r ↔
    v = .null ∧ r = none ∨ ∃ s, v = .text s ∧ r = some s := by
  unfold optionalText
  split
  · simp [eq_comm]
  · simp [eq_comm]
  · rename_i hnull htext
    refine iff_of_false (by simp) ?_
    rintro (⟨h, -⟩ | ⟨s, h, -⟩)
    · exact hnull h
    · exact htext s h

theorem appId_eq_ok {s : String} : appId block = .ok s ↔
    block.field "id" = .text s ∧ Names.acceptsId s = true := by
  unfold appId
  split
  · rename_i t ht
    rw [ite_error_eq_ok, ht, Value.scalar.injEq, Scalar.text.injEq, and_comm]
    exact and_congr_right fun h => by rw [h]
  · rename_i h
    exact iff_of_false (by simp) fun hs => h s hs.1

theorem fileName_eq_ok {field : Field} {s t : String} : fileName field s = .ok t ↔
    s = t ∧ Names.acceptsName t = true := by
  rw [fileName, ite_error_eq_ok, and_comm]
  exact and_congr_right fun h => by rw [h]

theorem displayName_eq_ok {declared s : String} : displayName block declared = .ok s ↔
    (block.field "name" = .text s ∨ block.field "name" = .null ∧ declared = s) ∧
      Names.acceptsName s = true := by
  rw [displayName, bind_eq_ok]
  simp only [blockText, optionalText_eq_ok]
  constructor
  · rintro ⟨_, ⟨hnull, rfl⟩ | ⟨t, ht, rfl⟩, h⟩
    · obtain ⟨hs, hname⟩ := fileName_eq_ok.1 h
      exact ⟨.inr ⟨hnull, hs⟩, hname⟩
    · obtain ⟨rfl, hname⟩ := fileName_eq_ok.1 h
      exact ⟨.inl ht, hname⟩
  · rintro ⟨ht | ⟨hnull, hs⟩, hname⟩
    · exact ⟨some s, .inr ⟨s, ht, rfl⟩, fileName_eq_ok.2 ⟨rfl, hname⟩⟩
    · exact ⟨none, .inl ⟨hnull, rfl⟩, fileName_eq_ok.2 ⟨hs, hname⟩⟩

theorem declaredName_eq_ok {s : String} : declaredName outer = .ok s ↔
    outer.field "name" = .text s ∧ s ≠ "" := by
  unfold declaredName
  split
  · rename_i t ht
    rw [ht, Value.scalar.injEq, Scalar.text.injEq]
    by_cases he : t = ""
    · rw [if_pos (beq_iff_eq.2 he)]
      exact iff_of_false (by simp) fun h => h.2 (h.1 ▸ he)
    · rw [if_neg (by simpa using he), Except.ok.injEq]
      exact ⟨fun h => ⟨h, h ▸ he⟩, And.left⟩
  · rename_i h
    exact iff_of_false (by simp) fun hs => h s hs.1

theorem texts_eq_ok {t : Texts} : texts o outer block = .ok t ↔
    appId block = .ok t.id ∧ declaredName outer = .ok t.declaredName ∧
      displayName block t.declaredName = .ok t.name ∧ version o outer block = .ok t.version ∧
      description outer block = .ok t.description ∧ publisher outer block = .ok t.publisher ∧
      homeUrl outer block = .ok t.url ∧
      (∃ s, blockText block "support_url" = .ok s ∧ s.getD t.url = t.supportUrl) ∧
      ∃ s, blockText block "updates_url" = .ok s ∧ s.getD t.url = t.updatesUrl := by
  simp only [texts, bind_eq_ok, pure_eq_ok]
  constructor
  · rintro ⟨id, hid, declared, hdeclared, name, hname, version, hversion, description,
      hdescription, publisher, hpublisher, url, hurl, support, hsupport, updates, hupdates, rfl⟩
    exact ⟨hid, hdeclared, hname, hversion, hdescription, hpublisher, hurl,
      ⟨support, hsupport, rfl⟩, updates, hupdates, rfl⟩
  · rintro ⟨hid, hdeclared, hname, hversion, hdescription, hpublisher, hurl,
      ⟨support, hsupport, hs⟩, updates, hupdates, hu⟩
    refine ⟨_, hid, _, hdeclared, _, hname, _, hversion, _, hdescription, _, hpublisher, _, hurl,
      _, hsupport, _, hupdates, ?_⟩
    rw [hs, hu]

theorem front_eq_ok {f : Front} : front d v o dir = .ok f ↔
    ∃ root outer name, d.resolve dir = .ok root ∧ blocksOf v = .ok (outer, f.block) ∧
      texts o outer f.block = .ok f.texts ∧ icon d root f.block = .ok f.icon ∧
      languages f.block = .ok f.languages ∧
      Privilege.ofValue (f.block.field "admin") = .ok f.privilege ∧
      licenseName f.block = .ok name ∧ root.child name = f.license ∧
      d.isFile f.license = .ok f.licensed := by
  simp only [front, inquire, refuse, bind_eq_ok, pure_eq_ok, mapError_eq_ok]
  constructor
  · rintro ⟨root, hroot, ⟨outer, block⟩, hblocks, texts, htexts, icon, hicon, languages, hlanguages,
      privilege, hprivilege, name, hname, licensed, hlicensed, rfl⟩
    exact ⟨root, outer, name, hroot, hblocks, htexts, hicon, hlanguages, hprivilege, hname, rfl,
      hlicensed⟩
  · rintro ⟨root, outer, name, hroot, hblocks, htexts, hicon, hlanguages, hprivilege, hname,
      hlicense, hlicensed⟩
    refine ⟨root, hroot, _, hblocks, _, htexts, _, hicon, _, hlanguages, _, hprivilege, name, hname,
      f.licensed, ?_, ?_⟩
    · rw [hlicense, hlicensed]
    · rw [hlicense]

theorem finish_eq_ok {f : Front} {c : Configuration} : finish f o = .ok c ↔
    signTool o f.block = .ok c.signTool ∧
      Architecture.ofValue (f.block.field "arch") = .ok c.architecture ∧
      optionalTexts (.block "run_args") (f.block.field "run_args") = .ok c.runArgs ∧
      runIfSilent f.block = .ok c.runIfSilent ∧
      optionalTexts (.block "run_silent_args") (f.block.field "run_silent_args") =
        .ok c.runSilentArgs ∧
      blockText f.block "append_section_code" = .ok c.appendedCode ∧
      c = { c with
        id := f.texts.id, declaredName := f.texts.declaredName, name := f.texts.name
        description := f.texts.description, version := f.texts.version
        publisher := f.texts.publisher, url := f.texts.url, supportUrl := f.texts.supportUrl
        updatesUrl := f.texts.updatesUrl, iconText := f.icon
        licenseText := if f.licensed then f.license.text else ""
        languages := f.languages, privilege := f.privilege, variant := o.variant, app := o.app
        installer := o.installer, buildArgs := o.buildArgs } := by
  simp only [finish, bind_eq_ok, pure_eq_ok]
  constructor
  · rintro ⟨tool, htool, arch, harch, args, hargs, silent, hsilent, sargs, hsargs, code, hcode, rfl⟩
    exact ⟨htool, harch, hargs, hsilent, hsargs, hcode, rfl⟩
  · rintro ⟨htool, harch, hargs, hsilent, hsargs, hcode, hc⟩
    exact ⟨_, htool, _, harch, _, hargs, _, hsilent, _, hsargs, _, hcode, hc.symm⟩

theorem resolve_eq_ok {c : Configuration} : resolve d v o dir = .ok c ↔
    ∃ f, front d v o dir = .ok f ∧ finish f o = .ok c := by
  simp only [resolve, refuse, bind_eq_ok, mapError_eq_ok]

end Resolve

end SetupScript
