import Mathlib.Data.List.Nodup
import SetupScript.Proofs.Configuration.FirstFault
import SetupScript.Proofs.Configuration.Resolved

/-!
# Files, languages and addresses of a configuration

What resolving finds on the disk and what it puts in the place of absent options. A path that
starts from a project directory is absolute, so its text is neither empty nor the mark of the
built-in icon (`Path.head?_text`): both stand for nothing but what they are meant for. `Provided`
says all of it, and `resolve_provided` that every configuration satisfies it.
-/

namespace SetupScript

/-! ## Texts of absolute paths -/

namespace Path

theorem head?_text {p : Path} (h : p.isRelative = false) : p.text.toList.head? = some '/' := by
  obtain ⟨anchor, parts⟩ := p
  cases anchor with
  | relative => contradiction
  | root => simp [text, anchorText]
  | doubleRoot => simp [text, anchorText]

theorem text_ne_of_head? {p : Path} (h : p.isRelative = false) {s : String}
    (hs : s.toList.head? ≠ some '/') : p.text ≠ s := by
  rintro rfl
  exact hs (head?_text h)

theorem isRelative_child {p : Path} (h : p.isRelative = false) (s : String) :
    (p.child s).isRelative = false := by
  unfold child join
  cases hs : (parse s).isRelative with
  | true => exact h
  | false => exact hs

end Path

theorem Disk.isRelative_of_resolve {d : Disk} {dir root : Path} (h : d.resolve dir = .ok root) :
    root.isRelative = false := by
  unfold resolve at h
  split_ifs at h
  simp only at h
  split at h
  · contradiction
  · obtain rfl := Except.ok.inj h
    rfl

/-! ## Languages -/

namespace Language

variable {found ls : List Language}

theorem addOnce_nodup (h : found.Nodup) (l : Language) : (addOnce found l).Nodup := by
  unfold addOnce
  split_ifs with hmem
  · exact h
  · rw [List.contains_iff_mem] at hmem
    exact List.concat_eq_append ▸ h.concat hmem

theorem addOnce_ne_nil (found : List Language) (l : Language) : addOnce found l ≠ [] := by
  unfold addOnce
  split_ifs with hmem
  · rintro rfl
    simp at hmem
  · simp

/-- What has been found stays, so a single name is enough for a language. -/
theorem distinct_of_selectAfter : ∀ {names : List Value} {found : List Language},
    selectAfter found names = .ok ls →
      (found.Nodup → ls.Nodup) ∧ (found ≠ [] ∨ names ≠ [] → ls ≠ [])
  | [], found, h => by
    obtain rfl := Except.ok.inj h
    exact ⟨id, fun hne => hne.resolve_right (by simp)⟩
  | name :: names, found, h => by
    rw [selectAfter] at h
    cases hl : ofValue? name with
    | none =>
      rw [hl] at h
      contradiction
    | some l =>
      rw [hl] at h
      obtain ⟨hnodup, hne⟩ := distinct_of_selectAfter h
      exact ⟨fun hfound => hnodup (addOnce_nodup hfound l),
        fun _ => hne (.inl (addOnce_ne_nil found l))⟩

theorem distinct_of_select {names : List Value} (h : select names = .ok ls) :
    ls ≠ [] ∧ ls.Nodup := by
  unfold select at h
  split_ifs at h with hnames
  · obtain rfl := Except.ok.inj h
    decide
  · obtain ⟨hnodup, hne⟩ := distinct_of_selectAfter h
    rw [List.isEmpty_iff] at hnames
    exact ⟨hne (.inr hnames), hnodup List.nodup_nil⟩

end Language

namespace Resolve

variable {d : Disk} {root : Path} {outer block : Fields} {s : String}

theorem distinct_of_languages {ls : List Language} (h : languages block = .ok ls) :
    ls ≠ [] ∧ ls.Nodup := by
  unfold languages at h
  simp only at h
  split_ifs at h
  · exact Language.distinct_of_select h
  · split at h
    · exact Language.distinct_of_select h
    · contradiction

/-! ## Files and addresses -/

/-- The license file that is looked for: the one that the block names, or the default one. -/
def wantedLicense (block : Fields) : String :=
  match (block.field "license_file").text? with
  | some s => if s = "" then defaultLicense else s
  | none => defaultLicense

theorem eq_of_licenseName (h : licenseName block = .ok s) : s = wantedLicense block := by
  rw [licenseName, blockText, bind_eq_ok] at h
  obtain ⟨name, hname, h⟩ := h
  rw [wantedLicense]
  rcases optionalText_eq_ok.1 hname with ⟨hnull, rfl⟩ | ⟨t, ht, rfl⟩
  · rw [hnull]
    exact (Except.ok.inj h).symm
  · rw [ht]
    obtain rfl := Except.ok.inj h
    simp [Value.text?]

/-- The text of a path is not taken for the mark of the built-in icon. -/
theorem icon_provided (hroot : root.isRelative = false) (h : icon d root block = .ok s) :
    (s = Configuration.defaultIconMark ↔ block.field "installer_icon" = .null) ∧
      (s ≠ Configuration.defaultIconMark → ∃ p : Path, s = p.text ∧ p.isRelative = false ∧
        d.isFile p = .ok true ∧
        ∃ name, block.field "installer_icon" = .text name ∧ p = root.child name) := by
  simp only [icon, refuse, inquire, blockText, bind_eq_ok, mapError_eq_ok] at h
  obtain ⟨option, hoption, h⟩ := h
  rcases optionalText_eq_ok.1 hoption with ⟨hnull, rfl⟩ | ⟨name, hname, rfl⟩
  · obtain rfl := Except.ok.inj h
    exact ⟨iff_of_true rfl hnull, fun hne => absurd rfl hne⟩
  · simp only [bind_eq_ok, mapError_eq_ok] at h
    obtain ⟨isFile, hfile, h⟩ := h
    cases isFile with
    | true =>
      obtain rfl := Except.ok.inj h
      have habsolute := Path.isRelative_child hroot name
      have hmark : (root.child name).text ≠ Configuration.defaultIconMark :=
        Path.text_ne_of_head? habsolute (by decide)
      exact ⟨iff_of_false hmark (by simp [hname]),
        fun _ => ⟨_, rfl, habsolute, hfile, name, hname, rfl⟩⟩
    | false => contradiction

theorem license_provided {p : Path} {licensed : Bool} (hp : p.isRelative = false)
    (h : d.isFile p = .ok licensed) :
    ((if licensed then p.text else "") = "" ↔ d.isFile p = .ok false) ∧
      ((if licensed then p.text else "") ≠ "" →
        (if licensed then p.text else "") = p.text ∧ d.isFile p = .ok true) := by
  rw [h]
  cases licensed with
  | true =>
    have hne : p.text ≠ "" := Path.text_ne_of_head? hp (by decide)
    exact ⟨iff_of_false hne (by simp), fun _ => ⟨rfl, rfl⟩⟩
  | false => exact ⟨iff_of_true rfl rfl, fun hne => absurd rfl hne⟩

theorem homeUrl_provided (h : homeUrl outer block = .ok s) :
    block.field "url" = .text s ∨ block.field "url" = .null ∧
      (outer.field "homepage" = .text s ∨ outer.field "homepage" = .null ∧ s = "") := by
  simp only [homeUrl, blockText, bind_eq_ok] at h
  obtain ⟨url, hurl, h⟩ := h
  rcases optionalText_eq_ok.1 hurl with ⟨hnull, rfl⟩ | ⟨t, ht, rfl⟩
  · simp only [bind_eq_ok, pure_eq_ok] at h
    obtain ⟨page, hpage, rfl⟩ := h
    rcases optionalText_eq_ok.1 hpage with ⟨hnone, rfl⟩ | ⟨t, ht, rfl⟩
    · exact .inr ⟨hnull, .inr ⟨hnone, rfl⟩⟩
    · exact .inr ⟨hnull, .inl ht⟩
  · obtain rfl := Except.ok.inj h
    exact .inl ht

/-- An address of its own, or else the one given. -/
theorem address_provided {key url t : String}
    (h : ∃ r, blockText block key = .ok r ∧ r.getD url = t) :
    block.field key = .null ∧ t = url ∨ block.field key = .text t := by
  obtain ⟨r, hr, rfl⟩ := h
  rcases optionalText_eq_ok.1 hr with ⟨hnull, rfl⟩ | ⟨s, hs, rfl⟩
  · exact .inl ⟨hnull, rfl⟩
  · exact .inr hs

end Resolve

open Resolve

/-- What a configuration has been given from a disk and in the place of absent options. -/
structure Provided (d : Disk) (root : Path) (outer block : Fields) (c : Configuration) : Prop where
  builtInIcon : c.usesDefaultIcon = true ↔ block.field "installer_icon" = .null
  icon : c.usesDefaultIcon = false → ∃ p : Path, c.iconText = p.text ∧ p.isRelative = false ∧
    d.isFile p = .ok true ∧ ∃ name, block.field "installer_icon" = .text name ∧ p = root.child name
  licensePath : (root.child (wantedLicense block)).isRelative = false
  noLicense : c.licenseText = "" ↔ d.isFile (root.child (wantedLicense block)) = .ok false
  license : c.licenseText ≠ "" → c.licenseText = (root.child (wantedLicense block)).text ∧
    d.isFile (root.child (wantedLicense block)) = .ok true
  languages : c.languages ≠ [] ∧ c.languages.Nodup
  ownUrl : block.field "url" ≠ .null → block.field "url" = .text c.url
  homeUrl : block.field "url" = .null →
    outer.field "homepage" = .text c.url ∨ outer.field "homepage" = .null ∧ c.url = ""
  supportUrl : block.field "support_url" = .null ∧ c.supportUrl = c.url ∨
    block.field "support_url" = .text c.supportUrl
  updatesUrl : block.field "updates_url" = .null ∧ c.updatesUrl = c.url ∨
    block.field "updates_url" = .text c.updatesUrl

/-- The built-in icon is used just where none is named, and a license file that is named is not
replaced by the default one; languages and addresses have their defaults. -/
theorem resolve_provided {d : Disk} {v : Value} {o : Overrides} {dir : Path} {c : Configuration}
    (h : resolve d v o dir = .ok c) :
    ∃ root, d.resolve dir = .ok root ∧ Provided d root (outerOf v) (blockOf v) c := by
  obtain ⟨f, hfront, hfinish⟩ := resolve_eq_ok.1 h
  obtain ⟨root, outer, name, hroot, hblocks, htexts, hicon, hlanguages, -, hname, hlicense,
    hlicensed⟩ := front_eq_ok.1 hfront
  obtain ⟨-, -, -, -, -, -, hurl, hsupport, hupdates⟩ := texts_eq_ok.1 htexts
  obtain ⟨houter, hblock⟩ := blocksOf_eq_ok hblocks
  have habsolute := Disk.isRelative_of_resolve hroot
  obtain ⟨hmark, hfile⟩ := icon_provided habsolute hicon
  have hpath : (root.child (wantedLicense f.block)).isRelative = false :=
    Path.isRelative_child habsolute _
  rw [eq_of_licenseName hname] at hlicense
  rw [← hlicense] at hlicensed
  obtain ⟨hnone, hsome⟩ := license_provided hpath hlicensed
  rw [(finish_eq_ok.1 hfinish).2.2.2.2.2.2]
  refine ⟨root, hroot, houter ▸ hblock ▸ ⟨beq_iff_eq.trans hmark,
    fun hne => hfile (beq_eq_false_iff_ne.1 hne), hpath, ?_, ?_, distinct_of_languages hlanguages,
    fun hne => ?_, fun hnull => ?_, address_provided hsupport, address_provided hupdates⟩⟩
  · rw [← hlicense]
    exact hnone
  · rw [← hlicense]
    exact hsome
  · exact (homeUrl_provided hurl).resolve_right fun hnull => hne hnull.1
  · refine ((homeUrl_provided hurl).resolve_left fun htext => ?_).2
    simp [hnull] at htext

/-- An icon named like the mark of the built-in one, a license file that is missing beside the
default one, languages named twice, and an address that is empty. -/
def namesakeBlock : Fields :=
  [(.text "id", .text "f887d5f0-4690-1e07-8efc-d16ea7711bfb"),
    (.text "installer_icon", .text "__default_installer_icon__"),
    (.text "license_file", .text "NOPE"),
    (.text "languages", .list [.text "german", .text " English", .text "GERMAN"]),
    (.text "url", .text ""), (.text "updates_url", .text "u")]

def namesakeOuter : Fields :=
  [(.text "name", .text "tool"), (.text "version", .text "1"), (.text "description", .text "d"),
    (.text "maintainer", .text "m"), (.text "homepage", .text "h"),
    (.text "inno_bundle", .map namesakeBlock)]

def namesakeDisk : Disk :=
  ⟨(FileTree.empty.put ["__default_installer_icon__"] (.file .empty)).put ["LICENSE"]
    (.file .empty), []⟩

theorem resolve_provided_namesake : ∃ c root,
    resolve namesakeDisk (.map namesakeOuter) .default ⟨.root, []⟩ = .ok c ∧
      Provided namesakeDisk root namesakeOuter namesakeBlock c ∧ c.usesDefaultIcon = false ∧
      c.licenseText = "" ∧ c.languages = [.german, .english] ∧ c.url = "" ∧ c.supportUrl = "" ∧
      c.updatesUrl = "u" := by
  have h : ∃ c, resolve namesakeDisk (.map namesakeOuter) .default ⟨.root, []⟩ = .ok c ∧
      c.languages = [.german, .english] := ⟨_, rfl, by decide +kernel⟩
  obtain ⟨c, hc, hlanguages⟩ := h
  obtain ⟨root, hroot, hprovided⟩ := resolve_provided hc
  obtain rfl : ⟨.root, []⟩ = root := Except.ok.inj hroot
  change Provided namesakeDisk _ namesakeOuter namesakeBlock c at hprovided
  have hicon : c.usesDefaultIcon = false := by
    rw [← Bool.not_eq_true, hprovided.builtInIcon]
    nofun
  have hurl : namesakeBlock.field "url" = .text c.url := hprovided.ownUrl nofun
  have hsupport : c.supportUrl = c.url := (hprovided.supportUrl.resolve_right nofun).2
  have hupdates : namesakeBlock.field "updates_url" = .text c.updatesUrl :=
    hprovided.updatesUrl.resolve_left fun h => nomatch h.1
  have hurlText : "" = c.url := Scalar.text.inj (Value.scalar.inj hurl)
  exact ⟨c, _, hc, hprovided, hicon, hprovided.noLicense.2 rfl, hlanguages, hurlText.symm,
    hsupport.trans hurlText.symm, (Scalar.text.inj (Value.scalar.inj hupdates)).symm⟩

end SetupScript
