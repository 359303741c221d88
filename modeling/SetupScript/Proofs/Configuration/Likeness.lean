import Mathlib.Data.List.Forall2
import SetupScript.Proofs.Configuration.FirstFault
import SetupScript.Proofs.Configuration.SignTool

/-!
# Values that hold the same

A value can be written out, or stand in a graph in which its parts are shared; two values are alike
when they cannot be told apart by opening them to any depth (`Value.Like`). A descriptor that is
accepted is resolved to the same configuration when fields are replaced by ones that are alike
(`Resolve.front_like`, `Resolve.finish_like`): what is read are scalars, and these are the same.
-/

namespace SetupScript

namespace Value

/-- In the place of what lies too deep to be seen. -/
def unseen : Value := .inGraph #[] 0

/-- A value that stands in a graph is taken out of it. -/
def opened : Value → Value
  | .inGraph g n => (g[n]?.map (Collection.within g)).getD unseen
  | v => v

/-- A value as far as it is seen by opening it a number of times. -/
def upTo : Nat → Value → Value
  | 0, _ => unseen
  | n + 1, v =>
    match v.opened with
    | .scalar s => .scalar s
    | .list xs => .list (xs.map (upTo n))
    | .pair a b => .pair (upTo n a) (upTo n b)
    | .set ss => .set ss
    | .map es => .map (es.map fun e => (e.1, upTo n e.2))
    | .inGraph _ _ => unseen

/-- The two hold the same, however they are written down. -/
def Like (v w : Value) : Prop := ∀ n, v.upTo n = w.upTo n

variable {v w : Value}

theorem Like.refl (v : Value) : v.Like v := fun _ => rfl

theorem Like.symm (h : v.Like w) : w.Like v := fun n => (h n).symm

theorem Like.trans {u : Value} (h : v.Like w) (h' : w.Like u) : v.Like u :=
  fun n => (h n).trans (h' n)

theorem opened_inGraph (g : Graph) (p : Nat) :
    (Value.inGraph g p).opened = (g[p]?.map (Collection.within g)).getD unseen := rfl

theorem outermost_inGraph (g : Graph) (p : Nat) :
    (Value.inGraph g p).outermost = (g[p]?.map (Collection.within g)).getD .null := rfl

theorem opened_eq (v : Value) :
    v.opened = v.outermost ∨ v.opened = unseen ∧ v.outermost = .null := by
  cases v with
  | inGraph g p =>
    rw [opened_inGraph, outermost_inGraph]
    cases g[p]? with
    | none => exact .inr ⟨rfl, rfl⟩
    | some c => exact .inl rfl
  | scalar | list | pair | set | map => exact .inl rfl

theorem opened_eq_scalar {s : Scalar} : v.opened = .scalar s ↔ v = .scalar s := by
  cases v with
  | inGraph g p =>
    rw [opened_inGraph]
    refine iff_of_false (fun h => ?_) nofun
    cases hc : g[p]? with
    | none =>
      rw [hc] at h
      contradiction
    | some c =>
      rw [hc] at h
      cases c <;> contradiction
  | scalar | list | pair | set | map => exact Iff.rfl

/-- Only a scalar is seen as one. -/
theorem upTo_eq_scalar {n : Nat} {s : Scalar} : v.upTo (n + 1) = .scalar s ↔ v = .scalar s := by
  rw [← opened_eq_scalar (v := v), upTo]
  cases v.opened with
  | scalar | list | pair | set | map | inGraph => simp [unseen]

theorem Like.eq_scalar {s : Scalar} (h : (Value.scalar s).Like w) : w = .scalar s :=
  upTo_eq_scalar.1 (h 1).symm

theorem Like.scalar_iff (h : v.Like w) {s : Scalar} : v = .scalar s ↔ w = .scalar s := by
  constructor
  · rintro rfl
    exact h.eq_scalar
  · rintro rfl
    exact h.symm.eq_scalar

theorem Like.text?_eq (h : v.Like w) : v.text? = w.text? := by
  refine Option.ext fun s => ?_
  rw [text?_eq_some, text?_eq_some, h.scalar_iff]

theorem Like.isNull_eq (h : v.Like w) : v.isNull = w.isNull := by
  rw [Bool.eq_iff_iff, isNull_iff, isNull_iff, h.scalar_iff]

theorem list?_upTo (n : Nat) (v : Value) :
    (v.upTo (n + 1)).list? = v.list?.map (List.map (upTo n)) := by
  unfold list?
  rw [upTo]
  rcases v.opened_eq with h | ⟨h, h'⟩
  · rw [h]
    cases v.outermost <;> rfl
  · rw [h, h']
    rfl

theorem fields?_upTo (n : Nat) (v : Value) :
    (v.upTo (n + 1)).fields? = v.fields?.map (List.map fun e => (e.1, e.2.upTo n)) := by
  unfold fields?
  rw [upTo]
  rcases v.opened_eq with h | ⟨h, h'⟩
  · rw [h]
    cases v.outermost <;> rfl
  · rw [h, h']
    rfl

theorem forall₂_like : ∀ {xs ys : List Value}, (∀ n, xs.map (upTo n) = ys.map (upTo n)) →
    List.Forall₂ Like xs ys
  | [], [], _ => .nil
  | [], _ :: _, h => absurd (h 0) nofun
  | _ :: _, [], h => absurd (h 0) nofun
  | _ :: _, _ :: _, h => .cons (fun n => (List.cons.inj (h n)).1)
      (forall₂_like fun n => (List.cons.inj (h n)).2)

/-- Lists that are alike have as many items, each like its counterpart. -/
theorem Like.list? (h : v.Like w) {xs : List Value} (hv : v.list? = some xs) :
    ∃ ys, w.list? = some ys ∧ List.Forall₂ Like xs ys := by
  have hboth : ∀ n, v.list?.map (List.map (upTo n)) = w.list?.map (List.map (upTo n)) := by
    intro n
    rw [← list?_upTo, ← list?_upTo, h]
  rw [hv] at hboth
  cases hw : w.list? with
  | none =>
    rw [hw] at hboth
    exact absurd (hboth 0) nofun
  | some ys =>
    rw [hw] at hboth
    exact ⟨ys, rfl, forall₂_like fun n => Option.some.inj (hboth n)⟩

end Value

namespace Fields

/-- Two mappings hold the same under a key, or both nothing. -/
def SameAt (fs fs' : Fields) (key : String) : Prop :=
  ∀ n, (fs.field? key).map (Value.upTo n) = (fs'.field? key).map (Value.upTo n)

theorem field?_map (f : Value → Value) (fs : Fields) (key : String) :
    field? (fs.map fun e => (e.1, f e.2)) key = (fs.field? key).map f := by
  unfold field?
  rw [List.find?_map, Option.map_map, Option.map_map]
  rfl

theorem field?_append_of_ne (fs : Fields) {key other : String} (v : Value) (h : other ≠ key) :
    field? (fs ++ [(.text other, v)]) key = fs.field? key := by
  have hskip : (Scalar.text other == .text key) = false := by simpa using h
  unfold field?
  rw [List.find?_append, List.find?_cons, hskip, List.find?_nil, Option.or_none]

end Fields

theorem Value.Like.list?_eq_none {v w : Value} (h : v.Like w) (hv : v.list? = none) :
    w.list? = none := by
  cases hw : w.list? with
  | none => rfl
  | some ys =>
    obtain ⟨xs, hxs, -⟩ := h.symm.list? hw
    rw [hv] at hxs
    contradiction

theorem Value.Like.fields? {v w : Value} (h : v.Like w) {fs : Fields} (hv : v.fields? = some fs) :
    ∃ fs', w.fields? = some fs' ∧ ∀ key, fs.SameAt fs' key := by
  have hboth : ∀ n, v.fields?.map (List.map fun e => (e.1, e.2.upTo n)) =
      w.fields?.map (List.map fun e => (e.1, e.2.upTo n)) := by
    intro n
    rw [← fields?_upTo, ← fields?_upTo, h]
  rw [hv] at hboth
  cases hw : w.fields? with
  | none =>
    rw [hw] at hboth
    exact absurd (hboth 0) nofun
  | some fs' =>
    rw [hw] at hboth
    refine ⟨fs', rfl, fun key n => ?_⟩
    rw [← Fields.field?_map, ← Fields.field?_map, Option.some.inj (hboth n)]

theorem Value.Like.fields?_isSome {v w : Value} (h : v.Like w) :
    v.fields?.isSome = w.fields?.isSome := by
  have hone : (v.upTo 1).fields?.isSome = (w.upTo 1).fields?.isSome := by rw [h 1]
  rwa [fields?_upTo, fields?_upTo, Option.isSome_map, Option.isSome_map] at hone

namespace Fields

variable {fs fs' : Fields} {key : String}

theorem SameAt.symm (h : fs.SameAt fs' key) : fs'.SameAt fs key := fun n => (h n).symm

/-- Under a key both hold nothing, or values that are alike. -/
theorem SameAt.cases (h : fs.SameAt fs' key) :
    fs.field? key = none ∧ fs'.field? key = none ∨
      ∃ v w, fs.field? key = some v ∧ fs'.field? key = some w ∧ v.Like w := by
  unfold SameAt at h
  cases hv : fs.field? key with
  | none =>
    rw [hv] at h
    exact .inl ⟨rfl, Option.map_eq_none_iff.1 (h 0).symm⟩
  | some v =>
    cases hw : fs'.field? key with
    | none =>
      rw [hv, hw] at h
      exact absurd (h 0) nofun
    | some w =>
      rw [hv, hw] at h
      exact .inr ⟨v, w, rfl, rfl, fun n => Option.some.inj (h n)⟩

theorem SameAt.field (h : fs.SameAt fs' key) : (fs.field key).Like (fs'.field key) := by
  unfold Fields.field
  rcases h.cases with ⟨hv, hw⟩ | ⟨v, w, hv, hw, hlike⟩
  · rw [hv, hw]
    exact .refl _
  · rw [hv, hw]
    exact hlike

end Fields

/-! ## Resolving -/

namespace SignTool

variable {option option' : Value} {o : SignToolOverrides} {fs fs' : Fields} {key : String}

theorem fieldsOf?_like (h : option.Like option') (hfs : fieldsOf? option = some fs) :
    ∃ fs', fieldsOf? option' = some fs' ∧ ∀ key, fs.SameAt fs' key := by
  unfold fieldsOf? at hfs
  split at hfs
  · rw [h.eq_scalar]
    exact ⟨fs, hfs, fun _ _ => rfl⟩
  · rw [h.eq_scalar]
    exact ⟨fs, hfs, fun _ _ => rfl⟩
  · rename_i hnull htext
    obtain ⟨fs', hfs', hsame⟩ := h.fields? hfs
    refine ⟨fs', ?_, hsame⟩
    unfold fieldsOf?
    split
    · exact absurd h.symm.eq_scalar hnull
    · exact absurd h.symm.eq_scalar (htext _)
    · exact hfs'

/-- An entry that passes is a scalar, and thus the same in an option that is alike. -/
theorem field?_eq_of_checkText (h : fs.SameAt fs' key) (hcheck : checkText fs key = .ok ()) :
    fs'.field? key = fs.field? key := by
  rcases h.cases with ⟨hv, hw⟩ | ⟨v, w, hv, hw, hlike⟩
  · rw [hv, hw]
  · rw [hv, hw]
    rcases checkText_eq_ok.1 hcheck v hv with rfl | ⟨s, rfl⟩
    · rw [hlike.eq_scalar]
    · rw [hlike.eq_scalar]

theorem field?_eq_of_checkNumber (h : fs.SameAt fs' key) (hcheck : checkNumber fs key = .ok ()) :
    fs'.field? key = fs.field? key := by
  rcases h.cases with ⟨hv, hw⟩ | ⟨v, w, hv, hw, hlike⟩
  · rw [hv, hw]
  · rw [hv, hw]
    obtain ⟨n, rfl⟩ := checkNumber_eq_ok.1 hcheck v hv
    rw [hlike.eq_scalar]

/-- A checked option and one like it are both checked and make the same tool. -/
theorem build_like (h : option.Like option') (hcheck : check option o = .ok ()) :
    check option' o = .ok () ∧ build option' o = build option o := by
  obtain ⟨fs, hfs, htexts, hnumbers, hnames⟩ := check_eq_ok.1 hcheck
  obtain ⟨fs', hfs', hsame⟩ := fieldsOf?_like h hfs
  have htext : ∀ key ∈ ["name", "command", "params"], fs'.field? key = fs.field? key :=
    fun key hkey => field?_eq_of_checkText (hsame key) (htexts key hkey)
  have hnumber : ∀ key ∈ ["retry_count", "retry_delay"], fs'.field? key = fs.field? key :=
    fun key hkey => field?_eq_of_checkNumber (hsame key) (hnumbers key hkey)
  have hshape : option'.fields?.isSome = option.fields?.isSome := h.fields?_isSome.symm
  have hname := htext "name" (by simp)
  have hcommand := htext "command" (by simp)
  have hcount := hnumber "retry_count" (by simp)
  have hdelay := hnumber "retry_delay" (by simp)
  constructor
  · refine check_eq_ok.2 ⟨fs', hfs', fun key hkey => ?_, fun key hkey => ?_, ?_⟩
    · rw [← htexts key hkey, checkText, checkText, Fields.field, Fields.field, htext key hkey]
    · rw [← hnumbers key hkey, checkNumber, checkNumber, hnumber key hkey]
    · rw [← hnames, namesSomething, namesSomething, Fields.field, Fields.field, hshape, hname,
        hcommand]
  · have hparts : parts option' o = parts option o := by
      have htextOr : ∀ key ∈ ["name", "command", "params"], ∀ override default,
          textOr override fs' key default = textOr override fs key default := by
        intro key hkey override default
        unfold textOr Fields.field
        rw [htext key hkey]
      rw [parts, parts, hfs, hfs', h.isNull_eq]
      simp only [numberOr, hcount, hdelay, htextOr, List.mem_cons, true_or, or_true]
    rw [build, build, hparts]

end SignTool

namespace Resolve

theorem textsOf?_cons (v : Value) (vs : List Value) :
    textsOf? (v :: vs) = v.text?.bind fun s => (textsOf? vs).map (s :: ·) := by
  cases v with
  | scalar s => cases s <;> rfl
  | list | pair | set | map | inGraph => rfl

theorem textsOf?_like : ∀ {vs ws : List Value}, List.Forall₂ Value.Like vs ws →
    textsOf? vs = textsOf? ws
  | [], [], .nil => rfl
  | v :: vs, w :: ws, .cons h hs => by
    rw [textsOf?_cons, textsOf?_cons, h.text?_eq, textsOf?_like hs]

theorem selectAfter_like {vs ws : List Value} {found ls : List Language}
    (hlike : List.Forall₂ Value.Like vs ws) (h : Language.selectAfter found vs = .ok ls) :
    Language.selectAfter found ws = .ok ls := by
  have hsame : List.Forall₂ (fun v w => Language.ofValue? v = Language.ofValue? w) vs ws :=
    hlike.imp fun v w hvw => congrArg (·.bind Language.ofText?) hvw.text?_eq
  rwa [← toOption_eq_some, ← Language.selectAfter_congr hsame, toOption_eq_some]

theorem select_like {vs ws : List Value} {ls : List Language} (h : List.Forall₂ Value.Like vs ws)
    (hls : Language.select vs = .ok ls) : Language.select ws = .ok ls := by
  cases h with
  | nil => exact hls
  | cons hlike hrest => exact selectAfter_like (.cons hlike hrest) hls

/-- The first candidate that is not null is the same text. -/
theorem firstText_like {needed : Needed} {s : String} : ∀ {vs ws : List (Field × Value)},
    List.Forall₂ (fun x y => x.2.Like y.2) vs ws → firstText needed vs = .ok s →
      firstText needed ws = .ok s
  | [], [], .nil, h => h
  | (_, v) :: vs, (_, w) :: ws, .cons hlike hrest, h => by
    change v.Like w at hlike
    unfold firstText at h
    split at h
    · rw [hlike.eq_scalar]
      exact (firstText_like hrest h :)
    · rw [hlike.eq_scalar]
      exact h
    · contradiction

section Values

variable {v w : Value} (h : v.Like w)

include h

theorem optionalText_like {field : Field} {r : Option String} (hr : optionalText field v = .ok r) :
    optionalText field w = .ok r := by
  refine optionalText_eq_ok.2 ((optionalText_eq_ok.1 hr).imp ?_ ?_)
  · rintro ⟨hnull, hr⟩
    exact ⟨h.scalar_iff.1 hnull, hr⟩
  · rintro ⟨s, hs, hr⟩
    exact ⟨s, h.scalar_iff.1 hs, hr⟩

theorem optionalTexts_like (field : Field) : optionalTexts field v = optionalTexts field w := by
  have htexts : v.list?.bind textsOf? = w.list?.bind textsOf? := by
    cases hv : v.list? with
    | none => rw [h.list?_eq_none hv, Option.bind_none]
    | some vs =>
      obtain ⟨ws, hw, hlike⟩ := h.list? hv
      rw [hw, Option.bind_some, Option.bind_some, textsOf?_like hlike]
  rw [optionalTexts, optionalTexts, h.isNull_eq, htexts]

theorem privilege_like {r : Privilege} (hr : Privilege.ofValue v = .ok r) :
    Privilege.ofValue w = .ok r := by
  unfold Privilege.ofValue at hr
  split at hr
  · rwa [h.eq_scalar]
  · rwa [h.eq_scalar]
  · rwa [h.eq_scalar]
  · rwa [h.eq_scalar]
  · contradiction

theorem architecture_like {r : Architecture} (hr : Architecture.ofValue v = .ok r) :
    Architecture.ofValue w = .ok r := by
  unfold Architecture.ofValue at hr ⊢
  rw [← h.isNull_eq, ← h.text?_eq]
  split_ifs at hr ⊢
  · exact hr
  · split at hr
    · exact hr
    · contradiction

end Values

section Blocks

variable {o : Overrides} {outer outer' block block' : Fields} {key : String}

theorem blockText_like (h : block.SameAt block' key) {r : Option String}
    (hr : blockText block key = .ok r) : blockText block' key = .ok r :=
  optionalText_like h.field hr

/-- The mappings of two descriptors hold the same but for log settings. -/
structure SameBlocks (outer block outer' block' : Fields) : Prop where
  outer : ∀ key, key ≠ blockName → outer.SameAt outer' key
  block : ∀ key, key ≠ "logging" → block.SameAt block' key

variable (h : SameBlocks outer block outer' block')

include h

theorem appId_like {s : String} (hs : appId block = .ok s) : appId block' = .ok s := by
  obtain ⟨hid, haccepts⟩ := appId_eq_ok.1 hs
  exact appId_eq_ok.2 ⟨(h.block "id" (by decide)).field.scalar_iff.1 hid, haccepts⟩

theorem declaredName_like {s : String} (hs : declaredName outer = .ok s) :
    declaredName outer' = .ok s := by
  obtain ⟨hname, hne⟩ := declaredName_eq_ok.1 hs
  exact declaredName_eq_ok.2 ⟨(h.outer "name" (by decide)).field.scalar_iff.1 hname, hne⟩

theorem displayName_like {declared s : String} (hs : displayName block declared = .ok s) :
    displayName block' declared = .ok s := by
  have hlike := (h.block "name" (by decide)).field
  obtain ⟨hname, haccepts⟩ := displayName_eq_ok.1 hs
  exact displayName_eq_ok.2 ⟨hname.imp hlike.scalar_iff.1 (And.imp_left hlike.scalar_iff.1),
    haccepts⟩

theorem candidates_like {blockKey outerKey : String} (hblock : blockKey ≠ "logging")
    (houter : outerKey ≠ blockName) :
    List.Forall₂ (fun x y => x.2.Like y.2)
      [blockCandidate block blockKey, outerCandidate outer outerKey]
      [blockCandidate block' blockKey, outerCandidate outer' outerKey] :=
  .cons (h.block blockKey hblock).field (.cons (h.outer outerKey houter).field .nil)

theorem homeUrl_like {s : String} (hs : homeUrl outer block = .ok s) :
    homeUrl outer' block' = .ok s := by
  simp only [homeUrl, bind_eq_ok] at hs ⊢
  obtain ⟨url, hurl, hs⟩ := hs
  refine ⟨url, blockText_like (h.block "url" (by decide)) hurl, ?_⟩
  cases url with
  | some s => exact hs
  | none =>
    simp only [bind_eq_ok] at hs ⊢
    obtain ⟨page, hpage, hs⟩ := hs
    exact ⟨page, optionalText_like (h.outer "homepage" (by decide)).field hpage, hs⟩

theorem texts_like {t : Texts} (ht : texts o outer block = .ok t) :
    texts o outer' block' = .ok t := by
  obtain ⟨hid, hdeclared, hname, hversion, hdescription, hpublisher, hurl, ⟨support, hsupport, hs⟩,
    updates, hupdates, hu⟩ := texts_eq_ok.1 ht
  refine texts_eq_ok.2 ⟨appId_like h hid, declaredName_like h hdeclared, displayName_like h hname,
    firstText_like ?_ hversion, firstText_like ?_ hdescription, firstText_like ?_ hpublisher,
    homeUrl_like h hurl, ⟨support, ?_, hs⟩, updates, ?_, hu⟩
  · exact .cons (.refl _) (candidates_like h (by decide) (by decide))
  · exact candidates_like h (by decide) (by decide)
  · exact candidates_like h (by decide) (by decide)
  · exact blockText_like (h.block "support_url" (by decide)) hsupport
  · exact blockText_like (h.block "updates_url" (by decide)) hupdates

theorem languages_like {ls : List Language} (hls : languages block = .ok ls) :
    languages block' = .ok ls := by
  have hlike := (h.block "languages" (by decide)).field
  unfold languages at hls ⊢
  simp only at hls ⊢
  rw [← hlike.isNull_eq]
  split_ifs at hls ⊢
  · exact hls
  · split at hls
    · rename_i vs hvs
      obtain ⟨ws, hws, hitems⟩ := hlike.list? hvs
      rw [hws]
      exact select_like hitems hls
    · contradiction

theorem licenseName_like {s : String} (hs : licenseName block = .ok s) :
    licenseName block' = .ok s := by
  unfold licenseName at hs ⊢
  rw [bind_eq_ok] at hs ⊢
  obtain ⟨name, hname, hs⟩ := hs
  exact ⟨name, blockText_like (h.block "license_file" (by decide)) hname, hs⟩

theorem icon_like {d d' : Disk} {root : Path} {s : String}
    (hfile : ∀ s, block.field "installer_icon" = .text s →
      d.isFile (root.child s) = d'.isFile (root.child s))
    (hs : icon d root block = .ok s) : icon d' root block' = .ok s := by
  simp only [icon, refuse, bind_eq_ok, mapError_eq_ok] at hs ⊢
  obtain ⟨name, hname, hs⟩ := hs
  refine ⟨name, blockText_like (h.block "installer_icon" (by decide)) hname, ?_⟩
  cases name with
  | none => exact hs
  | some name =>
    rcases optionalText_eq_ok.1 hname with ⟨-, hnone⟩ | ⟨t, ht, hsome⟩
    · contradiction
    · obtain rfl := Option.some.inj hsome
      simp only [← hfile _ ht]
      exact hs

theorem runIfSilent_like {b : Bool} (hb : runIfSilent block = .ok b) :
    runIfSilent block' = .ok b := by
  unfold runIfSilent at hb ⊢
  rcases (h.block "run_if_silent_mode" (by decide)).cases with ⟨hv, hw⟩ | ⟨v, w, hv, hw, hlike⟩
  · rw [hv] at hb
    rw [hw]
    exact hb
  · rw [hv] at hb
    rw [hw]
    split at hb
    · contradiction
    · rename_i heq
      rw [Option.some.inj heq] at hlike
      rw [hlike.eq_scalar]
      exact hb
    · contradiction

theorem signTool_like {t : Option SignTool} (ht : signTool o block = .ok t) :
    signTool o block' = .ok t := by
  simp only [signTool, unit_bind_eq_ok, pure_eq_ok] at ht ⊢
  obtain ⟨hcheck, rfl⟩ := ht
  exact SignTool.build_like (h.block "sign_tool" (by decide)).field hcheck

theorem finish_like {f : Front} {c : Configuration} (hf : f.block = block)
    (hc : finish f o = .ok c) : finish { f with block := block' } o = .ok c := by
  subst hf
  obtain ⟨htool, harch, hargs, hsilent, hsargs, hcode, heq⟩ := finish_eq_ok.1 hc
  refine finish_eq_ok.2 ⟨signTool_like h htool,
    architecture_like (h.block "arch" (by decide)).field harch, ?_, runIfSilent_like h hsilent, ?_,
    blockText_like (h.block "append_section_code" (by decide)) hcode, heq⟩
  · rw [← hargs]
    exact (optionalTexts_like (h.block "run_args" (by decide)).field _).symm
  · rw [← hsargs]
    exact (optionalTexts_like (h.block "run_silent_args" (by decide)).field _).symm

end Blocks

theorem SameBlocks.symm {outer block outer' block' : Fields}
    (h : SameBlocks outer block outer' block') : SameBlocks outer' block' outer block :=
  ⟨fun key hkey => (h.outer key hkey).symm, fun key hkey => (h.block key hkey).symm⟩

/-- Whether two disks answer alike what resolving asks them. -/
structure SameAnswers (d d' : Disk) (dir : Path) (block : Fields) : Prop where
  root : d.resolve dir = d'.resolve dir
  icon : ∀ root s, d.resolve dir = .ok root → block.field "installer_icon" = .text s →
    d.isFile (root.child s) = d'.isFile (root.child s)
  license : ∀ root name, d.resolve dir = .ok root → licenseName block = .ok name →
    d.isFile (root.child name) = d'.isFile (root.child name)

section Descriptors

variable {v v' : Value} {d d' : Disk} {o : Overrides} {dir : Path}

/-- What is read up to the license file is the same, apart from the mapping that it is read from. -/
theorem front_like (h : SameBlocks (outerOf v) (blockOf v) (outerOf v') (blockOf v'))
    (hblocks : blocksOf v' = .ok (outerOf v', blockOf v')) {f : Front}
    (hanswers : SameAnswers d d' dir (blockOf v)) (hf : front d v o dir = .ok f) :
    f.block = blockOf v ∧ front d' v' o dir = .ok { f with block := blockOf v' } := by
  obtain ⟨root, outer, name, hroot, hfrom, htexts, hicon, hlanguages, hprivilege, hname, hlicense,
    hlicensed⟩ := front_eq_ok.1 hf
  obtain ⟨houter, hblock⟩ := blocksOf_eq_ok hfrom
  rw [houter, hblock] at htexts
  rw [hblock] at hicon hlanguages hprivilege hname
  refine ⟨hblock, front_eq_ok.2 ⟨root, outerOf v', name, hanswers.root ▸ hroot, hblocks,
    texts_like h htexts, icon_like h (hanswers.icon root · hroot) hicon,
    languages_like h hlanguages,
    privilege_like (h.block "admin" (by decide)).field hprivilege, licenseName_like h hname,
    hlicense, ?_⟩⟩
  rw [← hlicensed, ← hlicense]
  exact (hanswers.license root name hroot hname).symm

/-- Descriptors that hold the same but for log settings are resolved to the same configuration. -/
theorem resolve_like (h : SameBlocks (outerOf v) (blockOf v) (outerOf v') (blockOf v'))
    (hblocks : blocksOf v' = .ok (outerOf v', blockOf v'))
    (hanswers : SameAnswers d d' dir (blockOf v)) {c : Configuration}
    (hc : resolve d v o dir = .ok c) :
    resolve d' v' o dir = .ok c ∧ missingLicense d' v' o dir = missingLicense d v o dir := by
  obtain ⟨f, hf, hfinish⟩ := resolve_eq_ok.1 hc
  obtain ⟨hblock, hf'⟩ := front_like h hblocks hanswers hf
  refine ⟨resolve_eq_ok.2 ⟨_, hf', finish_like h hblock hfinish⟩, ?_⟩
  rw [missingLicense, missingLicense, hf, hf']

end Descriptors

end Resolve

end SetupScript
