import SetupScript.Proofs.Configuration.Checks
import SetupScript.Proofs.Configuration.Resolved
import SetupScript.Proofs.Files.Questions

/-!
# The first fault of a descriptor

Every step of resolving follows the checks of what it reads. Between the checks two paths are looked
up, those of the icon and the license, and a path can be too long for that. `troubles` lists
findings and lookups together, and resolving as a whole follows them in their order
(`resolve_meets`), whatever the ones after the first would be. Where the lookups have answers, the
checks are left (`resolve_follows`).
-/

namespace SetupScript.Resolve

theorem require_follows {α : Type} (rule : Bool) (a : α) (r : Refusal) :
    Follows id (if rule then .ok a else .error r) [require rule r] := by
  cases rule with
  | true => exact ⟨a, rfl⟩
  | false => rfl

theorem optionalText_follows (field : Field) (v : Value) :
    Follows id (optionalText field v) [textCheck (.notText field) v] := by
  cases v with
  | scalar s => cases s <;> first | rfl | exact ⟨_, rfl⟩
  | _ => rfl

theorem blockText_follows (block : Fields) (key : String) :
    Follows id (blockText block key) [blockTextCheck block key] :=
  optionalText_follows (.block key) (block.field key)

theorem textsOf?_isSome : ∀ vs : List Value, (textsOf? vs).isSome = vs.all (·.text?.isSome)
  | [] => rfl
  | .scalar (.text s) :: vs => by
    rw [textsOf?, Option.isSome_map, textsOf?_isSome vs]
    rfl
  | .scalar .null :: _ | .scalar (.bool _) :: _ | .scalar (.int _) :: _ | .scalar (.float _) :: _
  | .scalar (.bytes _) :: _ | .scalar (.date _) :: _ | .scalar (.moment _) :: _ | .list _ :: _
  | .pair _ _ :: _ | .set _ :: _ | .map _ :: _ | .inGraph _ _ :: _ => rfl

theorem optionalTexts_follows (field : Field) (v : Value) :
    Follows id (optionalTexts field v) [textsCheck field v] := by
  unfold optionalTexts textsCheck
  cases v.isNull with
  | true => exact ⟨_, rfl⟩
  | false =>
    cases v.list? with
    | none => rfl
    | some vs =>
      simp only [Option.bind_some, Option.any_some, Bool.false_or, ← textsOf?_isSome vs,
        Bool.false_eq_true, if_false]
      cases textsOf? vs with
      | none => rfl
      | some ss => exact ⟨_, rfl⟩

theorem firstText_follows (needed : Needed) : ∀ candidates : List (Field × Value),
    Follows id (firstText needed candidates) [candidateCheck needed candidates]
  | [] => rfl
  | (field, v) :: rest => by
    have ih := firstText_follows needed rest
    cases v with
    | scalar s => cases s <;> first | exact ih | rfl | exact ⟨_, rfl⟩
    | _ => rfl

theorem appId_follows (block : Fields) : Follows id (appId block) [idCheck block] := by
  unfold appId idCheck
  cases block.field "id" with
  | scalar s =>
    cases s with
    | text s => exact require_follows (Names.acceptsId s) s (.badId s)
    | _ => rfl
  | _ => rfl

theorem declaredName_follows (outer : Fields) :
    Follows id (declaredName outer) [declaredNameCheck outer] := by
  unfold declaredName declaredNameCheck
  cases outer.field "name" with
  | scalar s =>
    cases s with
    | text s =>
      simp only [Value.text?, Option.any_some, bne]
      cases s == "" with
      | true => rfl
      | false => exact ⟨s, rfl⟩
    | _ => rfl
  | _ => rfl

theorem fileName_follows (field : Field) (s : String) :
    Follows id (fileName field s) [fileNameCheck field (.text s)] :=
  require_follows (Names.acceptsName s) s (.badFileName field s)

theorem displayName_follows {outer : Fields} {declared : String}
    (houter : outer.field "name" = .text declared) (block : Fields) :
    Follows id (displayName block declared) (nameChecks outer block) := by
  refine (blockText_follows block "name").bind_cons fun name hname => ?_
  rcases optionalText_eq_ok.1 hname with ⟨hnull, rfl⟩ | ⟨s, hs, rfl⟩
  · rw [hnull, houter]
    exact fileName_follows _ declared
  · rw [hs]
    exact fileName_follows _ s

theorem homeUrl_follows (outer block : Fields) :
    Follows id (homeUrl outer block) (urlChecks outer block) := by
  refine (blockText_follows block "url").bind_cons fun url hurl => ?_
  rcases optionalText_eq_ok.1 hurl with ⟨hnull, rfl⟩ | ⟨s, hs, rfl⟩
  · rw [hnull]
    exact (optionalText_follows _ _).bind_cons fun _ _ => .ok _
  · rw [hs]
    exact ⟨_, rfl⟩

theorem texts_follows (o : Overrides) (outer block : Fields) :
    Follows id (texts o outer block) (textChecks o outer block) := by
  refine (appId_follows block).bind_cons fun _ _ => ?_
  refine (declaredName_follows outer).bind_cons fun declared hdeclared => ?_
  refine (displayName_follows (declaredName_eq_ok.1 hdeclared).1 block).bind fun _ _ => ?_
  refine (firstText_follows _ _).bind_cons fun _ _ => ?_
  refine (firstText_follows _ _).bind_cons fun _ _ => ?_
  refine (firstText_follows _ _).bind_cons fun _ _ => ?_
  refine (homeUrl_follows outer block).bind fun _ _ => ?_
  refine (blockText_follows block _).bind_cons fun _ _ => ?_
  exact (blockText_follows block _).bind_cons fun _ _ => .ok _

theorem selectAfter_follows : ∀ (found : List Language) (names : List Value),
    Follows id (Language.selectAfter found names)
      [(names.find? fun name => (Language.ofValue? name).isNone).map .unsupportedLanguage]
  | found, [] => ⟨found, rfl⟩
  | found, name :: names => by
    rw [Language.selectAfter, List.find?_cons]
    cases Language.ofValue? name with
    | none => rfl
    | some l => exact selectAfter_follows _ names

theorem eq_null_of_isNull : ∀ {v : Value}, v.isNull = true → v = .null
  | .scalar .null, _ => rfl

theorem languages_follows (block : Fields) :
    Follows id (languages block) (languageChecks (block.field "languages")) := by
  cases hnull : (block.field "languages").isNull with
  | true =>
    rw [languages, eq_null_of_isNull hnull]
    exact ⟨_, rfl⟩
  | false =>
    simp only [languages, languageChecks, hnull]
    cases (block.field "languages").list? with
    | none => rfl
    | some names =>
      cases names with
      | nil => exact ⟨_, rfl⟩
      | cons name names => exact selectAfter_follows [] (name :: names)

theorem privilege_follows (v : Value) : Follows id (Privilege.ofValue v) [privilegeCheck v] := by
  unfold Privilege.ofValue privilegeCheck
  split
  · exact ⟨_, rfl⟩
  · exact ⟨_, rfl⟩
  · exact ⟨_, rfl⟩
  · exact ⟨_, rfl⟩
  · split
    · contradiction
    · rename_i b _ _ _ _
      cases b <;> contradiction
    · contradiction
    · rfl

theorem licenseName_follows (block : Fields) :
    Follows id (licenseName block) [blockTextCheck block "license_file"] := by
  refine (blockText_follows block _).bind_cons fun name _ => ?_
  cases name with
  | none => exact ⟨_, rfl⟩
  | some s => exact ⟨_, rfl⟩

theorem checkText_follows (fs : Fields) (key : String) :
    Follows id (SignTool.checkText fs key) [signToolTextCheck fs key] := by
  unfold SignTool.checkText signToolTextCheck
  cases fs.field key with
  | scalar s => cases s <;> first | rfl | exact ⟨_, rfl⟩
  | _ => rfl

theorem checkNumber_follows (fs : Fields) (key : String) :
    Follows id (SignTool.checkNumber fs key) [signToolNumberCheck fs key] := by
  unfold SignTool.checkNumber signToolNumberCheck
  cases fs.field? key with
  | none => exact ⟨_, rfl⟩
  | some v =>
    cases v with
    | scalar s =>
      cases s with
      | int n =>
        simp only [naturalOf]
        by_cases hn : n < 0
        · simp only [hn, if_true, Int.not_le.2 hn, decide_false]
          rfl
        · simp only [hn, if_false, Int.not_lt.1 hn, decide_true]
          exact ⟨(), rfl⟩
      | _ => rfl
    | _ => rfl

theorem check_follows (option : Value) (o : SignToolOverrides) :
    Follows id (SignTool.check option o) (signToolChecks option o) := by
  unfold SignTool.check signToolChecks
  cases option.isNull && o.isEmpty with
  | true => exact ⟨_, rfl⟩
  | false =>
    cases SignTool.fieldsOf? option with
    | none => rfl
    | some fs =>
      simp only [Option.getD_some]
      refine Follows.pass ?_
      refine (checkText_follows fs _).bind_cons fun _ _ => ?_
      refine (checkText_follows fs _).bind_cons fun _ _ => ?_
      refine (checkText_follows fs _).bind_cons fun _ _ => ?_
      refine (checkNumber_follows fs _).bind_cons fun _ _ => ?_
      refine (checkNumber_follows fs _).bind_cons fun _ _ => ?_
      cases SignTool.namesSomething option fs o with
      | true => exact ⟨_, rfl⟩
      | false => rfl

theorem architecture_follows (v : Value) :
    Follows id (Architecture.ofValue v) [architectureCheck v] := by
  unfold Architecture.ofValue architectureCheck
  cases v.isNull with
  | true => exact ⟨_, rfl⟩
  | false =>
    cases v.text? with
    | none => rfl
    | some s =>
      have hfind : (Architecture.all.find? (·.option == s)).isSome =
          (Architecture.all.map Architecture.option).contains s := by
        rw [Bool.eq_iff_iff]
        simp [List.find?_isSome]
      simp only [Option.bind_some, Option.any_some, Bool.false_or, ← hfind, Bool.false_eq_true,
        if_false]
      cases Architecture.all.find? (·.option == s) with
      | none => rfl
      | some a => exact ⟨_, rfl⟩

theorem runIfSilent_follows (block : Fields) : Follows id (runIfSilent block)
    [truthCheck (.block "run_if_silent_mode") (block.field? "run_if_silent_mode")] := by
  unfold runIfSilent truthCheck
  cases block.field? "run_if_silent_mode" with
  | none => exact ⟨_, rfl⟩
  | some v =>
    cases v with
    | scalar s => cases s <;> first | rfl | exact ⟨_, rfl⟩
    | _ => rfl

theorem signTool_follows (o : Overrides) (block : Fields) : Follows id (signTool o block)
    (signToolChecks (block.field "sign_tool") o.signTool) := by
  have h := (check_follows (block.field "sign_tool") o.signTool).bind
    (f := fun _ => pure (SignTool.build (block.field "sign_tool") o.signTool))
    (fun _ _ => .ok _)
  rwa [List.append_nil] at h

theorem finish_follows (f : Front) (o : Overrides) :
    Follows id (finish f o) (finishChecks o f.block) := by
  refine (signTool_follows o f.block).bind fun _ _ => ?_
  refine (architecture_follows _).bind_cons fun _ _ => ?_
  refine (optionalTexts_follows _ _).bind_cons fun _ _ => ?_
  refine (runIfSilent_follows _).bind_cons fun _ _ => ?_
  refine (optionalTexts_follows _ _).bind_cons fun _ _ => ?_
  exact (blockText_follows f.block _).bind_cons fun _ _ => .ok _

theorem blocksOf_follows (v : Value) : Follows id (blocksOf v)
    [require v.fields?.isSome .notMapping,
      require ((outerOf v).field blockName).fields?.isSome .noBlock] := by
  unfold blocksOf outerOf
  cases v.fields? with
  | none => rfl
  | some outer =>
    simp only [Option.getD_some]
    cases (outer.field blockName).fields? with
    | none => rfl
    | some block => exact ⟨_, rfl⟩

theorem blocksOf_eq_ok {v : Value} {outer block : Fields} (h : blocksOf v = .ok (outer, block)) :
    outer = outerOf v ∧ block = blockOf v := by
  unfold blocksOf at h
  unfold blockOf outerOf
  cases hv : v.fields? with
  | none => simp [hv] at h
  | some fs =>
    cases hb : (fs.field blockName).fields? with
    | none => simp [hv, hb] at h
    | some bs =>
      simp only [hv, hb, Except.ok.injEq, Prod.mk.injEq] at h
      simp [← h.1, ← h.2, hb]

/-! ## Lookups between the checks -/

/-- What can end resolving. -/
inductive Trouble where
  | finding (r : Refusal)
  | tooLong (path : Path)

def Trouble.failure : Trouble → Failure
  | .finding r => .ofRefusal r
  | .tooLong path => .disk (.fault ⟨.nameTooLong, path.text⟩)

def findings (checks : List Finding) : List (Option Trouble) := checks.map (·.map .finding)

def lookup (d : Disk) (path : Path) : Option Trouble :=
  match d.isFile path with
  | .ok _ => none
  | .error _ => some (.tooLong path)

def iconLookup (d : Disk) (root : Path) (block : Fields) : Option Trouble :=
  (block.field "installer_icon").text?.bind fun s => lookup d (root.child s)

def licenseLookup (d : Disk) (root : Path) (block : Fields) : Option Trouble :=
  (licenseName block).toOption.bind fun s => lookup d (root.child s)

def iconTroubles (d : Disk) (root : Path) (block : Fields) : List (Option Trouble) :=
  findings [blockTextCheck block "installer_icon"] ++ iconLookup d root block ::
    findings [fileCheck d root (block.field "installer_icon")]

def frontTroubles (d : Disk) (root : Path) (v : Value) (o : Overrides) : List (Option Trouble) :=
  findings [require v.fields?.isSome .notMapping,
    require ((outerOf v).field blockName).fields?.isSome .noBlock] ++
  (findings (textChecks o (outerOf v) (blockOf v)) ++ (iconTroubles d root (blockOf v) ++
  (findings (languageChecks ((blockOf v).field "languages")) ++
  (findings [privilegeCheck ((blockOf v).field "admin")] ++
  (findings [blockTextCheck (blockOf v) "license_file"] ++ [licenseLookup d root (blockOf v)])))))

/-- All checks of a descriptor with the lookups between them, in the order in which resolving comes
to them. -/
def troubles (d : Disk) (root : Path) (v : Value) (o : Overrides) : List (Option Trouble) :=
  frontTroubles d root v o ++ findings (finishChecks o (blockOf v))

/-- A step fails with the first trouble of a list, and succeeds where there is none. -/
abbrev Meets {α : Type} (x : Except Failure α) (ts : List (Option Trouble)) : Prop :=
  Follows Trouble.failure x ts

theorem firstFault_nil {ρ : Type} : firstFault ([] : List (Option ρ)) = none := rfl

theorem firstFault_cons {ρ : Type} (c : Option ρ) (cs : List (Option ρ)) :
    firstFault (c :: cs) = c.or (firstFault cs) := by
  cases c <;> rfl

theorem firstFault_append {ρ : Type} (cs ds : List (Option ρ)) :
    firstFault (cs ++ ds) = (firstFault cs).or (firstFault ds) :=
  List.findSome?_append

theorem firstFault_findings : ∀ cs : List Finding,
    firstFault (findings cs) = (firstFault cs).map .finding
  | [] => rfl
  | none :: cs => firstFault_findings cs
  | some _ :: _ => rfl

theorem Follows.meets {α : Type} {x : Except Failure α} {cs : List Finding}
    (h : Follows Failure.ofRefusal x cs) : Meets x (findings cs) :=
  (follows_congr (firstFault_findings cs)).2 h

theorem lookup_meets (d : Disk) (path : Path) :
    Meets (inquire (d.isFile path)) [lookup d path] := by
  unfold lookup
  cases h : d.isFile path with
  | ok found => exact ⟨found, rfl⟩
  | error e =>
    rw [Disk.leadsTo_eq_error h]
    rfl

theorem icon_meets (d : Disk) (root : Path) (block : Fields) :
    Meets (icon d root block) (iconTroubles d root block) := by
  refine (blockText_follows block "installer_icon").refuse.meets.bind fun name hname => ?_
  rw [refuse, mapError_eq_ok] at hname
  unfold iconLookup
  rcases optionalText_eq_ok.1 hname with ⟨hnull, rfl⟩ | ⟨s, hs, rfl⟩
  · rw [hnull]
    exact ⟨_, rfl⟩
  · rw [hs]
    refine (lookup_meets d (root.child s)).bind_cons fun found hfound => ?_
    rw [inquire, mapError_eq_ok] at hfound
    simp only [fileCheck, Value.text?, hfound]
    cases found with
    | true => exact ⟨_, rfl⟩
    | false => rfl

section Resolve

variable {d : Disk} {v : Value} {o : Overrides} {dir root : Path}

theorem front_meets (hroot : d.resolve dir = .ok root) :
    Meets (front d v o dir) (frontTroubles d root v o) := by
  rw [front, hroot]
  refine (blocksOf_follows v).refuse.meets.bind fun blocks hblocks => ?_
  rw [refuse, mapError_eq_ok] at hblocks
  obtain ⟨outer, block⟩ := blocks
  obtain ⟨rfl, rfl⟩ := blocksOf_eq_ok hblocks
  refine (texts_follows o _ _).refuse.meets.bind fun _ _ => ?_
  refine (icon_meets d root _).bind fun _ _ => ?_
  refine (languages_follows _).refuse.meets.bind fun _ _ => ?_
  refine (privilege_follows _).refuse.meets.bind fun _ _ => ?_
  refine (licenseName_follows _).refuse.meets.bind fun name hname => ?_
  rw [refuse, mapError_eq_ok] at hname
  rw [licenseLookup, hname]
  exact (lookup_meets d (root.child name)).bind_cons fun _ _ => ⟨_, rfl⟩

theorem resolve_meets (hroot : d.resolve dir = .ok root) :
    Meets (resolve d v o dir) (troubles d root v o) := by
  refine (front_meets hroot).bind fun f hf => ?_
  obtain ⟨-, outer, -, -, hblocks, -⟩ := front_eq_ok.1 hf
  rw [← (blocksOf_eq_ok hblocks).2]
  exact (finish_follows f o).refuse.meets

section Answered

variable (hicon : ∀ s, (blockOf v).field "installer_icon" = .text s →
    ∃ found, d.isFile (root.child s) = .ok found)
  (hlicense : ∀ s, licenseName (blockOf v) = .ok s → ∃ found, d.isFile (root.child s) = .ok found)

include hicon hlicense

/-- Lookups that have answers are no trouble. -/
theorem firstFault_troubles :
    firstFault (troubles d root v o) = (firstFault (checks d root v o)).map .finding := by
  have hlookup : ∀ {path found}, d.isFile path = .ok found → lookup d path = none := by
    intro path found h
    rw [lookup, h]
  have hicon' : iconLookup d root (blockOf v) = none := by
    rw [iconLookup, Option.bind_eq_none_iff]
    intro s hs
    obtain ⟨found, hfound⟩ := hicon s (Value.text?_eq_some.1 hs)
    exact hlookup hfound
  have hlicense' : licenseLookup d root (blockOf v) = none := by
    rw [licenseLookup, Option.bind_eq_none_iff]
    intro s hs
    obtain ⟨found, hfound⟩ := hlicense s (toOption_eq_some.1 hs)
    exact hlookup hfound
  simp only [troubles, frontTroubles, iconTroubles, checks, frontChecks, iconChecks, hicon',
    hlicense', firstFault_append, firstFault_cons, firstFault_nil, firstFault_findings,
    Option.map_or, Option.or_none, Option.none_or, Option.or_assoc]

/-- Resolving reports the first finding of all checks. -/
theorem resolve_follows (hroot : d.resolve dir = .ok root) :
    Follows Failure.ofRefusal (resolve d v o dir) (checks d root v o) :=
  (follows_congr (firstFault_troubles hicon hlicense)).1 (resolve_meets hroot)

end Answered

end Resolve

end SetupScript.Resolve

namespace SetupScript

open Resolve

theorem told?_ofRefusal (r : Refusal) : (Failure.ofRefusal r).told? =
    if r.shown?.all Value.isWritable then some ⟨"ConfigurationError", r.message⟩ else none := by
  unfold Failure.ofRefusal
  cases r.shown?.all Value.isWritable with
  | true => rfl
  | false => rfl

/-- Where the paths can be looked up, resolving succeeds exactly when every check passes, and else
reports the first finding, unless its message would show a number that is too long to write. -/
theorem resolve_first_failure {d : Disk} {v : Value} {o : Overrides} {dir root : Path}
    (hroot : d.resolve dir = .ok root)
    (hicon : ∀ s, (blockOf v).field "installer_icon" = .text s →
      ∃ found, d.isFile (root.child s) = .ok found)
    (hlicense : ∀ s, licenseName (blockOf v) = .ok s →
      ∃ found, d.isFile (root.child s) = .ok found) :
    ((∃ c, resolve d v o dir = .ok c) ↔ ∀ check ∈ checks d root v o, check = none) ∧
    ∀ r, firstFault (checks d root v o) = some r →
      ∃ f, resolve d v o dir = .error f ∧
        (f.told? = some ⟨"ConfigurationError", r.message⟩ ↔
          r.shown?.all Value.isWritable = true) := by
  have hfollows := resolve_follows (o := o) hicon hlicense hroot
  have hnone : firstFault (checks d root v o) = none ↔ ∀ check ∈ checks d root v o, check = none :=
    List.findSome?_eq_none_iff
  unfold Follows at hfollows
  cases hfault : firstFault (checks d root v o) with
  | none =>
    rw [hfault] at hfollows
    exact ⟨iff_of_true hfollows (hnone.1 hfault), by simp⟩
  | some r =>
    rw [hfault] at hfollows
    refine ⟨iff_of_false ?_ ?_, ?_⟩
    · rintro ⟨c, hc⟩
      rw [hc] at hfollows
      simp at hfollows
    · intro hall
      rw [hnone.2 hall] at hfault
      simp at hfault
    · rintro _ ⟨⟩
      exact ⟨_, hfollows, by simp [told?_ofRefusal]⟩

def faultyDescriptor (version : Value) : Value :=
  .map [(.text "name", .text "tool"), (.text "description", .text ""),
    (.text "maintainer", .text ""),
    (.text "inno_bundle", .map [(.text "id", .text "f887d5f0-4690-1e07-8efc-d16ea7711bfb"),
      (.text "version", version), (.text "installer_icon", .text "app.ico"),
      (.text "arch", .text "arm64")])]

theorem faulty_lookups (version : Value) :
    Disk.resolve ⟨.empty, []⟩ ⟨.root, []⟩ = .ok ⟨.root, []⟩ ∧
    (∀ s, (blockOf (faultyDescriptor version)).field "installer_icon" = .text s →
      ∃ found, Disk.isFile ⟨.empty, []⟩ ((Path.mk .root []).child s) = .ok found) ∧
    ∀ s, licenseName (blockOf (faultyDescriptor version)) = .ok s →
      ∃ found, Disk.isFile ⟨.empty, []⟩ ((Path.mk .root []).child s) = .ok found := by
  refine ⟨rfl, fun s hs => ?_, fun s hs => ?_⟩
  · obtain rfl : "app.ico" = s := Scalar.text.inj (Value.scalar.inj hs)
    exact ⟨false, rfl⟩
  · obtain rfl : "LICENSE" = s := Except.ok.inj hs
    exact ⟨false, rfl⟩

theorem resolve_first_failure_icon : ∃ f,
    resolve ⟨.empty, []⟩ (faultyDescriptor (.text "1")) .default ⟨.root, []⟩ = .error f ∧
      f.told? = some ⟨"ConfigurationError",
        (Refusal.iconMissing ((Path.mk .root []).child "app.ico")).message⟩ := by
  obtain ⟨hroot, hicon, hlicense⟩ := faulty_lookups (.text "1")
  obtain ⟨-, h⟩ := resolve_first_failure (o := .default) hroot hicon hlicense
  obtain ⟨f, hf, htold⟩ := h _ rfl
  exact ⟨f, hf, htold.2 rfl⟩

/-- The least number that is too long to write. -/
def longNumber : Int := tenTo Text.digitLimit

theorem resolve_first_failure_unwritable :
    firstFault (checks ⟨.empty, []⟩ ⟨.root, []⟩ (faultyDescriptor (.int longNumber)) .default) =
        some (.notText (.block "version") (.int longNumber)) ∧
      resolve ⟨.empty, []⟩ (faultyDescriptor (.int longNumber)) .default ⟨.root, []⟩ =
        .error (.defect .numberTooLong) ∧
      (Failure.defect .numberTooLong).told? = none := by
  have hlong : Value.isWritable (.int longNumber) = false := by decide +kernel
  have hfault : firstFault
      (checks ⟨.empty, []⟩ ⟨.root, []⟩ (faultyDescriptor (.int longNumber)) .default) =
        some (.notText (.block "version") (.int longNumber)) := rfl
  have hdefect : Failure.ofRefusal (.notText (.block "version") (.int longNumber)) =
      .defect .numberTooLong := by
    simp [Failure.ofRefusal, Refusal.shown?, hlong]
  obtain ⟨hroot, hicon, hlicense⟩ := faulty_lookups (.int longNumber)
  have hfollows := resolve_follows (o := .default) hicon hlicense hroot
  rw [Follows, hfault] at hfollows
  exact ⟨hfault, hfollows.trans (congrArg _ hdefect), rfl⟩

end SetupScript
