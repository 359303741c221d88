import SetupScript.Proofs.Configuration.Likeness

/-!
# What resolving reads

Resolving reads a fixed set of fields, an absent one as null, and a fallback only where nothing
stands before it (`SameReadings`). Steps that read values which are the same give the same, or
refuse them with the same message (`Agree`), so descriptors with the same readings are resolved
alike (`resolve_agree`); `run_if_silent_mode` alone tells absence from null.
-/

namespace SetupScript

namespace Value

/-- The two hold the same and are shown alike in messages. -/
structure ReadAlike (v w : Value) : Prop where
  like : v.Like w
  written : v.written = w.written
  isWritable : v.isWritable = w.isWritable

/-- The two are read alike, and so are the items of lists. -/
structure Same (v w : Value) : Prop extends ReadAlike v w where
  items : ∀ xs ys, v.list? = some xs → w.list? = some ys → List.Forall₂ ReadAlike xs ys

variable {v w : Value}

theorem ReadAlike.refl (v : Value) : v.ReadAlike v := ⟨.refl v, rfl, rfl⟩

theorem Same.refl (v : Value) : v.Same v := by
  refine ⟨.refl v, fun xs ys hxs hys => ?_⟩
  obtain rfl := Option.some.inj (hxs.symm.trans hys)
  exact List.forall₂_same.2 fun x _ => .refl x

/-- Values that are the same are one scalar, or no scalars. -/
theorem ReadAlike.cases (h : v.ReadAlike w) :
    (∃ s, v = .scalar s ∧ w = .scalar s) ∨ (∀ s, v ≠ .scalar s) ∧ ∀ s, w ≠ .scalar s := by
  by_cases hv : ∃ s, v = .scalar s
  · obtain ⟨s, rfl⟩ := hv
    exact .inl ⟨s, rfl, h.like.eq_scalar⟩
  · refine .inr ⟨fun s hs => hv ⟨s, hs⟩, fun s hs => hv ⟨s, h.like.scalar_iff.2 hs⟩⟩

end Value

/-- A null at the end of a mapping is read as nothing is. -/
theorem Fields.field_append_null (fs : Fields) (other key : String) :
    Fields.field (fs ++ [(.text other, .null)]) key = fs.field key := by
  unfold Fields.field Fields.field?
  rw [List.find?_append]
  cases fs.find? fun f => f.1 == .text key with
  | some f => rfl
  | none =>
    rw [List.find?_singleton]
    split <;> rfl

/-- The same text is told of both, if there is one. -/
structure Refusal.SameMessage (r r' : Refusal) : Prop where
  message : r.message = r'.message
  isWritable : r.shown?.all Value.isWritable = r'.shown?.all Value.isWritable

instance : Std.Refl Refusal.SameMessage := ⟨fun _ => ⟨rfl, rfl⟩⟩

/-- The same is told of both, and what is not told is the same failure. -/
structure Failure.SameTold (f f' : Failure) : Prop where
  told : f.told? = f'.told?
  untold : f.told? = none → f = f'

instance : Std.Refl Failure.SameTold := ⟨fun _ => ⟨rfl, fun _ => rfl⟩⟩

theorem Refusal.SameMessage.ofRefusal {r r' : Refusal} (h : r.SameMessage r') :
    (Failure.ofRefusal r).SameTold (Failure.ofRefusal r') := by
  refine ⟨?_, fun hnone => ?_⟩
  · rw [told?_ofRefusal, told?_ofRefusal, h.message, h.isWritable]
  · rw [told?_ofRefusal] at hnone
    unfold Failure.ofRefusal
    rw [← h.isWritable]
    cases hwritable : r.shown?.all Value.isWritable with
    | true =>
      rw [hwritable] at hnone
      contradiction
    | false => rfl

/-- Errors that `R` relates, or values that `P` relates. -/
inductive Agree {ε α β : Type} (R : ε → ε → Prop) (P : α → β → Prop) :
    Except ε α → Except ε β → Prop
  | ok {a : α} {b : β} (h : P a b) : Agree R P (.ok a) (.ok b)
  | error {e e' : ε} (h : R e e') : Agree R P (.error e) (.error e')

namespace Agree

variable {ε α β α' β' : Type} {R : ε → ε → Prop} {P : α → β → Prop} {Q : α' → β' → Prop}

theorem bind {x : Except ε α} {y : Except ε β} {f : α → Except ε α'} {g : β → Except ε β'}
    (h : Agree R P x y) (hf : ∀ a b, x = .ok a → P a b → Agree R Q (f a) (g b)) :
    Agree R Q (x >>= f) (y >>= g) := by
  cases h with
  | ok h => exact hf _ _ rfl h
  | error h => exact .error h

theorem bind_eq {x y : Except ε α} {f : α → Except ε α'} {g : α → Except ε β'}
    (h : Agree R Eq x y) (hf : ∀ a, x = .ok a → Agree R Q (f a) (g a)) :
    Agree R Q (x >>= f) (y >>= g) := by
  refine h.bind fun a b ha hab => ?_
  rw [← hab]
  exact hf a ha

theorem refl [Std.Refl R] (x : Except ε α) : Agree R Eq x x := by
  cases x with
  | ok a => exact .ok rfl
  | error e => exact .error (Std.Refl.refl e)

theorem both_ok {x y : Except ε α} (h : Agree R Eq x y) (hx : ∃ a, x = .ok a) :
    ∃ a, x = .ok a ∧ y = .ok a := by
  obtain ⟨a, rfl⟩ := hx
  cases h with
  | ok h => exact ⟨a, rfl, by rw [h]⟩

theorem refuse {P : α → β → Prop} {x : Except Refusal α} {y : Except Refusal β}
    (h : Agree Refusal.SameMessage P x y) :
    Agree Failure.SameTold P (Resolve.refuse x) (Resolve.refuse y) := by
  cases h with
  | ok h => exact .ok h
  | error h => exact .error h.ofRefusal

end Agree

namespace Resolve

/-- What two steps read is the same for those who use what they give. -/
abbrev SameReading {α : Type} (x y : Except Refusal α) : Prop := Agree Refusal.SameMessage Eq x y

variable {α : Type} {v w : Value} {o : Overrides}

theorem sameMessage {F : Value → Refusal} (h : v.ReadAlike w)
    (hmessage : ∃ before after, ∀ v, (F v).message = before ++ v.written ++ after)
    (hshown : ∀ v, (F v).shown? = some v) : (F v).SameMessage (F w) := by
  obtain ⟨before, after, hmessage⟩ := hmessage
  refine ⟨?_, ?_⟩
  · rw [hmessage, hmessage, h.written]
  · rw [hshown, hshown]
    exact h.isWritable

theorem notText_sameMessage (h : v.ReadAlike w) (field : Field) :
    (Refusal.notText field v).SameMessage (.notText field w) :=
  sameMessage (F := .notText field) h ⟨_, _, fun _ => rfl⟩ fun _ => rfl

/-- A step that refuses whatever is no scalar. -/
theorem sameReading_of_scalars {F : Value → Except Refusal α} {r : Value → Refusal}
    (hF : ∀ v, (∀ s, v ≠ .scalar s) → F v = .error (r v)) (h : v.ReadAlike w)
    (hr : (r v).SameMessage (r w)) : SameReading (F v) (F w) := by
  rcases h.cases with ⟨s, rfl, rfl⟩ | ⟨hv, hw⟩
  · exact .refl _
  · rw [hF v hv, hF w hw]
    exact .error hr

theorem optionalText_agree (field : Field) (h : v.ReadAlike w) :
    SameReading (optionalText field v) (optionalText field w) := by
  refine sameReading_of_scalars (fun v hv => ?_) h (notText_sameMessage h field)
  cases v with
  | scalar s => exact absurd rfl (hv s)
  | list | pair | set | map | inGraph => rfl

theorem firstText_agree {needed : Needed} {field : Field} {vs ws : List (Field × Value)}
    (h : v.ReadAlike w)
    (hrest : v = .null → SameReading (firstText needed vs) (firstText needed ws)) :
    SameReading (firstText needed ((field, v) :: vs)) (firstText needed ((field, w) :: ws)) := by
  rcases h.cases with ⟨s, rfl, rfl⟩ | ⟨hv, hw⟩
  · cases s with
    | null => exact hrest rfl
    | bool | int | float | text | bytes | date | moment => exact .refl _
  · have hrefused : ∀ {v vs}, (∀ s, v ≠ .scalar s) →
        firstText needed ((field, v) :: vs) = .error (.notText field v) := by
      intro v vs hv
      cases v with
      | scalar s => exact absurd rfl (hv s)
      | list | pair | set | map | inGraph => rfl
    rw [hrefused hv, hrefused hw]
    exact .error (notText_sameMessage h field)

theorem privilege_agree (h : v.ReadAlike w) :
    SameReading (Privilege.ofValue v) (Privilege.ofValue w) := by
  refine sameReading_of_scalars (fun v hv => ?_) h
    (sameMessage (F := .badPrivilege) h ⟨_, _, fun _ => rfl⟩ fun _ => rfl)
  cases v with
  | scalar s => exact absurd rfl (hv s)
  | list | pair | set | map | inGraph => rfl

theorem architecture_agree (h : v.ReadAlike w) :
    SameReading (Architecture.ofValue v) (Architecture.ofValue w) := by
  unfold Architecture.ofValue
  rw [h.like.isNull_eq, h.like.text?_eq]
  split
  · exact .refl _
  · split
    · exact .refl _
    · exact .error (sameMessage (F := .badArchitecture _) h ⟨_, _, fun _ => rfl⟩ fun _ => rfl)

theorem selectAfter_agree {vs ws : List Value} {found : List Language}
    (h : List.Forall₂ Value.ReadAlike vs ws) :
    SameReading (Language.selectAfter found vs) (Language.selectAfter found ws) := by
  induction h generalizing found with
  | nil => exact .refl _
  | @cons v w vs ws h hrest ih =>
    unfold Language.selectAfter
    rw [Language.ofValue?, h.like.text?_eq, ← Language.ofValue?]
    cases Language.ofValue? w with
    | none =>
      exact .error (sameMessage (F := .unsupportedLanguage) h ⟨_, _, fun _ => rfl⟩ fun _ => rfl)
    | some l => exact ih

theorem select_agree {vs ws : List Value} (h : List.Forall₂ Value.ReadAlike vs ws) :
    SameReading (Language.select vs) (Language.select ws) := by
  unfold Language.select
  cases h with
  | nil => exact .refl _
  | cons h hrest => exact selectAfter_agree (.cons h hrest)

theorem checkText_like {fs fs' : Fields} {key : String} (h : fs.SameAt fs' key) :
    SignTool.checkText fs key = SignTool.checkText fs' key := by
  unfold SignTool.checkText
  cases hv : fs.field key with
  | scalar s =>
    have hw : fs'.field key = .scalar s := h.field.scalar_iff.1 hv
    rw [hw]
  | list | pair | set | map | inGraph =>
    cases hw : fs'.field key with
    | scalar s =>
      rw [h.field.scalar_iff.2 hw] at hv
      contradiction
    | list | pair | set | map | inGraph => rfl

theorem checkNumber_like {fs fs' : Fields} {key : String} (h : fs.SameAt fs' key) :
    SignTool.checkNumber fs key = SignTool.checkNumber fs' key := by
  unfold SignTool.checkNumber
  rcases h.cases with ⟨hv, hw⟩ | ⟨v, w, hv, hw, hlike⟩
  · rw [hv, hw]
  · rw [hv, hw]
    have hnatural : ∀ label, naturalOf label v = naturalOf label w := by
      intro label
      cases v with
      | scalar s => rw [hlike.eq_scalar]
      | list | pair | set | map | inGraph =>
        cases w with
        | scalar s => exact absurd hlike.symm.eq_scalar nofun
        | list | pair | set | map | inGraph => rfl
    simp only [hnatural]

theorem namesSomething_like {option option' : Value} {fs fs' : Fields} (h : option.Like option')
    (hfs : ∀ key, fs.SameAt fs' key) (x : SignToolOverrides) :
    SignTool.namesSomething option fs x = SignTool.namesSomething option' fs' x := by
  have hname : (fs.field? "name").map Value.text? = (fs'.field? "name").map Value.text? := by
    rcases (hfs "name").cases with ⟨hv, hw⟩ | ⟨v, w, hv, hw, hlike⟩
    · rw [hv, hw]
    · rw [hv, hw, Option.map_some, Option.map_some, hlike.text?_eq]
  unfold SignTool.namesSomething
  rw [h.fields?_isSome, (hfs "command").field.text?_eq]
  cases hv : fs.field? "name" with
  | none =>
    rw [hv] at hname
    rw [Option.map_eq_none_iff.1 hname.symm]
  | some v =>
    rw [hv] at hname
    obtain ⟨w, hw, htext⟩ := Option.map_eq_some_iff.1 hname.symm
    rw [hw]
    simp only [htext]

/-- Options that are alike pass alike, and are refused for the same fault. -/
theorem check_like {option option' : Value} (h : option.Like option') (x : SignToolOverrides) :
    SignTool.check option x = SignTool.check option' x := by
  unfold SignTool.check
  rw [h.isNull_eq]
  cases hfs : SignTool.fieldsOf? option with
  | none =>
    cases hfs' : SignTool.fieldsOf? option' with
    | none => rfl
    | some fs' =>
      obtain ⟨fs, hsome, -⟩ := SignTool.fieldsOf?_like h.symm hfs'
      rw [hfs] at hsome
      contradiction
  | some fs =>
    obtain ⟨fs', hfs', hsame⟩ := SignTool.fieldsOf?_like h hfs
    simp only [hfs', checkText_like (hsame _), checkNumber_like (hsame _),
      namesSomething_like h hsame]

theorem signTool_agree {block block' : Fields}
    (h : (block.field "sign_tool").Like (block'.field "sign_tool")) :
    signTool o block = signTool o block' := by
  unfold signTool
  simp only [← check_like h]
  cases hcheck : SignTool.check (block.field "sign_tool") o.signTool with
  | error r => rfl
  | ok _ => rw [(SignTool.build_like h hcheck).2]

theorem blocksOf_eq (v : Value) : blocksOf v =
    if v.fields?.isSome then
      if ((outerOf v).field blockName).fields?.isSome then .ok (outerOf v, blockOf v)
      else .error .noBlock
    else .error .notMapping := by
  unfold blocksOf blockOf outerOf
  cases v.fields? with
  | none => rfl
  | some outer =>
    cases hblock : (Fields.field outer blockName).fields? with
    | none => simp [hblock]
    | some block => simp [hblock]

/-- The keys of the block that are read with nulls in the place of what is absent. -/
def blockKeys : List String :=
  ["id", "name", "version", "description", "publisher", "url", "support_url", "updates_url",
    "installer_icon", "languages", "admin", "license_file", "sign_tool", "arch", "run_args",
    "run_silent_args", "append_section_code"]

/-- Two descriptors hold the same where they are read. Absent fields are read as nulls, and outer
fields only where nothing stands before them. -/
structure SameReadings (o : Overrides) (v v' : Value) : Prop where
  mapping : v.fields?.isSome = v'.fields?.isSome
  block : ((outerOf v).field blockName).fields?.isSome =
    ((outerOf v').field blockName).fields?.isSome
  fields : ∀ key ∈ blockKeys, ((blockOf v).field key).Same ((blockOf v').field key)
  name : ((outerOf v).field "name").Same ((outerOf v').field "name")
  version : o.appVersion = .null → (blockOf v).field "version" = .null →
    ((outerOf v).field "version").Same ((outerOf v').field "version")
  description : (blockOf v).field "description" = .null →
    ((outerOf v).field "description").Same ((outerOf v').field "description")
  maintainer : (blockOf v).field "publisher" = .null →
    ((outerOf v).field "maintainer").Same ((outerOf v').field "maintainer")
  homepage : (blockOf v).field "url" = .null →
    ((outerOf v).field "homepage").Same ((outerOf v').field "homepage")

section Descriptors

variable {v v' : Value} (h : SameReadings o v v')

include h

theorem blocksOf_agree : Agree Refusal.SameMessage
    (fun a b => a = (outerOf v, blockOf v) ∧ b = (outerOf v', blockOf v'))
    (blocksOf v) (blocksOf v') := by
  rw [blocksOf_eq v, blocksOf_eq v', ← h.mapping, ← h.block]
  split_ifs
  · exact .ok ⟨rfl, rfl⟩
  · exact .error (Std.Refl.refl _)
  · exact .error (Std.Refl.refl _)

theorem blockText_agree {key : String} (hkey : key ∈ blockKeys) :
    SameReading (blockText (blockOf v) key) (blockText (blockOf v') key) :=
  optionalText_agree _ (h.fields key hkey).toReadAlike

theorem appId_agree : SameReading (appId (blockOf v)) (appId (blockOf v')) := by
  unfold appId
  rcases (h.fields "id" (by decide)).cases with ⟨s, hv, hw⟩ | ⟨hv, hw⟩
  · rw [hv, hw]
    exact .refl _
  · split
    · exact absurd ‹_› (hv _)
    · split
      · exact absurd ‹_› (hw _)
      · exact .refl _

theorem declaredName_agree :
    SameReading (declaredName (outerOf v)) (declaredName (outerOf v')) := by
  unfold declaredName
  rcases h.name.cases with ⟨s, hv, hw⟩ | ⟨hv, hw⟩
  · rw [hv, hw]
    exact .refl _
  · split
    · exact absurd ‹_› (hv _)
    · split
      · exact absurd ‹_› (hw _)
      · exact .refl _

theorem displayName_agree (declared : String) :
    SameReading (displayName (blockOf v) declared) (displayName (blockOf v') declared) :=
  (blockText_agree h (by decide)).bind_eq fun _ _ => .refl _

theorem version_agree :
    SameReading (version o (outerOf v) (blockOf v)) (version o (outerOf v') (blockOf v')) := by
  refine firstText_agree (.refl _) fun hgiven => ?_
  refine firstText_agree (h.fields "version" (by decide)).toReadAlike fun hnull => ?_
  exact firstText_agree (h.version hgiven hnull).toReadAlike fun _ => .refl _

theorem description_agree :
    SameReading (description (outerOf v) (blockOf v)) (description (outerOf v') (blockOf v')) := by
  refine firstText_agree (h.fields "description" (by decide)).toReadAlike fun hnull => ?_
  exact firstText_agree (h.description hnull).toReadAlike fun _ => .refl _

theorem publisher_agree :
    SameReading (publisher (outerOf v) (blockOf v)) (publisher (outerOf v') (blockOf v')) := by
  refine firstText_agree (h.fields "publisher" (by decide)).toReadAlike fun hnull => ?_
  exact firstText_agree (h.maintainer hnull).toReadAlike fun _ => .refl _

theorem homeUrl_agree :
    SameReading (homeUrl (outerOf v) (blockOf v)) (homeUrl (outerOf v') (blockOf v')) := by
  refine (blockText_agree h (by decide)).bind_eq fun url hurl => ?_
  rcases optionalText_eq_ok.1 hurl with ⟨hnull, rfl⟩ | ⟨s, -, rfl⟩
  · exact (optionalText_agree _ (h.homepage hnull).toReadAlike).bind_eq fun _ _ => .refl _
  · exact .refl _

theorem texts_agree :
    SameReading (texts o (outerOf v) (blockOf v)) (texts o (outerOf v') (blockOf v')) := by
  refine (appId_agree h).bind_eq fun _ _ => ?_
  refine (declaredName_agree h).bind_eq fun declared _ => ?_
  refine (displayName_agree h declared).bind_eq fun _ _ => ?_
  refine (version_agree h).bind_eq fun _ _ => ?_
  refine (description_agree h).bind_eq fun _ _ => ?_
  refine (publisher_agree h).bind_eq fun _ _ => ?_
  refine (homeUrl_agree h).bind_eq fun _ _ => ?_
  refine (blockText_agree h (by decide)).bind_eq fun _ _ => ?_
  exact (blockText_agree h (by decide)).bind_eq fun _ _ => .refl _

theorem icon_agree (d : Disk) (root : Path) :
    Agree Failure.SameTold Eq (icon d root (blockOf v)) (icon d root (blockOf v')) := by
  have hname : SameReading (blockText (blockOf v) "installer_icon")
      (blockText (blockOf v') "installer_icon") := blockText_agree h (by decide)
  exact hname.refuse.bind_eq fun _ _ => .refl _

theorem languages_agree : SameReading (languages (blockOf v)) (languages (blockOf v')) := by
  have hsame := h.fields "languages" (by decide)
  unfold languages
  simp only
  rw [hsame.like.isNull_eq]
  split_ifs
  · exact .refl _
  · cases hxs : ((blockOf v).field "languages").list? with
    | none =>
      rw [hsame.like.list?_eq_none hxs]
      exact .refl _
    | some xs =>
      obtain ⟨ys, hys, -⟩ := hsame.like.list? hxs
      rw [hys]
      exact select_agree (hsame.items xs ys hxs hys)

theorem licenseName_agree : SameReading (licenseName (blockOf v)) (licenseName (blockOf v')) :=
  (blockText_agree h (by decide)).bind_eq fun _ _ => .refl _

/-- Up to the license file the same is read, apart from the blocks themselves. -/
theorem front_agree (d : Disk) (dir : Path) : Agree Failure.SameTold
    (fun f f' => f.block = blockOf v ∧ f' = { f with block := blockOf v' })
    (front d v o dir) (front d v' o dir) := by
  refine (Agree.refl _).bind_eq fun root _ => ?_
  refine (blocksOf_agree h).refuse.bind ?_
  rintro _ _ - ⟨rfl, rfl⟩
  refine (texts_agree h).refuse.bind_eq fun _ _ => ?_
  refine (icon_agree h d root).bind_eq fun _ _ => ?_
  refine (languages_agree h).refuse.bind_eq fun _ _ => ?_
  refine (privilege_agree (h.fields "admin" (by decide)).toReadAlike).refuse.bind_eq fun _ _ => ?_
  refine (licenseName_agree h).refuse.bind_eq fun _ _ => ?_
  exact (Agree.refl _).bind_eq fun _ _ => .ok ⟨rfl, rfl⟩

end Descriptors

/-- Whether everything before `run_if_silent_mode` is accepted. -/
def ReachesSilent (d : Disk) (v : Value) (o : Overrides) (dir : Path) : Prop :=
  ∃ f tool architecture args, front d v o dir = .ok f ∧ signTool o f.block = .ok tool ∧
    Architecture.ofValue (f.block.field "arch") = .ok architecture ∧
    optionalTexts (.block "run_args") (f.block.field "run_args") = .ok args

/-- The field that is read differently when it is absent and when it is null. -/
def SameSilent (v v' : Value) : Prop :=
  Option.Rel Value.Same ((blockOf v).field? "run_if_silent_mode")
    ((blockOf v').field? "run_if_silent_mode")

/-- Two descriptors that differ only where one has a null and the other nothing. -/
structure SameButNulls (v v' : Value) : Prop where
  mapping : v.fields?.isSome = v'.fields?.isSome
  block : ((outerOf v).field blockName).fields?.isSome =
    ((outerOf v').field blockName).fields?.isSome
  outer : ∀ key, key ≠ blockName → (outerOf v).field key = (outerOf v').field key
  fields : ∀ key, (blockOf v).field key = (blockOf v').field key

theorem SameButNulls.sameReadings {v v' : Value} (h : SameButNulls v v') :
    SameReadings o v v' := by
  have houter : ∀ key, key ≠ blockName →
      ((outerOf v).field key).Same ((outerOf v').field key) := by
    intro key hkey
    rw [h.outer key hkey]
    exact .refl _
  refine ⟨h.mapping, h.block, fun key _ => ?_, houter _ (by decide),
    fun _ _ => houter _ (by decide), fun _ => houter _ (by decide), fun _ => houter _ (by decide),
    fun _ => houter _ (by decide)⟩
  rw [h.fields key]
  exact .refl _

theorem SameSilent.of_eq {v v' : Value} (h : (blockOf v).field? "run_if_silent_mode" =
    (blockOf v').field? "run_if_silent_mode") : SameSilent v v' := by
  unfold SameSilent
  rw [h]
  cases (blockOf v').field? "run_if_silent_mode" with
  | none => exact .none
  | some w => exact .some (.refl w)

theorem runIfSilent_eq_error {block : Fields} {w : Value}
    (hfield : block.field? "run_if_silent_mode" = some w) (hw : ∀ b, w ≠ .bool b) :
    runIfSilent block = .error (.notTruth (.block "run_if_silent_mode") w) := by
  unfold runIfSilent
  rw [hfield]
  split
  · contradiction
  · rename_i b hb
    exact absurd (Option.some.inj hb) (hw b)
  · rename_i w' hw' 
    rw [Option.some.inj hw']

theorem runIfSilent_agree {v v' : Value} (h : SameSilent v v') :
    SameReading (runIfSilent (blockOf v)) (runIfSilent (blockOf v')) := by
  unfold SameSilent at h
  cases hv : (blockOf v).field? "run_if_silent_mode" with
  | none =>
    rw [hv] at h
    cases hw : (blockOf v').field? "run_if_silent_mode" with
    | none =>
      unfold runIfSilent
      rw [hv, hw]
      exact .refl _
    | some w =>
      rw [hw] at h
      contradiction
  | some w =>
    rw [hv] at h
    cases hw : (blockOf v').field? "run_if_silent_mode" with
    | none =>
      rw [hw] at h
      contradiction
    | some w' =>
      rw [hw] at h
      cases h with
      | some h =>
        rcases h.cases with ⟨s, rfl, rfl⟩ | ⟨hscalar, hscalar'⟩
        · unfold runIfSilent
          rw [hv, hw]
          exact .refl _
        · rw [runIfSilent_eq_error hv fun _ => hscalar _,
            runIfSilent_eq_error hw fun _ => hscalar' _]
          exact .error (sameMessage (F := .notTruth _) h.toReadAlike ⟨_, _, fun _ => rfl⟩
            fun _ => rfl)

variable {v v' : Value} {d : Disk} {dir : Path}

/-- What is read after the license file is read alike, if it is where it is read. -/
theorem finish_agree (h : SameReadings o v v') {f : Front} (hblock : f.block = blockOf v)
    (hsilent : ∀ tool architecture args, signTool o f.block = .ok tool →
      Architecture.ofValue (f.block.field "arch") = .ok architecture →
      optionalTexts (.block "run_args") (f.block.field "run_args") = .ok args → SameSilent v v') :
    SameReading (finish f o) (finish { f with block := blockOf v' } o) := by
  obtain ⟨block, texts, icon, languages, privilege, license, licensed⟩ := f
  obtain rfl : block = blockOf v := hblock
  have htool : SameReading (signTool o (blockOf v)) (signTool o (blockOf v')) := by
    rw [signTool_agree (h.fields "sign_tool" (by decide)).like]
    exact .refl _
  have htexts : ∀ key ∈ ["run_args", "run_silent_args"], SameReading
      (optionalTexts (.block key) ((blockOf v).field key))
      (optionalTexts (.block key) ((blockOf v').field key)) := by
    intro key hkey
    have hread : key ∈ blockKeys := by
      simp only [List.mem_cons, List.not_mem_nil, or_false] at hkey
      rcases hkey with rfl | rfl <;> decide
    rw [optionalTexts_like (h.fields key hread).like]
    exact .refl _
  refine htool.bind_eq fun tool htool => ?_
  refine (architecture_agree (h.fields "arch" (by decide)).toReadAlike).bind_eq
    fun architecture harch => ?_
  refine (htexts _ (by decide)).bind_eq fun args hargs => ?_
  refine (runIfSilent_agree (hsilent tool architecture args htool harch hargs)).bind_eq
    fun _ _ => ?_
  refine (htexts _ (by decide)).bind_eq fun _ _ => ?_
  exact (blockText_agree h (by decide)).bind_eq fun _ _ => .refl _

theorem resolve_agree (h : SameReadings o v v')
    (hsilent : ReachesSilent d v o dir → SameSilent v v') :
    Agree Failure.SameTold Eq (resolve d v o dir) (resolve d v' o dir) := by
  refine (front_agree h d dir).bind ?_
  rintro f _ hf ⟨hblock, rfl⟩
  refine (finish_agree h hblock fun tool architecture args htool harch hargs => ?_).refuse
  exact hsilent ⟨f, tool, architecture, args, hf, htool, harch, hargs⟩

theorem resolve_null_silent (h : (blockOf v).field? "run_if_silent_mode" = some .null)
    (hreaches : ReachesSilent d v o dir) : resolve d v o dir =
      .error (.refusal (.notTruth (.block "run_if_silent_mode") .null)) := by
  obtain ⟨f, tool, architecture, args, hfront, htool, harch, hargs⟩ := hreaches
  obtain ⟨-, outer, -, -, hblocks, -⟩ := front_eq_ok.1 hfront
  have hblock : f.block = blockOf v := (blocksOf_eq_ok hblocks).2
  have hrefused : runIfSilent f.block = .error (.notTruth (.block "run_if_silent_mode") .null) := by
    rw [hblock]
    exact runIfSilent_eq_error h nofun
  have hfinish : finish f o = .error (.notTruth (.block "run_if_silent_mode") .null) := by
    rw [finish, htool]
    change (Architecture.ofValue (f.block.field "arch") >>= _) = _
    rw [harch]
    change (optionalTexts (.block "run_args") (f.block.field "run_args") >>= _) = _
    rw [hargs]
    change (runIfSilent f.block >>= _) = _
    rw [hrefused]
    rfl
  rw [resolve, hfront]
  change refuse (finish f o) = _
  rw [hfinish]
  rfl

end Resolve

open Resolve

/-- Only what is read counts: descriptors with the same readings give the same configuration, or
failures of which the same is told. A null in the place of an absent field makes no difference,
except that `run_if_silent_mode`, where it is reached, is no null. -/
theorem resolve_readings (d : Disk) (o : Overrides) (dir : Path) :
    (∀ v v', SameReadings o v v' → SameSilent v v' ∨ ¬ ReachesSilent d v o dir →
      Agree Failure.SameTold Eq (resolve d v o dir) (resolve d v' o dir)) ∧
    (∀ v v', SameButNulls v v' →
      (blockOf v).field? "run_if_silent_mode" = (blockOf v').field? "run_if_silent_mode" ∨
        ¬ ReachesSilent d v o dir →
      Agree Failure.SameTold Eq (resolve d v o dir) (resolve d v' o dir)) ∧
    ∀ v, (blockOf v).field? "run_if_silent_mode" = some .null → ReachesSilent d v o dir →
      ∃ f, resolve d v o dir = .error f ∧ f.told? = some ⟨"ConfigurationError",
        "inno_bundle.run_if_silent_mode is invalid: expected true or false, got None."⟩ := by
  refine ⟨fun v v' h hsilent => ?_, fun v v' h hsilent => ?_, fun v hnull hreaches => ?_⟩
  · exact resolve_agree h fun hreaches => hsilent.resolve_right (not_not_intro hreaches)
  · exact resolve_agree h.sameReadings fun hreaches =>
      .of_eq (hsilent.resolve_right (not_not_intro hreaches))
  · have hmessage : (Refusal.notTruth (.block "run_if_silent_mode") .null).message =
        "inno_bundle.run_if_silent_mode is invalid: expected true or false, got None." := by
      decide +kernel
    exact ⟨_, resolve_null_silent hnull hreaches,
      congrArg (fun message => some (Told.mk "ConfigurationError" message)) hmessage⟩

/-- A descriptor whose outer fallbacks are not read. -/
def shadowedDescriptor (fallback languages : Value) (rest : Fields) : Value :=
  .map [(.text "name", .text "tool"), (.text "version", fallback), (.text "description", .text "d"),
    (.text "maintainer", fallback), (.text "homepage", fallback),
    (.text "inno_bundle", .map ([(.text "id", .text "f887d5f0-4690-1e07-8efc-d16ea7711bfb"),
      (.text "version", .text "1"), (.text "publisher", .text "p"), (.text "url", .text ""),
      (.text "languages", languages)] ++ rest))]

/-- Languages beside which nothing else is shared. -/
def alone : Value := .inGraph #[.list [.scalar (.text "german")]] 0

def besideAnother : Value := .inGraph #[.map [], .list [.scalar (.text "german")]] 1

theorem alone_same : alone.Same besideAnother := by
  refine ⟨⟨fun n => ?_, by decide +kernel, by decide +kernel⟩, fun xs ys hxs hys => ?_⟩
  · cases n with
    | zero => rfl
    | succ n => rfl
  · obtain rfl : [.text "german"] = xs := Option.some.inj hxs
    obtain rfl : [.text "german"] = ys := Option.some.inj hys
    exact .cons (.refl _) .nil

theorem shadowed_sameReadings : SameReadings .default (shadowedDescriptor (.int 7) alone [])
    (shadowedDescriptor (.list []) besideAnother
      [(.text "unknown", .list []), (.text "sign_tool", .null)]) where
  mapping := rfl
  block := rfl
  fields := by
    simp only [blockKeys, List.forall_mem_cons]
    exact ⟨.refl _, .refl _, .refl _, .refl _, .refl _, .refl _, .refl _, .refl _, .refl _,
      alone_same, .refl _, .refl _, .refl _, .refl _, .refl _, .refl _, .refl _, nofun⟩
  name := .refl _
  version := nofun
  description := fun _ => .refl _
  maintainer := nofun
  homepage := nofun

theorem shadowed_sameButNulls : SameButNulls (shadowedDescriptor .null alone [])
    (shadowedDescriptor .null alone [(.text "arch", .null)]) where
  mapping := rfl
  block := rfl
  outer := by
    intro key hkey
    have hskip : (Scalar.text "inno_bundle" == .text key) = false :=
      beq_false_of_ne fun heq => hkey (Scalar.text.inj heq).symm
    simp only [outerOf, shadowedDescriptor, Value.fields?, Value.outermost, Option.getD_some,
      Fields.field, Fields.field?, List.find?_cons, hskip]
  fields := fun key => (Fields.field_append_null _ "arch" key).symm

theorem resolve_readings_shadowed :
    (∃ c, resolve ⟨.empty, []⟩ (shadowedDescriptor (.int 7) alone []) .default ⟨.root, []⟩ = .ok c ∧
      resolve ⟨.empty, []⟩ (shadowedDescriptor (.list []) besideAnother
        [(.text "unknown", .list []), (.text "sign_tool", .null)]) .default ⟨.root, []⟩ = .ok c) ∧
    (∃ c, resolve ⟨.empty, []⟩ (shadowedDescriptor .null alone []) .default ⟨.root, []⟩ = .ok c ∧
      resolve ⟨.empty, []⟩ (shadowedDescriptor .null alone [(.text "arch", .null)]) .default
        ⟨.root, []⟩ = .ok c) ∧
    ∃ f, resolve ⟨.empty, []⟩
        (shadowedDescriptor .null alone [(.text "run_if_silent_mode", .null)]) .default
        ⟨.root, []⟩ = .error f ∧
      f.told? = some ⟨"ConfigurationError",
        "inno_bundle.run_if_silent_mode is invalid: expected true or false, got None."⟩ := by
  obtain ⟨hsame, hnulls, hsilent⟩ := resolve_readings ⟨.empty, []⟩ .default ⟨.root, []⟩
  refine ⟨?_, ?_, hsilent _ rfl ⟨_, _, _, _, rfl, rfl, rfl, rfl⟩⟩
  · exact Agree.both_ok (hsame _ _ shadowed_sameReadings (.inl .none)) ⟨_, rfl⟩
  · exact Agree.both_ok (hnulls _ _ shadowed_sameButNulls (.inl rfl)) ⟨_, rfl⟩

end SetupScript
