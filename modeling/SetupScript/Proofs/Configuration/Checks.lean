import SetupScript.Configuration.Resolve

/-!
# The checks of a descriptor

Each rule for descriptors is a check of its own, which reads the descriptor without regard to the
other rules. `checks` lists them in the order in which they are reported. A step that fails with
the first finding of a list of checks follows it (`Follows`), and steps one after the other follow
their lists one after the other (`Follows.bind`).
-/

namespace SetupScript.Resolve

/-- What a check finds fault with; a check that passes finds nothing. -/
abbrev Finding := Option Refusal

def firstFault {ρ : Type} (checks : List (Option ρ)) : Option ρ := checks.findSome? id

/-! ## Checks -/

def require (rule : Bool) (r : Refusal) : Finding := if rule then none else some r

/-- Nothing or a text is expected. -/
def textCheck (refusal : Value → Refusal) : Value → Finding
  | .scalar .null => none
  | .scalar (.text _) => none
  | v => some (refusal v)

def blockTextCheck (block : Fields) (key : String) : Finding :=
  textCheck (.notText (.block key)) (block.field key)

def textsCheck (field : Field) (v : Value) : Finding :=
  require (v.isNull || v.list?.any (·.all (·.text?.isSome))) (.notTextList field)

/-- Only the first candidate that is not null counts. -/
def candidateCheck (needed : Needed) (candidates : List (Field × Value)) : Finding :=
  match candidates.find? (!·.2.isNull) with
  | some (field, v) => textCheck (.notText field) v
  | none => some (.noCandidate needed)

def idCheck (block : Fields) : Finding :=
  match (block.field "id").text? with
  | some s => require (Names.acceptsId s) (.badId s)
  | none => some .noId

def declaredNameCheck (outer : Fields) : Finding :=
  require ((outer.field "name").text?.any (· != "")) .noName

def fileNameCheck (field : Field) (v : Value) : Finding :=
  match v.text? with
  | some s => require (Names.acceptsName s) (.badFileName field s)
  | none => none

/-- The name that is shown is the block's, or the declared one where it has none. -/
def nameChecks (outer block : Fields) : List Finding :=
  [blockTextCheck block "name",
    if (block.field "name").isNull then fileNameCheck (.outer "name") (outer.field "name")
    else fileNameCheck (.block "name") (block.field "name")]

def urlChecks (outer block : Fields) : List Finding :=
  [blockTextCheck block "url",
    if (block.field "url").isNull then
      textCheck (.notText (.outer "homepage")) (outer.field "homepage")
    else none]

def textChecks (o : Overrides) (outer block : Fields) : List Finding :=
  idCheck block :: declaredNameCheck outer :: (nameChecks outer block ++
    candidateCheck .version [(.flag "app-version", o.appVersion), blockCandidate block "version",
      outerCandidate outer "version"] ::
    candidateCheck .description
      [blockCandidate block "description", outerCandidate outer "description"] ::
    candidateCheck .publisher
      [blockCandidate block "publisher", outerCandidate outer "maintainer"] ::
    (urlChecks outer block ++
      [blockTextCheck block "support_url", blockTextCheck block "updates_url"]))

/-- A text has to lead to a file. -/
def fileCheck (d : Disk) (root : Path) (v : Value) : Finding :=
  match v.text? with
  | some s => match d.isFile (root.child s) with
    | .ok false => some (.iconMissing (root.child s))
    | _ => none
  | none => none

def iconChecks (d : Disk) (root : Path) (block : Fields) : List Finding :=
  [blockTextCheck block "installer_icon",
    fileCheck d root (block.field "installer_icon")]

def languageChecks (v : Value) : List Finding :=
  [require (v.isNull || v.list?.isSome) .languagesNotList,
    ((v.list?.getD []).find? fun name => (Language.ofValue? name).isNone).map .unsupportedLanguage]

def privilegeCheck : Value → Finding
  | .scalar .null => none
  | .scalar (.bool _) => none
  | .scalar (.text "auto") => none
  | v => some (.badPrivilege v)

def signToolTextCheck (fs : Fields) (key : String) : Finding :=
  textCheck (fun _ => .signToolField key) (fs.field key)

def signToolNumberCheck (fs : Fields) (key : String) : Finding :=
  let label := (Field.block "sign_tool").label ++ "." ++ key
  match fs.field? key with
  | none => none
  | some (.scalar (.int n)) => require (0 ≤ n) (.negative label)
  | some _ => some (.notInteger label)

def signToolChecks (option : Value) (o : SignToolOverrides) : List Finding :=
  let fs := (SignTool.fieldsOf? option).getD []
  if option.isNull && o.isEmpty then []
  else
    [require (SignTool.fieldsOf? option).isSome .signToolShape,
      signToolTextCheck fs "name", signToolTextCheck fs "command", signToolTextCheck fs "params",
      signToolNumberCheck fs "retry_count", signToolNumberCheck fs "retry_delay",
      require (SignTool.namesSomething option fs o) .signToolEmpty]

def architectureCheck (v : Value) : Finding :=
  require (v.isNull || v.text?.any ((Architecture.all.map Architecture.option).contains ·))
    (.badArchitecture (Architecture.all.map Architecture.option) v)

def truthCheck (field : Field) : Option Value → Finding
  | none => none
  | some (.scalar (.bool _)) => none
  | some v => some (.notTruth field v)

def finishChecks (o : Overrides) (block : Fields) : List Finding :=
  signToolChecks (block.field "sign_tool") o.signTool ++
    [architectureCheck (block.field "arch"),
      textsCheck (.block "run_args") (block.field "run_args"),
      truthCheck (.block "run_if_silent_mode") (block.field? "run_if_silent_mode"),
      textsCheck (.block "run_silent_args") (block.field "run_silent_args"),
      blockTextCheck block "append_section_code"]

def outerOf (v : Value) : Fields := v.fields?.getD []

def blockOf (v : Value) : Fields := ((outerOf v).field blockName).fields?.getD []

def frontChecks (d : Disk) (root : Path) (v : Value) (o : Overrides) : List Finding :=
  require v.fields?.isSome .notMapping ::
    require ((outerOf v).field blockName).fields?.isSome .noBlock ::
    (textChecks o (outerOf v) (blockOf v) ++ (iconChecks d root (blockOf v) ++
      (languageChecks ((blockOf v).field "languages") ++
        [privilegeCheck ((blockOf v).field "admin"),
          blockTextCheck (blockOf v) "license_file"])))

/-- All checks of a descriptor, in the order in which their findings are reported. -/
def checks (d : Disk) (root : Path) (v : Value) (o : Overrides) : List Finding :=
  frontChecks d root v o ++ finishChecks o (blockOf v)

/-! ## Steps that follow checks -/

section Follows

variable {ρ σ ε α β : Type} {tell : ρ → ε} {x : Except ε α} {f : α → Except ε β}
  {check : Option ρ} {cs ds : List (Option ρ)}

/-- A step fails with the first finding of the checks, and succeeds where there is none. -/
def Follows (tell : ρ → ε) (x : Except ε α) (cs : List (Option ρ)) : Prop :=
  match firstFault cs with
  | none => ∃ a, x = .ok a
  | some r => x = .error (tell r)

theorem Follows.ok (a : α) : Follows tell (.ok a) [] := ⟨a, rfl⟩

theorem Follows.pass (hx : Follows tell x cs) : Follows tell x (none :: cs) := hx

theorem Follows.bind (hx : Follows tell x cs)
    (h : ∀ a, x = .ok a → Follows tell (f a) ds) : Follows tell (x >>= f) (cs ++ ds) := by
  unfold Follows at hx h ⊢
  rw [firstFault, List.findSome?_append]
  cases hc : List.findSome? id cs with
  | none =>
    rw [firstFault, hc] at hx
    obtain ⟨a, rfl⟩ := hx
    exact h a rfl
  | some r =>
    rw [firstFault, hc] at hx
    rw [hx]
    rfl

theorem Follows.bind_cons (hx : Follows tell x [check])
    (h : ∀ a, x = .ok a → Follows tell (f a) ds) : Follows tell (x >>= f) (check :: ds) :=
  hx.bind h

theorem follows_congr {g : σ → ρ} {es : List (Option σ)}
    (h : firstFault cs = (firstFault es).map g) : Follows tell x cs ↔ Follows (tell ∘ g) x es := by
  unfold Follows
  rw [h]
  cases firstFault es <;> rfl

theorem Follows.refuse {x : Except Refusal α} {cs : List Finding} (hx : Follows id x cs) :
    Follows Failure.ofRefusal (refuse x) cs := by
  unfold Follows at hx ⊢
  cases hc : firstFault cs with
  | none =>
    rw [hc] at hx
    obtain ⟨a, rfl⟩ := hx
    exact ⟨a, rfl⟩
  | some r =>
    rw [hc] at hx
    rw [hx]
    rfl

end Follows

end SetupScript.Resolve
