import SetupScript.Configuration
import SetupScript.Configuration.Names
import SetupScript.Failure
import SetupScript.Files.Disk

/-!
# From descriptor to configuration

`resolve` reads a project descriptor field by field, in a fixed order, and stops at the first
field that it refuses. The order is split at the license file, since a missing license is noted
before the fields after it are read: `Front` holds what is read up to there.
-/

namespace SetupScript

namespace Resolve

/-- A text, or nothing where the value is null. -/
def optionalText (field : Field) (v : Value) : Except Refusal (Option String) :=
  match v with
  | .scalar .null => .ok none
  | .scalar (.text s) => .ok (some s)
  | v => .error (.notText field v)

def textsOf? : List Value → Option (List String)
  | [] => some []
  | .scalar (.text s) :: vs => (textsOf? vs).map (s :: ·)
  | _ :: _ => none

def optionalTexts (field : Field) (v : Value) : Except Refusal (Option (List String)) :=
  if v.isNull then .ok none
  else match v.list?.bind textsOf? with
    | some ss => .ok (some ss)
    | none => .error (.notTextList field)

/-- The first value that is not null has to be a text. -/
def firstText (needed : Needed) : List (Field × Value) → Except Refusal String
  | [] => .error (.noCandidate needed)
  | (field, v) :: rest =>
    match v with
    | .scalar .null => firstText needed rest
    | .scalar (.text s) => .ok s
    | v => .error (.notText field v)

/-- The field of the installer's block, as text. -/
def blockText (block : Fields) (key : String) : Except Refusal (Option String) :=
  optionalText (.block key) (block.field key)

def blockCandidate (block : Fields) (key : String) : Field × Value :=
  (.block key, block.field key)

def outerCandidate (outer : Fields) (key : String) : Field × Value :=
  (.outer key, outer.field key)

/-- The descriptor's fields and those of the installer's block in it. -/
def blocksOf (descriptor : Value) : Except Refusal (Fields × Fields) :=
  match descriptor.fields? with
  | none => .error .notMapping
  | some outer =>
    match (outer.field blockName).fields? with
    | none => .error .noBlock
    | some block => .ok (outer, block)

def appId (block : Fields) : Except Refusal String :=
  match block.field "id" with
  | .scalar (.text s) => if Names.acceptsId s then .ok s else .error (.badId s)
  | _ => .error .noId

def declaredName (outer : Fields) : Except Refusal String :=
  match outer.field "name" with
  | .scalar (.text s) => if s == "" then .error .noName else .ok s
  | _ => .error .noName

def fileName (field : Field) (s : String) : Except Refusal String :=
  if Names.acceptsName s then .ok s else .error (.badFileName field s)

/-- The block's name, or the declared one where it has none. -/
def displayName (block : Fields) (declared : String) : Except Refusal String := do
  match ← blockText block "name" with
  | some s => fileName (.block "name") s
  | none => fileName (.outer "name") declared

def version (o : Overrides) (outer block : Fields) : Except Refusal String :=
  firstText .version
    [(.flag "app-version", o.appVersion), blockCandidate block "version",
      outerCandidate outer "version"]

def description (outer block : Fields) : Except Refusal String :=
  firstText .description [blockCandidate block "description", outerCandidate outer "description"]

def publisher (outer block : Fields) : Except Refusal String :=
  firstText .publisher [blockCandidate block "publisher", outerCandidate outer "maintainer"]

/-- The outer home page is read only where the block has no address. -/
def homeUrl (outer block : Fields) : Except Refusal String := do
  match ← blockText block "url" with
  | some s => pure s
  | none => return (← optionalText (.outer "homepage") (outer.field "homepage")).getD ""

/-- The texts that identify and describe the application. -/
structure Texts where
  id : String
  declaredName : String
  name : String
  version : String
  description : String
  publisher : String
  url : String
  supportUrl : String
  updatesUrl : String

def texts (o : Overrides) (outer block : Fields) : Except Refusal Texts := do
  let id ← appId block
  let declared ← declaredName outer
  let name ← displayName block declared
  let version ← version o outer block
  let description ← description outer block
  let publisher ← publisher outer block
  let url ← homeUrl outer block
  let support ← blockText block "support_url"
  let updates ← blockText block "updates_url"
  return ⟨id, declared, name, version, description, publisher, url, support.getD url,
    updates.getD url⟩

def refuse {α : Type} (r : Except Refusal α) : Except Failure α := r.mapError .ofRefusal

def inquire {α : Type} (r : Except DiskError α) : Except Failure α := r.mapError .disk

def icon (d : Disk) (root : Path) (block : Fields) : Except Failure String := do
  match ← refuse (blockText block "installer_icon") with
  | none => return Configuration.defaultIconMark
  | some s =>
    let path := root.child s
    if ← inquire (d.isFile path) then return path.text
    else throw (.refusal (.iconMissing path))

def languages (block : Fields) : Except Refusal (List Language) :=
  let v := block.field "languages"
  if v.isNull then Language.select []
  else match v.list? with
    | some names => Language.select names
    | none => .error .languagesNotList

def defaultLicense : String := "LICENSE"

/-- The name of the license file; an empty name counts as none. -/
def licenseName (block : Fields) : Except Refusal String := do
  match ← blockText block "license_file" with
  | some s => return if s == "" then defaultLicense else s
  | none => return defaultLicense

/-- What is read up to the license file, with the path looked for and whether a file is there. -/
structure Front where
  block : Fields
  texts : Texts
  icon : String
  languages : List Language
  privilege : Privilege
  license : Path
  licensed : Bool

def front (d : Disk) (descriptor : Value) (o : Overrides) (projectDir : Path) :
    Except Failure Front := do
  let root ← inquire (d.resolve projectDir)
  let (outer, block) ← refuse (blocksOf descriptor)
  let texts ← refuse (texts o outer block)
  let icon ← icon d root block
  let languages ← refuse (languages block)
  let privilege ← refuse (Privilege.ofValue (block.field "admin"))
  let license := root.child (← refuse (licenseName block))
  let licensed ← inquire (d.isFile license)
  return ⟨block, texts, icon, languages, privilege, license, licensed⟩

/-- An absent field is false, but a null is no truth value. -/
def runIfSilent (block : Fields) : Except Refusal Bool :=
  match block.field? "run_if_silent_mode" with
  | none => .ok false
  | some (.scalar (.bool b)) => .ok b
  | some v => .error (.notTruth (.block "run_if_silent_mode") v)

def signTool (o : Overrides) (block : Fields) : Except Refusal (Option SignTool) := do
  let option := block.field "sign_tool"
  SignTool.check option o.signTool
  return SignTool.build option o.signTool

def finish (f : Front) (o : Overrides) : Except Refusal Configuration := do
  let signTool ← signTool o f.block
  let architecture ← Architecture.ofValue (f.block.field "arch")
  let runArgs ← optionalTexts (.block "run_args") (f.block.field "run_args")
  let runIfSilent ← runIfSilent f.block
  let runSilentArgs ← optionalTexts (.block "run_silent_args") (f.block.field "run_silent_args")
  let appendedCode ← blockText f.block "append_section_code"
  return {
    id := f.texts.id
    declaredName := f.texts.declaredName
    name := f.texts.name
    description := f.texts.description
    version := f.texts.version
    publisher := f.texts.publisher
    url := f.texts.url
    supportUrl := f.texts.supportUrl
    updatesUrl := f.texts.updatesUrl
    iconText := f.icon
    licenseText := if f.licensed then f.license.text else ""
    signTool
    languages := f.languages
    privilege := f.privilege
    architecture
    variant := o.variant
    app := o.app
    installer := o.installer
    buildArgs := o.buildArgs
    runArgs
    runIfSilent
    runSilentArgs
    appendedCode }

end Resolve

open Resolve in
/-- Relative paths of the descriptor start from the project directory. -/
def resolve (d : Disk) (descriptor : Value) (o : Overrides) (projectDir : Path) :
    Except Failure Configuration := do
  let f ← front d descriptor o projectDir
  refuse (finish f o)

open Resolve in
/-- The license file that resolving looks for without finding it. -/
def missingLicense (d : Disk) (descriptor : Value) (o : Overrides) (projectDir : Path) :
    Option Path :=
  match front d descriptor o projectDir with
  | .ok f => if f.licensed then none else some f.license
  | .error _ => none

end SetupScript
