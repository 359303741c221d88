import SetupScript.Proofs.Configuration.Resolved
import SetupScript.Proofs.Script.OneLine
import SetupScript.Proofs.Script.Settings
import SetupScript.Proofs.Text.CodePoints

/-!
# Reading an environment back

The settings that a build pipeline reads stand on a line each, a name and a value with an equals
sign between them. A line feed in a text makes two lines of one (`length_lines_environment`), so the
settings are read back just where no text of the configuration holds one
(`environment_readsBack_iff`). A surrogate in a text leaves the environment without bytes
(`isEncodable_environment_iff`).
-/

namespace SetupScript

open Text Script

namespace Text

theorem length_splitAll {α : Type} {p : α → Bool} : ∀ xs : List α,
    (splitAll p xs).length = xs.countP p + 1
  | [] => rfl
  | x :: xs => by
    have ih := length_splitAll (p := p) xs
    cases hx : p x with
    | true => simp [splitAll_cons_of_pos hx, hx, ih]
    | false =>
      obtain ⟨w, ws, hw⟩ := List.exists_cons_of_ne_nil (splitAll_ne_nil (p := p) xs)
      rw [splitAll_cons_of_neg hx hw, List.countP_cons_of_neg (by simp [hx]), ← ih, hw]
      rfl

theorem isLine_intercalate {t : String} (ht : IsLine t) : ∀ {ss : List String},
    (∀ s ∈ ss, IsLine s) → IsLine (t.intercalate ss)
  | [], _ => by simp
  | [s], h => by simpa using h
  | s :: u :: ss, h => by
    obtain ⟨hs, hss⟩ := List.forall_mem_cons.1 h
    have ih := isLine_intercalate ht hss
    rw [String.intercalate_cons_cons, isLine_append, isLine_append]
    exact ⟨⟨hs, ht⟩, ih⟩

theorem length_lines (s : String) : (lines s).length = s.toList.count '\n' + 1 := by
  rw [lines, List.length_map, length_splitAll]
  rfl

theorem length_le_flatMap_lines : ∀ ss : List String, ss.length ≤ (ss.flatMap lines).length
  | [] => Nat.le_refl 0
  | s :: ss => by
    have ih := length_le_flatMap_lines ss
    rw [List.flatMap_cons, List.length_append, length_lines, List.length_cons]
    omega

/-- No line is added just when every text is a line. -/
theorem length_flatMap_lines_eq_iff : ∀ ss : List String,
    (ss.flatMap lines).length = ss.length ↔ ∀ s ∈ ss, IsLine s
  | [] => by simp
  | s :: ss => by
    have ih := length_flatMap_lines_eq_iff ss
    have hle := length_le_flatMap_lines ss
    rw [List.flatMap_cons, List.length_append, List.length_cons, length_lines, List.forall_mem_cons,
      ← ih, IsLine, ← List.count_eq_zero]
    omega

end Text

namespace Configuration

def variableNames : List String :=
  ["APP_ID", "PUBSPEC_NAME", "APP_NAME", "APP_NAME_CAMEL_CASE", "APP_DESCRIPTION", "APP_VERSION",
    "APP_PUBLISHER", "APP_URL", "APP_SUPPORT_URL", "APP_UPDATES_URL", "APP_INSTALLER_ICON",
    "APP_LANGUAGES", "APP_ADMIN", "APP_ARCH", "APP_TYPE", "APP_BUILD_APP", "APP_BUILD_INSTALLER"]

/-- The settings on the lines of a text, as far as the lines have an equals sign. -/
def assignments (text : String) : List (String × String) := (lines text).filterMap directive?

/-- A text has a line for each variable, in order, with the attribute of a configuration on it. -/
structure ReadsBack (c : Configuration) (text : String) : Prop where
  count : (lines text).length = 17
  names : (assignments text).map Prod.fst = variableNames
  id : (assignments text).lookup "APP_ID" = some c.id
  declaredName : (assignments text).lookup "PUBSPEC_NAME" = some c.declaredName
  name : (assignments text).lookup "APP_NAME" = some c.name
  joinedName : (assignments text).lookup "APP_NAME_CAMEL_CASE" = some c.joinedName
  description : (assignments text).lookup "APP_DESCRIPTION" = some c.description
  version : (assignments text).lookup "APP_VERSION" = some c.version
  publisher : (assignments text).lookup "APP_PUBLISHER" = some c.publisher
  url : (assignments text).lookup "APP_URL" = some c.url
  supportUrl : (assignments text).lookup "APP_SUPPORT_URL" = some c.supportUrl
  updatesUrl : (assignments text).lookup "APP_UPDATES_URL" = some c.updatesUrl
  icon : (assignments text).lookup "APP_INSTALLER_ICON" = some c.iconText
  languages : (assignments text).lookup "APP_LANGUAGES" =
    some (",".intercalate (c.languages.map Language.locale))
  privilege : (assignments text).lookup "APP_ADMIN" = some c.privilege.name
  architecture : (assignments text).lookup "APP_ARCH" = some c.architecture.option
  variant : (assignments text).lookup "APP_TYPE" = some c.variant.name
  app : (assignments text).lookup "APP_BUILD_APP" = some (if c.app then "true" else "false")
  installer : (assignments text).lookup "APP_BUILD_INSTALLER" =
    some (if c.installer then "true" else "false")

/-- The texts among the settings that are not made of names of this program. -/
def givenTexts (c : Configuration) : List String :=
  [c.id, c.declaredName, c.name, c.description, c.version, c.publisher, c.url, c.supportUrl,
    c.updatesUrl, c.iconText]

variable {c : Configuration}

theorem notMem_of_mem_variableNames : ∀ name ∈ variableNames, '=' ∉ name.toList := by
  decide

theorem isLine_of_mem_variableNames : ∀ name ∈ variableNames, IsLine name := by
  decide

theorem mem_variableNames {v : String × String} (h : v ∈ c.settings) : v.1 ∈ variableNames :=
  List.mem_map_of_mem (f := Prod.fst) h

theorem lines_environment (c : Configuration) :
    lines c.environment = (c.settings.map fun v => v.1 ++ "=" ++ v.2).flatMap lines :=
  lines_intercalate _ _

theorem isLine_locales (ls : List Language) :
    IsLine (",".intercalate (ls.map Language.locale)) := by
  refine isLine_intercalate (by decide) (List.forall_mem_map.2 fun l _ => ?_)
  cases l <;> decide

/-- What is made of names of this program has no line feed. -/
theorem isLine_settings :
    (∀ v ∈ c.settings, IsLine (v.1 ++ "=" ++ v.2)) ↔ ∀ s ∈ c.givenTexts, IsLine s := by
  have hrow : ∀ v ∈ c.settings, IsLine (v.1 ++ "=" ++ v.2) ↔ IsLine v.2 := by
    intro v hv
    rw [isLine_append, isLine_append,
      and_iff_right ⟨isLine_of_mem_variableNames _ (mem_variableNames hv), by decide⟩]
  have hprivilege : IsLine c.privilege.name := by cases c.privilege <;> decide
  have harchitecture : IsLine c.architecture.option := by cases c.architecture <;> decide
  have hvariant : IsLine c.variant.name := by cases c.variant <;> decide
  have htruth : ∀ b, IsLine (truthText b) := by decide
  rw [forall₂_congr hrow]
  simp [settings, givenTexts, joinedName, isLine_joinedWords, isLine_locales, hprivilege,
    harchitecture, hvariant, htruth]

theorem length_lines_environment :
    (lines c.environment).length = 17 ↔ ∀ s ∈ c.givenTexts, IsLine s := by
  rw [lines_environment, ← isLine_settings]
  exact (length_flatMap_lines_eq_iff _).trans List.forall_mem_map

/-- Each line of an environment is a setting. -/
theorem assignments_environment (h : ∀ s ∈ c.givenTexts, IsLine s) :
    assignments c.environment = c.settings := by
  have hlines : lines c.environment = c.settings.map fun v => v.1 ++ "=" ++ v.2 := by
    rw [lines_environment]
    exact (flatMap_lines_eq_self_iff _).2 (List.forall_mem_map.2 (isLine_settings.2 h))
  have hcut : ∀ v ∈ c.settings, (directive? ∘ fun v => v.1 ++ "=" ++ v.2) v = some v :=
    fun v hv => directive?_append (notMem_of_mem_variableNames _ (mem_variableNames hv)) v.2
  rw [assignments, hlines, List.filterMap_map, List.filterMap_congr hcut, List.filterMap_some]

/-- An environment is read back as the configuration just where each text that the configuration
was given is a line; a line feed in one adds a line. -/
theorem environment_readsBack_iff (c : Configuration) :
    ReadsBack c c.environment ↔ ∀ s ∈ c.givenTexts, IsLine s := by
  constructor
  · intro h
    exact length_lines_environment.1 h.count
  · intro h
    have hread := assignments_environment h
    constructor
    case count => exact length_lines_environment.2 h
    all_goals
      rw [hread]
      rfl

/-- The second line of the description is a version of its own. -/
def describedTwice : Value :=
  .map [(.text "name", .text "tool"), (.text "version", .text "1"),
    (.text "description", .text "first\nAPP_VERSION=9"), (.text "maintainer", .text "m"),
    (.text "inno_bundle", .map [(.text "id", .text "f887d5f0-4690-1e07-8efc-d16ea7711bfb"),
      (.text "languages", .list [.text "english"])])]

/-- What the variables are for it. -/
def twiceSettings : List (String × String) :=
  [("APP_ID", "f887d5f0-4690-1e07-8efc-d16ea7711bfb"), ("PUBSPEC_NAME", "tool"),
    ("APP_NAME", "tool"), ("APP_NAME_CAMEL_CASE", "Tool"),
    ("APP_DESCRIPTION", "first\nAPP_VERSION=9"), ("APP_VERSION", "1"), ("APP_PUBLISHER", "m"),
    ("APP_URL", ""), ("APP_SUPPORT_URL", ""), ("APP_UPDATES_URL", ""),
    ("APP_INSTALLER_ICON", "__default_installer_icon__"), ("APP_LANGUAGES", "english"),
    ("APP_ADMIN", "admin"), ("APP_ARCH", "x64_compatible"), ("APP_TYPE", "debug"),
    ("APP_BUILD_APP", "true"), ("APP_BUILD_INSTALLER", "true")]

theorem environment_readsBack_overwritten :
    ∃ c, resolve ⟨.empty, []⟩ describedTwice .default ⟨.root, []⟩ = .ok c ∧ c.version = "1" ∧
      (lines c.environment).length = 18 ∧
      (assignments c.environment).lookup "APP_VERSION" = some "9" ∧
      ¬ ReadsBack c c.environment := by
  have hread : (resolve ⟨.empty, []⟩ describedTwice .default ⟨.root, []⟩).toOption.map
      (fun c => (c.version, c.settings)) = some ("1", twiceSettings) := by
    decide +kernel
  cases h : resolve ⟨.empty, []⟩ describedTwice .default ⟨.root, []⟩ with
  | error f =>
    rw [h] at hread
    contradiction
  | ok c =>
    rw [h] at hread
    simp only [Except.toOption, Option.map_some, Option.some.injEq, Prod.mk.injEq] at hread
    obtain ⟨hversion, hsettings⟩ := hread
    have hlength : (lines c.environment).length = 18 := by
      rw [lines_environment, hsettings]
      decide +kernel
    have hlookup : (assignments c.environment).lookup "APP_VERSION" = some "9" := by
      rw [assignments, lines_environment, hsettings]
      decide +kernel
    refine ⟨c, rfl, hversion, hlength, hlookup, fun hback => ?_⟩
    rw [hback.count] at hlength
    contradiction

/-! ## Bytes of an environment -/

theorem isEncodable_of_mem_variableNames : ∀ name ∈ variableNames, isEncodable name = true := by
  decide

theorem isEncodable_environment (c : Configuration) :
    isEncodable c.environment = c.settings.all fun v => isEncodable v.2 := by
  have hfeed : ("\n" : String) = String.singleton '\n' := rfl
  have hequals : ("=" : String) = String.singleton '=' := rfl
  rw [environment, hfeed, isEncodable_intercalate (by decide) (by decide), List.all_map]
  rw [Bool.eq_iff_iff, List.all_eq_true, List.all_eq_true]
  refine forall₂_congr fun v hv => ?_
  rw [Function.comp_apply, hequals, isEncodable_join (by decide) (by decide),
    isEncodable_of_mem_variableNames _ (mem_variableNames hv), Bool.true_and]

theorem isEncodable_locales (ls : List Language) :
    isEncodable (",".intercalate (ls.map Language.locale)) = true := by
  have hcomma : ("," : String) = String.singleton ',' := rfl
  rw [hcomma, isEncodable_intercalate (by decide) (by decide), List.all_map, List.all_eq_true]
  intro l _
  cases l <;> decide

/-- What is made of names of this program has no surrogate. -/
theorem isEncodable_environment_iff (hjoined : isEncodable c.joinedName = true) :
    isEncodable c.environment = true ↔ ∀ s ∈ c.givenTexts, isEncodable s = true := by
  have hprivilege : isEncodable c.privilege.name = true := by cases c.privilege <;> decide
  have harchitecture : isEncodable c.architecture.option = true := by
    cases c.architecture <;> decide
  have hvariant : isEncodable c.variant.name = true := by cases c.variant <;> decide
  have htruth : ∀ b, isEncodable (truthText b) = true := by decide
  rw [isEncodable_environment, List.all_eq_true]
  simp [settings, givenTexts, hjoined, isEncodable_locales, hprivilege, harchitecture, hvariant,
    htruth]

end Configuration

end SetupScript
