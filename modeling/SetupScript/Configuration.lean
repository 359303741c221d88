import SetupScript.Architecture
import SetupScript.Language
import SetupScript.Privilege
import SetupScript.SignTool
import SetupScript.Variant

/-!
# Configurations

What an installer is built from, with every choice made. `Configuration.settings` lists the
settings that a build pipeline reads, and `Configuration.environment` writes them down.
-/

namespace SetupScript

/-- What the command line puts in the place of the descriptor, or adds to it. A version that is
null is not given. -/
structure Overrides where
  variant : Variant
  app : Bool
  installer : Bool
  buildArgs : Option String
  appVersion : Value
  signTool : SignToolOverrides

def Overrides.default : Overrides := ⟨.debug, true, true, none, .null, .none⟩

/-- Paths stand as texts. A mark in the place of the icon's path asks for the built-in icon; without
the path of a license file there is no license page. -/
structure Configuration where
  id : String
  declaredName : String
  name : String
  description : String
  version : String
  publisher : String
  url : String
  supportUrl : String
  updatesUrl : String
  iconText : String
  licenseText : String
  signTool : Option SignTool
  languages : List Language
  privilege : Privilege
  architecture : Architecture
  variant : Variant
  app : Bool
  installer : Bool
  buildArgs : Option String
  runArgs : Option (List String)
  runIfSilent : Bool
  runSilentArgs : Option (List String)
  appendedCode : Option String
deriving DecidableEq

namespace Configuration

/-- Stands for the built-in icon where a path is expected. -/
def defaultIconMark : String := "__default_installer_icon__"

variable (c : Configuration)

def exeName : String := c.name ++ ".exe"

/-- The name of the executable file as the application's build leaves it. -/
def declaredExeName : String := c.declaredName ++ ".exe"

def joinedName : String := Text.joinedWords c.name

def launchesAfterInstall : Bool := c.runArgs.isSome

def usesDefaultIcon : Bool := c.iconText == defaultIconMark

def truthText (b : Bool) : String := if b then "true" else "false"

def settings : List (String × String) :=
  [("APP_ID", c.id),
    ("PUBSPEC_NAME", c.declaredName),
    ("APP_NAME", c.name),
    ("APP_NAME_CAMEL_CASE", c.joinedName),
    ("APP_DESCRIPTION", c.description),
    ("APP_VERSION", c.version),
    ("APP_PUBLISHER", c.publisher),
    ("APP_URL", c.url),
    ("APP_SUPPORT_URL", c.supportUrl),
    ("APP_UPDATES_URL", c.updatesUrl),
    ("APP_INSTALLER_ICON", c.iconText),
    ("APP_LANGUAGES", ",".intercalate (c.languages.map Language.locale)),
    ("APP_ADMIN", c.privilege.name),
    ("APP_ARCH", c.architecture.option),
    ("APP_TYPE", c.variant.name),
    ("APP_BUILD_APP", truthText c.app),
    ("APP_BUILD_INSTALLER", truthText c.installer)]

def environment : String :=
  "\n".intercalate (c.settings.map fun v => v.1 ++ "=" ++ v.2)

end Configuration

end SetupScript
