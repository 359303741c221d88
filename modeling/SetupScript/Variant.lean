import SetupScript.Refusal
import SetupScript.Text.Case

/-!
# Build variant

The variant of the application that is packaged. It only decides which directories are used.
-/

namespace SetupScript

inductive Variant where
  | debug
  | profile
  | release
deriving DecidableEq

namespace Variant

def all : List Variant := [.debug, .profile, .release]

def name : Variant → String
  | .debug => "debug"
  | .profile => "profile"
  | .release => "release"

def dirName : Variant → String
  | .debug => "Debug"
  | .profile => "Profile"
  | .release => "Release"

/-- Blanks around the name and the case of its letters do not count. -/
def ofText? (s : String) : Option Variant :=
  all.find? (·.name == Text.toLower (Text.strip s))

def ofValue (v : Value) : Except Refusal Variant :=
  match v.text?.bind ofText? with
  | some variant => .ok variant
  | none => .error (.badVariant (all.map name) v)

end Variant

end SetupScript
