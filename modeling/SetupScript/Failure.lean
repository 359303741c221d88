import SetupScript.Refusal

/-!
# Failures

Everything that ends an operation early. Refusals and script errors are what the program tells
its user; the other constructors pass through it.
-/

namespace SetupScript

inductive ScriptError where
  | noAppDir (path : Path)
  | broken (error : DiskError)

def ScriptError.message : ScriptError → String
  | .noAppDir path => "Application build directory " ++ path.text ++ " does not exist."
  | .broken error => "Failed to generate installer script: " ++ error.message

/-- Failures of the program's own making that no message is worded for. -/
inductive Defect where
  | invalidYaml (detail : String)
  | scalarOutOfRange
  | scalarTooLarge
  | scalarEmpty
  | scalarNotTruth
  | scalarNotMoment
  | momentNotText
  | nestedTooDeep
  | undecodable
  | unencodable
  | numberTooLong
  | noParent
  | notFields
  | notItems
  | badFormat
  | formatNotText
  | levelNotNamed
  | levelNotNumber
  | logPathNotText
deriving DecidableEq

/-- A kind of failure and its message. -/
structure Told where
  kind : String
  message : String

inductive Failure where
  | refusal (r : Refusal)
  | script (e : ScriptError)
  | disk (e : DiskError)
  | defect (d : Defect)

namespace Failure

/-- A refusal, unless its message would have to show a number that is too long. -/
def ofRefusal (r : Refusal) : Failure :=
  if r.shown?.all Value.isWritable then .refusal r else .defect .numberTooLong

/-- What the user is told of a failure that the program words itself. -/
def told? : Failure → Option Told
  | .refusal r => some ⟨"ConfigurationError", r.message⟩
  | .script e => some ⟨"ScriptSynthesisError", e.message⟩
  | _ => none

end Failure

end SetupScript
