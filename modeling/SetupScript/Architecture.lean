import SetupScript.Refusal

/-!
# Processor architecture

For which processors the installer runs: its name in the descriptor, in the script, and in the
name of the installer's file.
-/

namespace SetupScript

inductive Architecture where
  | x64
  | x64Compatible
deriving DecidableEq

namespace Architecture

def all : List Architecture := [.x64, .x64Compatible]

def option : Architecture → String
  | .x64 => "x64"
  | .x64Compatible => "x64_compatible"

def identifier : Architecture → String
  | .x64 => "x64os"
  | .x64Compatible => "x64compatible"

def family : Architecture → String
  | .x64 => "x86_64"
  | .x64Compatible => "x86_64"

def ofValue (v : Value) : Except Refusal Architecture :=
  if v.isNull then .ok .x64Compatible
  else match v.text?.bind fun s => all.find? (·.option == s) with
    | some a => .ok a
    | none => .error (.badArchitecture (all.map option) v)

end Architecture

end SetupScript
