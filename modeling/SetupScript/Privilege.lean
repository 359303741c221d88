import SetupScript.Refusal

/-!
# Privilege level

With which rights the installer runs. The descriptor gives a truth value, or leaves the choice to
the user.
-/

namespace SetupScript

inductive Privilege where
  | admin
  | nonAdmin
  | auto
deriving DecidableEq

namespace Privilege

def name : Privilege → String
  | .admin => "admin"
  | .nonAdmin => "non_admin"
  | .auto => "auto"

def ofValue : Value → Except Refusal Privilege
  | .scalar .null => .ok .admin
  | .scalar (.bool true) => .ok .admin
  | .scalar (.bool false) => .ok .nonAdmin
  | .scalar (.text "auto") => .ok .auto
  | v => .error (.badPrivilege v)

end Privilege

end SetupScript
