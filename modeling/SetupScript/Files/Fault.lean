import SetupScript.Files.Path

/-!
# What can go wrong on the disk

A fault is what the system answers when it refuses an operation on a path. `DiskError` adds the
errors that are found before the system is asked or after it has answered.
-/

namespace SetupScript

inductive FaultCode where
  | absent
  | occupied
  | notDirectory
  | isDirectory
  | nameTooLong
  | linkLoop
deriving DecidableEq

namespace FaultCode

def number : FaultCode → Nat
  | .absent => 2
  | .occupied => 17
  | .notDirectory => 20
  | .isDirectory => 21
  | .nameTooLong => 36
  | .linkLoop => 40

def text : FaultCode → String
  | .absent => "No such file or directory"
  | .occupied => "File exists"
  | .notDirectory => "Not a directory"
  | .isDirectory => "Is a directory"
  | .nameTooLong => "File name too long"
  | .linkLoop => "Too many levels of symbolic links"

end FaultCode

structure Fault where
  code : FaultCode
  path : String
deriving DecidableEq

def Fault.message (f : Fault) : String :=
  "[Errno " ++ toString f.code.number ++ "] " ++ f.code.text ++ ": " ++ Text.quoted f.path

inductive DiskError where
  | fault (f : Fault)
  | sameFile (source target : Path)
  | noDirectory (path : Path)
  | unnameable
  | linkLoop
  | undecodable
deriving DecidableEq

namespace DiskError

def message : DiskError → String
  | .fault f => f.message
  | .sameFile source target => source.written ++ " and " ++ target.written ++ " are the same file"
  | .noDirectory path => "Directory does not exist: " ++ path.text
  | .unnameable => "a path holds a name that no file can have"
  | .linkLoop => "symbolic link loop"
  | .undecodable => "not UTF-8"

/-- Whether the system refused the operation, or one of the checks of copying. -/
def isRefusal : DiskError → Bool
  | .fault _ => true
  | .sameFile .. => true
  | .noDirectory _ => true
  | _ => false

/-- Errors after which a question about what is there is answered by "nothing". -/
def meansNothingThere : DiskError → Bool
  | .fault f => f.code == .absent || f.code == .notDirectory || f.code == .linkLoop
  | .unnameable => true
  | _ => false

end DiskError

end SetupScript
