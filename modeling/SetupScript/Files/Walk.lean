import SetupScript.Files.Fault
import SetupScript.Files.Tree

/-!
# Walking a file tree

How the system finds the place that a list of names leads to: each name is looked up in the
directory reached so far, and a symbolic link is replaced by the names it holds. `walk` follows a
bounded number of links, so a loop of links ends in a fault.

Where a file is to be made, a link at the end is followed too, but one that ends in a slash asks for
a directory, which cannot be made that way.
-/

namespace SetupScript

/-- A place and what is there; where nothing is, its parent is a directory. -/
abbrev Spot := Location × Option Entry

/-- Names have at most this many bytes. -/
def nameLimit : Nat := 255

/-- Whole paths have fewer bytes than this. -/
def pathLimit : Nat := 4096

/-- At most this many links are followed on one walk. -/
def linkLimit : Nat := 40

/-- What happens to a link at the end of a path: it stays, it is followed, or it is followed to
where a file can be made. -/
inductive Last where
  | stay
  | follow
  | make
deriving DecidableEq

/-- Whether a text asks for a directory by a slash at its end. -/
def asksForDir (s : String) : Bool := s.toList.getLast? == some '/'

/-- Where the names of a link lead from. -/
def linkStart (here : Location) (target : String) : Location :=
  if target.toList.head? == some '/' then [] else here

namespace FileTree

variable (t : FileTree)

/-- One walk up to the first link that has to be followed. -/
def advance (last : Last)
    (onLink : Location → String → List String → Except FaultCode Spot) :
    Location → List String → Except FaultCode Spot
  | here, [] => .ok (here, some .dir)
  | here, name :: rest =>
    if name == "" || name == "." then advance last onLink here rest
    else if name == ".." then advance last onLink here.dropLast rest
    else if nameLimit < Text.nameSize name then .error .nameTooLong
    else
      let place := here ++ [name]
      match t.get? place with
      | none => if rest.isEmpty then .ok (place, none) else .error .absent
      | some .dir => advance last onLink place rest
      | some (.file bytes) =>
        if rest.isEmpty then .ok (place, some (.file bytes)) else .error .notDirectory
      | some (.link target) =>
        if rest.isEmpty && last == .stay then .ok (place, some (.link target))
        else onLink here target rest

def walk : Nat → Last → Location → List String → Except FaultCode Spot
  | 0, last => t.advance last fun _ _ _ => .error .linkLoop
  | links + 1, last => t.advance last fun here target rest =>
      let start := linkStart here target
      if last == .make && rest.isEmpty && asksForDir target then
        (walk links .stay start (Text.trimRight (· == "") (slashPieces target))).bind fun _ =>
          .error .isDirectory
      else walk links last start (slashPieces target ++ rest)

/-- The place of a path with all links before its end followed, by names alone where nothing is
there; `false` marks a path on which a link leads back into itself. The links being followed are
kept in `active`. -/
def settleWith
    (onLink : Location → String → List Location → Location × Bool) (active : List Location) :
    Location → List String → Location × Bool
  | here, [] => (here, true)
  | here, name :: rest =>
    if name == "" || name == "." then settleWith onLink active here rest
    else if name == ".." then settleWith onLink active here.dropLast rest
    else
      let place := here ++ [name]
      match t.get? place with
      | some (.link target) =>
        if active.contains place then (Path.withoutDots place rest, false)
        else
          let r := onLink here target (place :: active)
          if r.2 then settleWith onLink active r.1 rest
          else (Path.withoutDots r.1 rest, false)
      | _ => settleWith onLink active place rest

def settleNested : Nat → List Location → Location → List String → Location × Bool
  | 0, active => t.settleWith (fun here _ _ => (here, false)) active
  | n + 1, active => t.settleWith
      (fun here target active' =>
        settleNested n active' (linkStart here target) (slashPieces target)) active

/-- Links can only be nested as deep as the tree has entries. -/
def settle (here : Location) (names : List String) : Location × Bool :=
  t.settleNested (t.entries.length + 1) [] here names

end FileTree

end SetupScript
