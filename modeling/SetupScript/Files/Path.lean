import SetupScript.Text.Blank
import SetupScript.Text.Quoted

/-!
# Written paths

A path as it is written down: where it starts from and the names on the way. `Path.parse` drops
empty names and single dots and keeps double dots, since what a double dot means depends on the
links before it. `Path.normal` resolves double dots without looking at the disk.
-/

namespace SetupScript

/-- A place on the disk: the names from the root down to it, without dots. -/
abbrev Location := List String

/-- A path that starts with exactly two slashes keeps both of them. -/
inductive Anchor where
  | relative
  | root
  | doubleRoot
deriving DecidableEq

structure Path where
  anchor : Anchor
  parts : List String
deriving DecidableEq

/-- The names between the slashes of a text, empty ones too. -/
def slashPieces (s : String) : List String :=
  (Text.splitAll (· == '/') s.toList).map String.ofList

namespace Path

def anchorOf (cs : List Char) : Anchor :=
  match (cs.takeWhile (· == '/')).length with
  | 0 => .relative
  | 2 => .doubleRoot
  | _ => .root

def parse (s : String) : Path :=
  ⟨anchorOf s.toList, (slashPieces s).filter fun p => p != "" && p != "."⟩

def ofLocation (l : Location) : Path := ⟨.root, l⟩

def anchorText : Anchor → String
  | .relative => ""
  | .root => "/"
  | .doubleRoot => "//"

def text (p : Path) : String :=
  match p with
  | ⟨.relative, []⟩ => "."
  | ⟨a, ps⟩ => anchorText a ++ "/".intercalate ps

def isRelative (p : Path) : Bool := p.anchor == .relative

/-- A path that starts from a root replaces the one before it. -/
def join (p q : Path) : Path :=
  if q.isRelative then ⟨p.anchor, p.parts ++ q.parts⟩ else q

def child (p : Path) (s : String) : Path := p.join (parse s)

/-- Adds names that hold no slash. -/
def descend (p : Path) (names : List String) : Path := ⟨p.anchor, p.parts ++ names⟩

def parent (p : Path) : Path := ⟨p.anchor, p.parts.dropLast⟩

def name (p : Path) : String := p.parts.getLast?.getD ""

/-- Double dots stay. -/
def absolute (here : Location) (p : Path) : Path :=
  if p.isRelative then ⟨.root, here ++ p.parts⟩ else p

/-- Takes back one name for each double dot; the root is its own parent. -/
def withoutDots (before : Location) : List String → Location
  | [] => before
  | p :: ps =>
    if p == ".." then withoutDots before.dropLast ps
    else if p == "" || p == "." then withoutDots before ps
    else withoutDots (before ++ [p]) ps

def normal (here : Location) (p : Path) : Path :=
  let q := p.absolute here
  ⟨q.anchor, withoutDots [] q.parts⟩

/-- Whether the system can be asked about the path. -/
def isNameable (p : Path) : Bool := p.parts.all Text.isNameable

/-- The number of bytes of the path's text. -/
def size (p : Path) : Nat :=
  match p with
  | ⟨.relative, []⟩ => 1
  | ⟨a, ps⟩ => (anchorText a).length + (ps.flatMap Text.nameBytes).length + (ps.length - 1)

/-- How a message names a path object rather than its text. -/
def written (p : Path) : String := "PosixPath(" ++ Text.quoted p.text ++ ")"

end Path

end SetupScript
