import SetupScript.Files.Walk
import SetupScript.Text.Lines

/-!
# The disk

A file tree together with the working directory, and what a program can ask of it and do to it.
Questions are functions of the disk; changes are disk work, which keeps what was changed before
it fails.
-/

namespace SetupScript

structure Disk where
  tree : FileTree
  here : Location

/-- A change of the disk that can fail half way. -/
abbrev DiskWork := ExceptT DiskError (StateM Disk)

namespace Disk

def start (d : Disk) (p : Path) : Location :=
  if p.isRelative then d.here else []

def find (d : Disk) (last : Last) (p : Path) : Except DiskError Spot :=
  if !p.isNameable then .error .unnameable
  else if pathLimit ≤ p.size then .error (.fault ⟨.nameTooLong, p.text⟩)
  else match d.tree.walk linkLimit last (d.start p) p.parts with
    | .ok spot => .ok spot
    | .error code => .error (.fault ⟨code, p.text⟩)

/-- What a path leads to in the end. -/
def entry (d : Disk) (p : Path) : Except DiskError (Location × Entry) :=
  match d.find .follow p with
  | .error e => .error e
  | .ok (_, none) => .error (.fault ⟨.absent, p.text⟩)
  | .ok (place, some e) => .ok (place, e)

def lookup? (d : Disk) (p : Path) : Except DiskError (Option Entry) :=
  match d.entry p with
  | .ok (_, e) => .ok (some e)
  | .error e => if e.meansNothingThere then .ok none else .error e

/-- Whether a path leads to an entry of some kind. -/
def leadsTo (kind : Entry → Bool) (d : Disk) (p : Path) : Except DiskError Bool :=
  (d.lookup? p).map fun e => e.any kind

def isFile (d : Disk) (p : Path) : Except DiskError Bool := d.leadsTo Entry.isFile p

def isDir (d : Disk) (p : Path) : Except DiskError Bool := d.leadsTo Entry.isDir p

def read (d : Disk) (p : Path) : Except DiskError ByteArray :=
  match d.entry p with
  | .ok (_, .file bytes) => .ok bytes
  | .ok (_, _) => .error (.fault ⟨.isDirectory, p.text⟩)
  | .error e => .error e

def readText (d : Disk) (p : Path) : Except DiskError String :=
  match d.read p with
  | .error e => .error e
  | .ok bytes =>
    match String.fromUTF8? bytes with
    | some s => .ok (String.ofList (Text.ofChars (Text.unifyLines s.toList)))
    | none => .error .undecodable

/-- The names in a directory. -/
def names (d : Disk) (p : Path) : Except DiskError (List String) :=
  match d.entry p with
  | .ok (place, .dir) => .ok (d.tree.children place)
  | .ok (_, _) => .error (.fault ⟨.notDirectory, p.text⟩)
  | .error e => .error e

/-- The absolute path without links and double dots that a path leads to. -/
def resolve (d : Disk) (p : Path) : Except DiskError Path :=
  if !p.isNameable then .error .unnameable
  else
    let settled := Path.ofLocation (d.tree.settle (d.start p) p.parts).1
    match d.entry settled with
    | .error (.fault ⟨.linkLoop, _⟩) => .error .linkLoop
    | _ => .ok settled

/-- Puts an entry where nothing may be yet. -/
def makeDir (p : Path) (d : Disk) : Except DiskError Disk :=
  match d.find .stay p with
  | .error e => .error e
  | .ok (place, none) => .ok { d with tree := d.tree.put place .dir }
  | .ok (_, some _) => .error (.fault ⟨.occupied, p.text⟩)

/-- Writes a whole file; a link at the end of the path is followed, also to where nothing is. -/
def writeFile (p : Path) (bytes : ByteArray) (d : Disk) : Except DiskError Disk :=
  match d.find .make p with
  | .error e => .error e
  | .ok (_, some .dir) => .error (.fault ⟨.isDirectory, p.text⟩)
  | .ok (place, _) => .ok { d with tree := d.tree.put place (.file bytes) }

end Disk

namespace DiskWork

/-- Asks the disk without changing it. -/
def ask {α : Type} (question : Disk → Except DiskError α) : DiskWork α :=
  fun d => (question d, d)

/-- Changes the disk, or leaves it alone and fails. -/
def change (step : Disk → Except DiskError Disk) : DiskWork Unit :=
  fun d => match step d with
    | .ok d' => (.ok (), d')
    | .error e => (.error e, d)

/-- A directory that is there already will do; any other refusal stands. -/
def settleFor (p : Path) (e : DiskError) : DiskWork Unit := do
  if e.isRefusal then
    if ← ask (·.isDir p) then pure () else throw e
  else throw e

/-- Makes one directory, unless it is there. -/
def ensureDir (p : Path) : DiskWork Unit := fun d =>
  match d.makeDir p with
  | .ok d' => (.ok (), d')
  | .error (.fault ⟨.absent, t⟩) => (.error (.fault ⟨.absent, t⟩), d)
  | .error e => settleFor p e d

/-- Makes the directory whose names are given from the last one up, and its ancestors where they
are missing. -/
def ensureUp (anchor : Anchor) : List String → DiskWork Unit
  | [] => ensureDir ⟨anchor, []⟩
  | name :: above => fun d =>
    let p : Path := ⟨anchor, (name :: above).reverse⟩
    match d.makeDir p with
    | .ok d' => (.ok (), d')
    | .error (.fault ⟨.absent, _⟩) => (ensureUp anchor above *> ensureDir p) d
    | .error e => settleFor p e d

def ensureDirs (p : Path) : DiskWork Unit := ensureUp p.anchor p.parts.reverse

def write (p : Path) (bytes : ByteArray) : DiskWork Unit := change (Disk.writeFile p bytes)

/-- Whether two paths lead to one entry. -/
def samePlace (p q : Path) (d : Disk) : Bool :=
  match d.entry p, d.entry q with
  | .ok (a, _), .ok (b, _) => a == b
  | _, _ => false

/-- Writes a file, unless the path asks for a directory that is not there. -/
def writeInPlace (p : Path) (bytes : ByteArray) : DiskWork Unit := fun d =>
  match d.writeFile p bytes, d.entry p with
  | .ok d', _ => (.ok (), d')
  | .error (.fault ⟨.isDirectory, _⟩), .error _ => (.error (.noDirectory p), d)
  | .error e, _ => (.error e, d)

/-- Copies the bytes of a file; the target is replaced only when the source could be read. -/
def copy (source target : Path) : DiskWork Unit := do
  if !(source.isNameable && target.isNameable) then throw .unnameable
  if samePlace source target (← get) then throw (.sameFile source target)
  let bytes ← ask (·.read source)
  writeInPlace target bytes

end DiskWork

end SetupScript
