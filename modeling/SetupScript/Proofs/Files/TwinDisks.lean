import SetupScript.Proofs.Files.Refusals
import SetupScript.Proofs.Files.Twins

/-!
# Twin disks

What twin disks are asked about a path they answer alike, and the same work leaves them twins, when
the path's way is clear of the places at which they differ (`Terrain.Clear`). Where a path leads
once its links are resolved does not depend on those places at all (`Disk.Twins.resolve_eq`).
-/

namespace SetupScript

/-- The part of a disk that decides the way of every path. -/
structure Terrain where
  here : Location
  links : Links

namespace Terrain

variable (g : Terrain) (out : Set Location)

def way (p : Path) : Way :=
  g.links.way linkLimit (if p.isRelative then g.here else []) p.parts

/-- No place on the way of a path is one of `out`. -/
def Clear (p : Path) : Prop := ∀ place ∈ (g.way p).passed, place ∉ out

variable {g out}

theorem Clear.above {anchor : Anchor} {ps qs : List String} (h : g.Clear out ⟨anchor, qs⟩)
    (hps : ps <+: qs) : g.Clear out ⟨anchor, ps⟩ :=
  fun place hplace => h place (Links.way_prefix hps hplace)

theorem Clear.of_descend {p : Path} {names : List String} (h : g.Clear out (p.descend names)) :
    g.Clear out p :=
  h.above (List.prefix_append p.parts names)

end Terrain

namespace Disk

def terrain (d : Disk) : Terrain := ⟨d.here, d.tree.links⟩

structure Twins (g : Terrain) (out : Set Location) (d d' : Disk) : Prop where
  left : d.terrain = g
  right : d'.terrain = g
  tree : d.tree.Twins out d'.tree

section Questions

variable {g : Terrain} {out : Set Location} {d d' : Disk} {p q : Path} {last : Last}

theorem Twins.here_eq (h : d.Twins g out d') : d.here = d'.here :=
  congrArg Terrain.here (h.left.trans h.right.symm)

theorem Twins.symm (h : d.Twins g out d') : d'.Twins g out d := ⟨h.right, h.left, h.tree.symm⟩

theorem find_eq_ok {spot : Spot} : d.find last p = .ok spot ↔
    (p.isNameable = true ∧ p.size < pathLimit) ∧
      d.tree.walk linkLimit last (d.start p) p.parts = .ok spot := by
  unfold find
  split_ifs with hname hlong
  · simp [Bool.not_eq_true' _ ▸ hname]
  · simp [hlong]
  · rw [and_iff_right ⟨by simpa using hname, by omega⟩]
    cases d.tree.walk linkLimit last (d.start p) p.parts <;> simp

/-- A walk to a path keeps to the path's way. -/
theorem find_arrives {place : Location} {e : Option Entry} (h : d.find last p = .ok (place, e)) :
    FileTree.Arrives d.tree last (d.terrain.way p) place e :=
  FileTree.arrives_of_walk (find_eq_ok.1 h).2

theorem entry_arrives {place : Location} {e : Entry} (h : d.entry p = .ok (place, e)) :
    FileTree.Arrives d.tree .follow (d.terrain.way p) place (some e) := by
  unfold entry at h
  split at h
  · contradiction
  · contradiction
  · rename_i hfind
    obtain ⟨rfl, rfl⟩ := Prod.mk.inj (Except.ok.inj h)
    exact find_arrives hfind

theorem Twins.walk_sameEnd (h : d.Twins g out d') (last : Last) (p : Path) :
    SameEnd out (g.way p) (d.tree.walk linkLimit last (d.start p) p.parts)
      (d'.tree.walk linkLimit last (d'.start p) p.parts) := by
  have hstart : d'.start p = d.start p := by
    rw [start, start, h.here_eq]
  rw [hstart, ← h.left]
  exact (FileTree.walk_walks ..).twins h.tree

theorem find_matched {walked walked' : Except FaultCode Spot}
    (hwalk : d.tree.walk linkLimit last (d.start p) p.parts = walked)
    (hwalk' : d'.tree.walk linkLimit last (d'.start p) p.parts = walked')
    (h : Matched SameSpot walked walked') : Matched SameSpot (d.find last p) (d'.find last p) := by
  unfold find
  rw [hwalk, hwalk']
  split_ifs
  · exact .error _
  · exact .error _
  · cases h with
    | ok hspot => exact .ok hspot
    | error code => exact .error _

def SameEntry (x y : Location × Entry) : Prop := x.1 = y.1 ∧ SameKind (some x.2) (some y.2)

theorem entry_matched (h : Matched SameSpot (d.find .follow p) (d'.find .follow p)) :
    Matched SameEntry (d.entry p) (d'.entry p) := by
  unfold entry
  generalize d.find .follow p = r, d'.find .follow p = r' at h
  cases h with
  | error e => exact .error e
  | @ok x y hspot =>
    obtain ⟨place, e⟩ := x
    obtain ⟨place', e'⟩ := y
    obtain ⟨rfl, hkind⟩ := hspot
    cases hkind with
    | same =>
      cases e with
      | none => exact .error _
      | some e => exact .ok ⟨rfl, .same _⟩
    | files bytes bytes' => exact .ok ⟨rfl, .files bytes bytes'⟩

theorem Twins.find_matched (h : d.Twins g out d') (hp : g.Clear out p) :
    Matched SameSpot (d.find last p) (d'.find last p) :=
  Disk.find_matched rfl rfl <| (h.walk_sameEnd last p).resolve_right
    fun ⟨⟨place, hplace, hout⟩, _⟩ => hp place hplace hout

theorem Twins.entry_matched (h : d.Twins g out d') (hp : g.Clear out p) :
    Matched SameEntry (d.entry p) (d'.entry p) :=
  Disk.entry_matched (h.find_matched hp)

/-- A kind that does not depend on the bytes of a file. -/
theorem Twins.leadsTo_eq {kind : Entry → Bool}
    (hkind : ∀ bytes bytes', kind (.file bytes) = kind (.file bytes')) (h : d.Twins g out d')
    (hp : g.Clear out p) : d.leadsTo kind p = d'.leadsTo kind p := by
  have hentry := h.entry_matched hp
  unfold leadsTo lookup?
  generalize d.entry p = r, d'.entry p = r' at hentry
  cases hentry with
  | error e => rfl
  | @ok x y hxy =>
    obtain ⟨_, e⟩ := x
    obtain ⟨_, e'⟩ := y
    obtain ⟨-, hsame⟩ := hxy
    cases hsame with
    | same => rfl
    | files bytes bytes' => exact congrArg Except.ok (hkind bytes bytes')

theorem Twins.isFile_eq (h : d.Twins g out d') (hp : g.Clear out p) :
    d.isFile p = d'.isFile p :=
  h.leadsTo_eq (fun _ _ => rfl) hp

theorem Twins.isDir_eq (h : d.Twins g out d') (hp : g.Clear out p) : d.isDir p = d'.isDir p :=
  h.leadsTo_eq (fun _ _ => rfl) hp

theorem Twins.read_matched (h : d.Twins g out d') (hp : g.Clear out p) :
    Matched (fun _ _ => True) (d.read p) (d'.read p) := by
  have hentry := h.entry_matched hp
  unfold read
  generalize d.entry p = r, d'.entry p = r' at hentry
  cases hentry with
  | error e => exact .error e
  | @ok x y hxy =>
    obtain ⟨_, e⟩ := x
    obtain ⟨_, e'⟩ := y
    obtain ⟨-, hkind⟩ := hxy
    cases hkind with
    | same =>
      cases e with
      | file bytes => exact .ok trivial
      | dir | link => exact .error _
    | files => exact .ok trivial

theorem Twins.names_eq (h : d.Twins g out d') (hp : g.Clear out p)
    (hout : ∀ place ∈ out, place.dropLast ≠ (g.way p).goal) : d.names p = d'.names p := by
  have hentry := h.entry_matched hp
  unfold names
  generalize hx : d.entry p = r, d'.entry p = r' at hentry
  cases hentry with
  | error e => rfl
  | @ok x y hxy =>
    obtain ⟨place, e⟩ := x
    obtain ⟨place', e'⟩ := y
    obtain ⟨rfl, hkind⟩ := hxy
    cases hkind with
    | files => rfl
    | same =>
      cases e with
      | dir =>
        have hgoal := (entry_arrives hx).goal nofun
        rw [h.left] at hgoal
        simp only
        rw [h.tree.children_eq (hgoal ▸ hout)]
      | file | link => rfl

theorem Twins.samePlace_eq (h : d.Twins g out d') (hp : g.Clear out p) (hq : g.Clear out q) :
    DiskWork.samePlace p q d = DiskWork.samePlace p q d' := by
  have hentry := h.entry_matched hp
  have hother := h.entry_matched hq
  unfold DiskWork.samePlace
  generalize d.entry p = r, d'.entry p = r' at hentry
  generalize d.entry q = u, d'.entry q = u' at hother
  cases hentry with
  | error e => rfl
  | ok hxy =>
    cases hother with
    | error e => rfl
    | ok huv =>
      simp only
      rw [hxy.1, huv.1]

theorem walk_of_entry_loop {s : String} (h : d.entry q = .error (.fault ⟨.linkLoop, s⟩)) :
    d.tree.walk linkLimit .follow (d.start q) q.parts = .error .linkLoop := by
  unfold entry at h
  split at h
  · rename_i hfind
    obtain rfl := Except.error.inj h
    unfold find at hfind
    split_ifs at hfind
    · simp at hfind
    · simp at hfind
    · split at hfind
      · contradiction
      · rename_i hwalk
        simp only [Except.error.injEq, DiskError.fault.injEq, Fault.mk.injEq] at hfind
        rw [hwalk, hfind.1]
  · simp at h
  · contradiction

theorem resolve_of_walk (hname : p.isNameable = true)
    (hq : Path.ofLocation (d.tree.settle (d.start p) p.parts).1 = q)
    (h : d.tree.walk linkLimit .follow (d.start q) q.parts ≠ .error .linkLoop) :
    d.resolve p = .ok q := by
  rw [resolve, hname, if_neg (by decide), hq]
  dsimp only
  split
  · rename_i hentry
    exact absurd (walk_of_entry_loop hentry) h
  · rfl

/-- Nothing but a loop of links keeps a path from being resolved, and twins have the same ones. -/
theorem Twins.resolve_eq (h : d.Twins g out d') (p : Path) : d.resolve p = d'.resolve p := by
  have hsettled : d'.tree.settle (d'.start p) p.parts = d.tree.settle (d.start p) p.parts := by
    rw [start, start, h.here_eq, FileTree.settle_congr h.tree.links_eq]
  cases hname : p.isNameable with
  | false => rw [resolve, resolve, hname, if_pos (by decide), if_pos (by decide)]
  | true =>
    generalize hq : Path.ofLocation (d.tree.settle (d.start p) p.parts).1 = q
    have hq' : Path.ofLocation (d'.tree.settle (d'.start p) p.parts).1 = q := by rwa [hsettled]
    rcases h.walk_sameEnd .follow q with hwalk | ⟨-, hloop, hloop'⟩
    · have hentry := Disk.entry_matched (Disk.find_matched rfl rfl hwalk)
      rw [resolve, resolve, hq, hq']
      dsimp only
      generalize d.entry q = r, d'.entry q = r' at hentry
      cases hentry <;> rfl
    · rw [resolve_of_walk hname hq hloop, resolve_of_walk hname hq' hloop']

end Questions

/-! ## Changes -/

section Changes

variable {g : Terrain} {out : Set Location} {d d' : Disk} {p : Path}

theorem terrain_put {place : Location} {e : Entry} (hplace : d.tree.links place = none)
    (he : ∀ target, e ≠ .link target) :
    terrain { d with tree := d.tree.put place e } = d.terrain := by
  rw [terrain, terrain, FileTree.links_put hplace he]

theorem Twins.put (h : d.Twins g out d') {place : Location} (hout : place ∉ out)
    (hplace : d.tree.links place = none) {e e' : Entry} (hkind : SameKind (some e) (some e'))
    (he : ∀ target, e ≠ .link target) :
    Twins g out { d with tree := d.tree.put place e } { d' with tree := d'.tree.put place e' } := by
  have he' : ∀ target, e' ≠ .link target := by
    rintro target rfl
    exact he target (Option.some.inj hkind.symm.eq_link)
  refine ⟨?_, ?_, h.tree.put hout hkind⟩
  · rw [terrain_put hplace he, h.left]
  · rw [terrain_put (h.tree.links_eq ▸ hplace) he', h.right]

theorem Twins.makeDir_matched (h : d.Twins g out d') (hp : g.Clear out p) :
    Matched (Twins g out) (d.makeDir p) (d'.makeDir p) := by
  have hfind : Matched SameSpot (d.find .stay p) (d'.find .stay p) := h.find_matched hp
  unfold makeDir
  generalize hx : d.find .stay p = r, d'.find .stay p = r' at hfind
  cases hfind with
  | error e => exact .error e
  | @ok x y hspot =>
    obtain ⟨place, e⟩ := x
    obtain ⟨place', e'⟩ := y
    obtain ⟨rfl, hkind⟩ := hspot
    cases hkind with
    | files => exact .error _
    | same =>
      cases e with
      | some e => exact .error _
      | none =>
        obtain ⟨hget, hpassed⟩ := (find_arrives hx).found.resolve_left nofun
        rw [h.left] at hpassed
        exact .ok (h.put (hp place hpassed) (FileTree.links_of_bare (hget ▸ .none)) (.same _) nofun)

theorem Twins.writeFile_matched (h : d.Twins g out d') (hp : g.Clear out p)
    (bytes bytes' : ByteArray) :
    Matched (Twins g out) (d.writeFile p bytes) (d'.writeFile p bytes') := by
  have hfind : Matched SameSpot (d.find .make p) (d'.find .make p) := h.find_matched hp
  unfold writeFile
  generalize hx : d.find .make p = r, d'.find .make p = r' at hfind
  cases hfind with
  | error e => exact .error e
  | @ok x y hspot =>
    obtain ⟨place, e⟩ := x
    obtain ⟨place', e'⟩ := y
    obtain ⟨rfl, hkind⟩ := hspot
    have harrives := find_arrives hx
    rw [h.left] at harrives
    have hput : IsBare e → Twins g out { d with tree := d.tree.put place (.file bytes) }
        { d' with tree := d'.tree.put place (.file bytes') } := by
      intro hbare
      have hdir : e ≠ some .dir := by
        rintro rfl
        cases hbare
      obtain ⟨hget, hpassed⟩ := harrives.found.resolve_left hdir
      exact h.put (hp place hpassed) (FileTree.links_of_bare (hget ▸ hbare)) (.files _ _) nofun
    cases hkind with
    | files old old' => exact .ok (hput (.file old))
    | same =>
      cases e with
      | none => exact .ok (hput .none)
      | some e =>
        cases e with
        | file old => exact .ok (hput (.file old))
        | dir => exact .error _
        | link target => exact absurd (harrives.stays target rfl) (by decide)

/-- A file may be rewritten on one side alone. -/
theorem Twins.rewrite (h : d.Twins g out d') {place : Location} {bytes : ByteArray}
    (hfile : d.tree.get? place = some (.file bytes)) (new : ByteArray) :
    Twins g out { d with tree := d.tree.put place (.file new) } d' := by
  refine ⟨?_, h.right, h.tree.rewrite hfile⟩
  rw [terrain_put (FileTree.links_of_bare (hfile ▸ .file bytes)) (by simp), h.left]

/-- A line of a log can be added on one side alone. -/
theorem Twins.append (h : d.Twins g out d') (log : Path) (s : String) :
    (d.append log s).Twins g out d' := by
  unfold Disk.append
  split
  · rename_i place bytes hfind
    obtain ⟨hget, -⟩ := (find_arrives hfind).found.resolve_left nofun
    exact h.rewrite hget.symm _
  · exact h

theorem Twins.refl (d : Disk) : d.Twins d.terrain ∅ d :=
  ⟨rfl, rfl, fun _ _ => .same _, fun _ h => absurd h (Set.notMem_empty _)⟩

theorem clear_empty (g : Terrain) (p : Path) : g.Clear ∅ p := fun _ _ => Set.notMem_empty _

theorem read_of_find {place : Location} {bytes : ByteArray}
    (h : d.find .follow p = .ok (place, some (.file bytes))) : d.read p = .ok bytes := by
  rw [read, entry, h]

/-- A file that was written is read back. -/
theorem read_writeFile {bytes : ByteArray} (h : d.writeFile p bytes = .ok d') :
    d'.read p = .ok bytes := by
  unfold writeFile at h
  split at h
  · contradiction
  · contradiction
  · rename_i place e hdir hfind
    obtain rfl := Except.ok.inj h
    have harrives := find_arrives hfind
    have hget : e = d.tree.get? place := (harrives.found.resolve_left hdir).1
    have hbare : IsBare (d.tree.get? place) := by
      rw [← hget]
      rcases e with _ | bytes | _ | target
      · exact .none
      · exact .file bytes
      · exact absurd rfl hdir
      · exact absurd (harrives.stays target rfl) (by decide)
    obtain ⟨hpath, hwalk⟩ := find_eq_ok.1 hfind
    rw [hget] at hwalk
    have hwritten := (FileTree.walk_walks ..).put_file bytes (by decide) hbare hwalk
    exact read_of_find (find_eq_ok.2 ⟨hpath, hwritten.eq⟩)

theorem get?_append {log : Path} {place : Location} (hplace : (d.terrain.way log).goal ≠ place)
    (s : String) : (d.append log s).tree.get? place = d.tree.get? place := by
  unfold Disk.append
  split
  · rename_i other bytes hfind
    have harrives := find_arrives hfind
    have hne : place ≠ other := fun heq => hplace (heq ▸ harrives.goal (by simp)).symm
    have hroot : other ≠ [] := by
      rintro rfl
      simpa using (harrives.found.resolve_left nofun).1
    rw [FileTree.get?_put _ hroot, if_neg hne]
  · rfl

/-- A file is read alike from twins which have the same at the place that its path leads to. -/
theorem Twins.read_eq (h : d.Twins g out d') (hp : g.Clear out p)
    (hget : (g.way p).goal ∈ (g.way p).passed →
      d.tree.get? (g.way p).goal = d'.tree.get? (g.way p).goal) : d.read p = d'.read p := by
  have hentry := h.entry_matched hp
  unfold read
  generalize hx : d.entry p = x, hy : d'.entry p = y at hentry
  cases hentry with
  | error e => rfl
  | @ok x y hxy =>
    obtain ⟨place, e⟩ := x
    obtain ⟨place', e'⟩ := y
    obtain ⟨rfl, hkind⟩ := hxy
    cases hkind with
    | same => rfl
    | files new old =>
      have hplace : place = (g.way p).goal := h.left ▸ (entry_arrives hx).goal (by simp)
      obtain ⟨hnew, hpassed⟩ := (entry_arrives hx).found.resolve_left nofun
      have hold := ((entry_arrives hy).found.resolve_left nofun).1
      rw [h.left] at hpassed
      rw [hplace] at hnew hold hpassed
      rw [hget hpassed, ← hold] at hnew
      simp only [Option.some.injEq, Entry.file.injEq] at hnew
      rw [hnew]

/-- A log that leads to another place leaves a file as it is. -/
theorem read_append {log : Path} (hgoal : (d.terrain.way log).goal ≠ (d.terrain.way p).goal)
    (s : String) : (d.append log s).read p = d.read p :=
  ((Twins.refl d).append log s).read_eq (clear_empty _ p) fun _ => get?_append hgoal s

/-- Where a log file is made, if it is not there yet. -/
def logMade (d : Disk) (p : Path) : Set Location := {place | d.find .make p = .ok (place, none)}

/-- Opening a log changes nothing, or makes a file where nothing was. -/
theorem openLog_cases (h : d.openLog p = .ok d') :
    (d.logMade p = ∅ ∧ d' = d) ∨ ∃ place, d.logMade p = {place} ∧ d.tree.get? place = none ∧
      d' = { d with tree := d.tree.put place (.file ByteArray.empty) } := by
  unfold openLog at h
  split at h
  · contradiction
  · contradiction
  · rename_i place hfind
    refine .inr ⟨place, ?_, ((find_arrives hfind).found.resolve_left nofun).1.symm,
      (Except.ok.inj h).symm⟩
    have hmem : ∀ other, other ∈ d.logMade p ↔ other = place := by
      intro other
      change d.find .make p = .ok (other, none) ↔ _
      rw [hfind]
      simp [eq_comm]
    exact Set.ext hmem
  · rename_i place e _ hfind
    have hnone : ∀ other, other ∉ d.logMade p := by
      intro other
      change d.find .make p ≠ .ok (other, none)
      rw [hfind]
      simp
    exact .inl ⟨Set.eq_empty_of_forall_notMem hnone, (Except.ok.inj h).symm⟩

theorem openLog_twins (h : d.openLog p = .ok d') : d'.Twins d.terrain (d.logMade p) d := by
  rcases openLog_cases h with ⟨hmade, rfl⟩ | ⟨place, hmade, hnone, rfl⟩
  · rw [hmade]
    exact .refl _
  · have hroot : place ≠ [] := by
      rintro rfl
      simp at hnone
    rw [hmade]
    refine ⟨terrain_put (FileTree.links_of_bare (hnone ▸ .none)) (by simp), rfl, ?_, ?_⟩
    · intro other hother
      have hne : other ≠ place := hother
      rw [FileTree.get?_put _ hroot, if_neg hne]
      exact .same _
    · rintro other rfl
      rw [FileTree.get?_put _ hroot, if_pos rfl, hnone]
      exact ⟨.file _, .none⟩

/-- A file that was there already is read as before. -/
theorem read_openLog {q : Path} (h : d.openLog p = .ok d')
    (hq : d.terrain.Clear (d.logMade p) q) : d'.read q = d.read q := by
  refine (openLog_twins h).read_eq hq fun hpassed => ?_
  rcases openLog_cases h with ⟨-, rfl⟩ | ⟨place, hmade, hnone, rfl⟩
  · rfl
  · have hroot : place ≠ [] := by
      rintro rfl
      simp at hnone
    have hne : (d.terrain.way q).goal ≠ place := fun heq =>
      hq _ hpassed (by rw [hmade, heq]; rfl)
    rw [FileTree.get?_put _ hroot, if_neg hne]

end Changes

end Disk

/-! ## Work -/

namespace DiskWork

variable {g : Terrain} {out : Set Location} {d d' : Disk} {p q : Path}

theorem change_together {step step' : Disk → Except DiskError Disk} (h : d.Twins g out d')
    (hstep : Matched (Disk.Twins g out) (step d) (step' d')) :
    Together (Disk.Twins g out) (Alike (Disk.Twins g out)) (change step) (change step') d d' := by
  generalize hx : step d = x, hy : step' d' = y at hstep
  cases hstep with
  | ok h' => exact .of_ok (by rw [change, hx]) (by rw [change, hy]) ⟨rfl, h'⟩
  | error e => exact .of_error (by rw [change, hx]) (by rw [change, hy]) h

theorem ask_together {α β : Type} {P : α → β → Prop} {question : Disk → Except DiskError α}
    {question' : Disk → Except DiskError β} (h : d.Twins g out d')
    (hanswer : Matched P (question d) (question' d')) :
    Together (Disk.Twins g out) (fun a d b d' => P a b ∧ d.Twins g out d') (ask question)
      (ask question') d d' :=
  .of_matched (hanswer.mono fun _ _ hP => ⟨hP, h⟩) h

theorem settleFor_together (h : d.Twins g out d') (hp : g.Clear out p) (e : DiskError) :
    Together (Disk.Twins g out) (Alike (Disk.Twins g out)) (settleFor p e) (settleFor p e) d
      d' := by
  unfold settleFor
  split_ifs
  · refine (ask_together h (matched_eq.2 (h.isDir_eq hp))).bind fun a d₁ b d₁' ⟨hab, h₁⟩ => ?_
    rw [hab]
    split_ifs
    · exact .pure ⟨rfl, h₁⟩
    · exact .throw e h₁
  · exact .throw e h

theorem attempt_together {onAbsent : String → DiskWork Unit} (h : d.Twins g out d')
    (hp : g.Clear out p) (habsent : ∀ t, Together (Disk.Twins g out) (Alike (Disk.Twins g out))
      (onAbsent t) (onAbsent t) d d') :
    Together (Disk.Twins g out) (Alike (Disk.Twins g out)) (attempt p onAbsent)
      (attempt p onAbsent) d d' := by
  have hmake := h.makeDir_matched hp
  generalize hx : d.makeDir p = x, hy : d'.makeDir p = y at hmake
  cases hmake with
  | ok h' => exact .of_ok (by rw [attempt, hx]) (by rw [attempt, hy]) ⟨rfl, h'⟩
  | error e =>
    by_cases he : ∃ t, e = .fault ⟨.absent, t⟩
    · obtain ⟨t, rfl⟩ := he
      exact (habsent t).congr (by rw [attempt, hx]) (by rw [attempt, hy])
    · have hother : ∀ t, e ≠ .fault ⟨.absent, t⟩ := fun t ht => he ⟨t, ht⟩
      exact (settleFor_together h hp e).congr (attempt_of_error hx hother)
        (attempt_of_error hy hother)

theorem ensureDir_together (h : d.Twins g out d') (hp : g.Clear out p) :
    Together (Disk.Twins g out) (Alike (Disk.Twins g out)) (ensureDir p) (ensureDir p) d d' := by
  rw [ensureDir_eq]
  exact attempt_together h hp fun t => .throw _ h

/-- By induction on the names from the last one up, as the directories are made. -/
theorem ensureUp_together {anchor : Anchor} : ∀ {names : List String} {d d' : Disk},
    d.Twins g out d' → g.Clear out ⟨anchor, names.reverse⟩ →
      Together (Disk.Twins g out) (Alike (Disk.Twins g out)) (ensureUp anchor names)
        (ensureUp anchor names) d d'
  | [], _, _, h, hp => ensureDir_together h hp
  | name :: above, d, d', h, hp => by
    have habove : g.Clear out ⟨anchor, above.reverse⟩ := hp.above (by simp)
    rw [ensureUp_cons]
    exact attempt_together h hp fun _ => (ensureUp_together h habove).bind
      fun _ _ _ _ ⟨_, h'⟩ => ensureDir_together h' hp

theorem ensureDirs_together (h : d.Twins g out d') (hp : g.Clear out p) :
    Together (Disk.Twins g out) (Alike (Disk.Twins g out)) (ensureDirs p) (ensureDirs p) d d' :=
  ensureUp_together h (by rwa [List.reverse_reverse])

theorem write_together (h : d.Twins g out d') (hp : g.Clear out p) (bytes bytes' : ByteArray) :
    Together (Disk.Twins g out) (Alike (Disk.Twins g out)) (write p bytes) (write p bytes') d d' :=
  change_together h (h.writeFile_matched hp bytes bytes')

theorem writeInPlace_together (h : d.Twins g out d') (hp : g.Clear out p)
    (bytes bytes' : ByteArray) : Together (Disk.Twins g out) (Alike (Disk.Twins g out))
      (writeInPlace p bytes) (writeInPlace p bytes') d d' := by
  have hwrite := h.writeFile_matched hp bytes bytes'
  generalize hx : d.writeFile p bytes = x, hy : d'.writeFile p bytes' = y at hwrite
  cases hwrite with
  | ok h' => exact .of_ok (by rw [writeInPlace, hx]) (by rw [writeInPlace, hy]) ⟨rfl, h'⟩
  | error e =>
    have hfound : (d'.entry p).isOk = (d.entry p).isOk := by
      have hentry := h.entry_matched hp
      generalize d.entry p = u, d'.entry p = v at hentry
      cases hentry <;> rfl
    exact .of_error (writeInPlace_of_error hx) (hfound ▸ writeInPlace_of_error hy) h

/-- The bytes that are copied need not be the same. -/
theorem copy_together (h : d.Twins g out d') (hp : g.Clear out p) (hq : g.Clear out q) :
    Together (Disk.Twins g out) (Alike (Disk.Twins g out)) (copy p q) (copy p q) d d' := by
  unfold copy
  split_ifs
  · exact .throw _ h
  · refine (Together.get (T := fun a d b d' => a.Twins g out b ∧ d.Twins g out d') ⟨h, h⟩).bind
      fun a d₁ b d₁' ⟨hab, h₁⟩ => ?_
    rw [hab.samePlace_eq hp hq]
    split_ifs
    · exact .throw _ h₁
    · refine (ask_together h₁ (h₁.read_matched hp)).bind fun bytes d₂ bytes' d₂' ⟨_, h₂⟩ => ?_
      exact writeInPlace_together h₂ hq bytes bytes'

end DiskWork

end SetupScript
