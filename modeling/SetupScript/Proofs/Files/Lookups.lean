import Mathlib.Data.List.Induction
import SetupScript.Proofs.Files.Standing

/-!
# Lookups on a grown disk

On a sound disk every entry lies in a directory; making directories and writing files keeps it
sound (`DiskWork.ensureDirs_sound`, `Disk.writeFile_sound`). A path without double dots that leads
to no file there leads to no new one when the disk grows, unless one is written at its end
(`Disk.isFile_grown_false`). But its walk can go on into new directories, to a name that is too long
to be looked up.
-/

namespace SetupScript

namespace Path

variable {here : Location} {p : Path}

theorem withoutDots_prefix {ps qs : List String} (h : ps <+: qs) (hdots : ".." ∉ qs)
    (before : Location) : withoutDots before ps <+: withoutDots before qs := by
  obtain ⟨rs, rfl⟩ := h
  rw [withoutDots_append]
  have hgrows : ∀ (rs : List String) (before : Location), ".." ∉ rs →
      before <+: withoutDots before rs := by
    intro rs
    induction rs with
    | nil => exact fun before _ => List.prefix_rfl
    | cons r rs ih =>
      intro before hr
      rw [List.mem_cons, not_or] at hr
      unfold withoutDots
      rw [if_neg (by simpa using Ne.symm hr.1)]
      split_ifs
      · exact ih before hr.2
      · exact (List.prefix_append before [r]).trans (ih _ hr.2)
  exact hgrows rs _ fun hin => hdots (List.mem_append_right ps hin)

/-- Without double dots the places above a path's are those that its own begins with. -/
theorem prefix_of_mem_placesUp (hdots : ".." ∉ p.parts) {place : Location}
    (h : place ∈ p.placesUp here) : place <+: p.place here := by
  obtain ⟨ps, hps, rfl⟩ := h
  exact withoutDots_prefix hps hdots _

end Path

namespace FileTree

variable {dirs files : Set Location} {t u : FileTree} {last : Last} {n : Nat}
  {here place : Location} {names : List String} {r : Except FaultCode Spot}

/-- Every entry lies in a directory. -/
def Closed (t : FileTree) : Prop :=
  ∀ place name, t.get? (place ++ [name]) ≠ none → t.get? place = some .dir

theorem closed_empty : empty.Closed := by
  intro place name h
  simp [empty, get?, Listing.get?] at h

theorem Closed.dropLast (hc : t.Closed) (h : t.get? place ≠ none) :
    t.get? place.dropLast = some .dir := by
  rcases List.eq_nil_or_concat place with rfl | ⟨above, name, rfl⟩
  · rfl
  · rw [List.concat_eq_append] at h ⊢
    rw [List.dropLast_concat]
    exact hc above name h

theorem Closed.above (hc : t.Closed) {above : Location} (h : t.get? place = some .dir)
    (habove : above <+: place) : t.get? above = some .dir := by
  obtain ⟨names, rfl⟩ := habove
  induction names using List.reverseRecOn with
  | nil => rwa [List.append_nil] at h
  | append_singleton names name ih =>
    rw [← List.append_assoc] at h
    exact ih (hc _ name (by rw [h]; nofun))

theorem Closed.put (hc : t.Closed) (habove : t.get? place.dropLast = some .dir) {e : Entry}
    (he : t.get? place = some .dir → e = .dir) : (t.put place e).Closed := by
  by_cases hroot : place = []
  · rwa [FileTree.put, if_pos hroot]
  · intro other name h
    rw [get?_put t hroot] at h ⊢
    by_cases hbelow : other ++ [name] = place
    · have hne : other ≠ place := fun heq => by simp [heq] at hbelow
      rwa [if_neg hne, ← @List.dropLast_concat _ other name, hbelow]
    · rw [if_neg hbelow] at h
      have hdir := hc other name h
      split_ifs with hsame
      · rw [he (hsame ▸ hdir)]
      · exact hdir

/-- Where a walk finds nothing, it comes from a directory. -/
theorem Walks.dropLast (ht : t.LinkFree) (hc : t.Closed) (hhere : t.get? here = some .dir)
    (hwalk : Walks t last n here names (.ok (place, none))) :
    t.get? place.dropLast = some .dir := by
  generalize hr : (.ok (place, none) : Except FaultCode Spot) = r at hwalk
  induction hwalk with
  | done => simp at hr
  | skip _ _ ih => exact ih hhere hr
  | back _ ih => exact ih (hc.dropLast (by rw [hhere]; nofun)) hr
  | tooLong => contradiction
  | arrive =>
    simp only [Except.ok.injEq, Prod.mk.injEq] at hr
    rwa [hr.1, List.dropLast_concat]
  | blocked => contradiction
  | enter _ _ hdir _ ih => exact ih hdir hr
  | stay _ _ hget => exact absurd hget (ht _ _)
  | loop => contradiction
  | follow _ _ hget => exact absurd hget (ht _ _)
  | refuse _ _ hget => exact absurd hget (ht _ _)

/-- How a walk to no file can end when the tree has grown: at a file that was written, or at a name
too long, in a directory that was made. -/
structure NewEnd (dirs files : Set Location) (here : Location) (names : List String)
    (r : Except FaultCode Spot) : Prop where
  file : ∀ place bytes, r = .ok (place, some (.file bytes)) → place ∈ files
  tooLong : r = .error .nameTooLong → ∃ before name after, names = before ++ name :: after ∧
    nameLimit < Text.nameSize name ∧ Path.withoutDots here before ∈ dirs

theorem NewEnd.cons {start : Location} {name : String} (h : NewEnd dirs files here names r)
    (hstep : ∀ ps, Path.withoutDots start (name :: ps) = Path.withoutDots here ps) :
    NewEnd dirs files start (name :: names) r := by
  refine ⟨h.file, fun hr => ?_⟩
  obtain ⟨before, long, after, rfl, hlong, hin⟩ := h.tooLong hr
  exact ⟨name :: before, long, after, rfl, hlong, hstep before ▸ hin⟩

theorem NewEnd.skip {name : String} (h : NewEnd dirs files here names r)
    (hname : name = "" ∨ name = ".") : NewEnd dirs files here (name :: names) r :=
  h.cons fun ps => by rcases hname with rfl | rfl <;> rfl

theorem NewEnd.enter {name : String} (h : NewEnd dirs files (here ++ [name]) names r)
    (hname : IsPlain name) : NewEnd dirs files here (name :: names) r :=
  h.cons fun ps => by
    obtain ⟨hempty, hdot, hdots⟩ := hname
    simp [Path.withoutDots, hempty, hdot, hdots]

theorem NewEnd.of_error {code : FaultCode} (hcode : code ≠ .nameTooLong) :
    NewEnd dirs files here names (.error code) :=
  ⟨nofun, fun h => absurd (Except.error.inj h) hcode⟩

theorem NewEnd.of_ok {e : Option Entry} (he : ∀ bytes, e = some (.file bytes) → place ∈ files) :
    NewEnd dirs files here names (.ok (place, e)) := by
  refine ⟨fun other bytes h => ?_, nofun⟩
  obtain ⟨rfl, rfl⟩ := Prod.mk.inj (Except.ok.inj h)
  exact he bytes rfl

/-- What lies in a new directory is new. -/
theorem NewEnd.of_new (hc : t.Closed) (h : t.Grows dirs files u) (hu : u.LinkFree)
    (hwalk : Walks u last n here names r) (hdots : ".." ∉ names) (hnone : t.get? here = none)
    (hdir : u.get? here = some .dir) : NewEnd dirs files here names r := by
  have hbelow : ∀ {here name}, t.get? here = none → t.get? (here ++ [name]) = none := by
    intro here name hnone
    by_contra hsome
    rw [hc here name hsome] at hnone
    contradiction
  induction hwalk with
  | done => exact .of_ok fun _ h => by simp at h
  | skip hname _ ih =>
    exact (ih (fun hin => hdots (List.mem_cons_of_mem _ hin)) hnone hdir).skip hname
  | back => exact absurd List.mem_cons_self hdots
  | @tooLong _ _ here name rest _ hlong =>
    refine ⟨nofun, fun _ => ⟨[], name, rest, rfl, hlong, ?_⟩⟩
    have hplace := h here
    rw [hnone, hdir] at hplace
    cases hplace with
    | made hin => exact hin
  | @arrive _ _ here name e _ _ he =>
    refine .of_ok fun bytes hfile => ?_
    have hplace := h (here ++ [name])
    rw [hbelow hnone, he, hfile] at hplace
    cases hplace with
    | written hin => exact hin
  | blocked _ _ _ _ hbare =>
    refine .of_error ?_
    cases hbare <;> nofun
  | enter hname _ hget _ ih =>
    exact (ih (fun hin => hdots (List.mem_cons_of_mem _ hin)) (hbelow hnone) hget).enter hname
  | stay _ _ hget => exact absurd hget (hu _ _)
  | loop _ _ hget => exact absurd hget (hu _ _)
  | follow _ _ hget => exact absurd hget (hu _ _)
  | refuse _ _ hget => exact absurd hget (hu _ _)

/-- By induction on the walk before the growth. Where it finds nothing, the walk after the growth
may go on into a new directory. -/
theorem Walks.newEnd (ht : t.LinkFree) (hc : t.Closed) (h : t.Grows dirs files u)
    (hwalk : Walks t last n here names r) (hdots : ".." ∉ names)
    (hfile : ∀ place bytes, r ≠ .ok (place, some (.file bytes)))
    (hshort : r ≠ .error .nameTooLong) :
    NewEnd dirs files here names (u.walk n last here names) := by
  have hu := h.linkFree ht
  induction hwalk with
  | done =>
    rw [Walks.done.eq]
    exact .of_ok fun _ h => by simp at h
  | skip hname _ ih =>
    rw [(Walks.skip hname (walk_walks u ..)).eq]
    exact (ih (fun hin => hdots (List.mem_cons_of_mem _ hin)) hfile hshort).skip hname
  | back => exact absurd List.mem_cons_self hdots
  | tooLong => exact absurd rfl hshort
  | @arrive _ _ here name e hname hsize he hbare =>
    cases hbare with
    | file bytes => exact absurd rfl (hfile _ bytes)
    | none =>
      have hplace := h (here ++ [name])
      rw [he] at hplace
      generalize hget : u.get? (here ++ [name]) = x at hplace
      cases hplace with
      | same =>
        rw [(Walks.arrive hname hsize hget .none).eq]
        exact .of_ok nofun
      | made =>
        rw [(Walks.enter hname hsize hget .done).eq]
        exact .of_ok fun _ h => by simp at h
      | written hin bytes =>
        rw [(Walks.arrive hname hsize hget (.file bytes)).eq]
        exact .of_ok fun _ _ => hin
  | @blocked _ _ here name rest e hname hsize hrest he hbare =>
    cases hbare with
    | file bytes =>
      obtain ⟨e', he', hbecomes⟩ := h.get?_some he
      have hbare' : IsBare (some e') := by
        cases hbecomes with
        | same => exact .file bytes
        | rewritten _ _ new => exact .file new
      rw [(Walks.blocked hname hsize hrest he' hbare').eq]
      exact .of_error nofun
    | none =>
      have hplace := h (here ++ [name])
      rw [he] at hplace
      generalize hget : u.get? (here ++ [name]) = x at hplace
      cases hplace with
      | same =>
        rw [(Walks.blocked hname hsize hrest hget .none).eq]
        exact .of_error nofun
      | made =>
        rw [(Walks.enter hname hsize hget (walk_walks u ..)).eq]
        refine NewEnd.enter ?_ hname
        have hrest : ".." ∉ rest := fun hin => hdots (List.mem_cons_of_mem _ hin)
        exact .of_new hc h hu (walk_walks u ..) hrest he hget
      | written _ bytes =>
        rw [(Walks.blocked hname hsize hrest hget (.file bytes)).eq]
        exact .of_error nofun
  | enter hname hsize hget _ ih =>
    rw [(Walks.enter hname hsize (h.get?_dir hget) (walk_walks u ..)).eq]
    exact (ih (fun hin => hdots (List.mem_cons_of_mem _ hin)) hfile hshort).enter hname
  | stay _ _ hget => exact absurd hget (ht _ _)
  | loop _ _ hget => exact absurd hget (ht _ _)
  | follow _ _ hget => exact absurd hget (ht _ _)
  | refuse _ _ hget => exact absurd hget (ht _ _)

/-- A walk through directories comes to the name that is too long. -/
theorem walk_of_tooLong {name : String} (hlong : nameLimit < Text.nameSize name)
    (after : List String) : ∀ {before : List String} {here : Location}, ".." ∉ before →
      (∀ place, here <+: place → place ≠ here → place <+: Path.withoutDots here before →
        t.get? place = some .dir) →
      t.walk n last here (before ++ name :: after) = .error .nameTooLong
  | [], here, _, _ => by
    have hname : IsPlain name := by
      refine ⟨?_, ?_, ?_⟩ <;>
        · rintro rfl
          exact absurd hlong (by decide)
    exact (Walks.tooLong hname hlong).eq
  | first :: before, here, hdots, hdirs => by
    rw [List.mem_cons, not_or] at hdots
    rw [List.cons_append]
    by_cases hskip : first = "" ∨ first = "."
    · rw [(Walks.skip hskip (walk_walks t ..)).eq]
      refine walk_of_tooLong hlong after hdots.2 fun place hplace hne hprefix => ?_
      refine hdirs place hplace hne ?_
      rcases hskip with rfl | rfl <;> exact hprefix
    · have hfirst : IsPlain first := by
        rw [not_or] at hskip
        exact ⟨hskip.1, hskip.2, Ne.symm hdots.1⟩
      have hstep : Path.withoutDots here (first :: before) =
          Path.withoutDots (here ++ [first]) before := by
        obtain ⟨hempty, hdot, hback⟩ := hfirst
        simp [Path.withoutDots, hempty, hdot, hback]
      rw [hstep] at hdirs
      by_cases hfirstLong : nameLimit < Text.nameSize first
      · exact (Walks.tooLong hfirst hfirstLong).eq
      · have hprefix : here ++ [first] <+: Path.withoutDots (here ++ [first]) before :=
          Path.withoutDots_prefix (List.nil_prefix) hdots.2 _
        have hdir := hdirs _ (List.prefix_append here [first]) (by simp) hprefix
        rw [(Walks.enter hfirst hfirstLong hdir (walk_walks t ..)).eq]
        refine walk_of_tooLong hlong after hdots.2 fun place hplace _ hbelow => ?_
        refine hdirs place ((List.prefix_append here [first]).trans hplace) ?_ hbelow
        rintro rfl
        exact absurd hplace.length_le (by simp)

end FileTree

namespace Disk

variable {dirs files : Set Location} {d d' : Disk} {p : Path}

/-- A disk without links, as the system keeps it. -/
structure Sound (d : Disk) : Prop where
  linkFree : d.tree.LinkFree
  closed : d.tree.Closed
  here : d.tree.get? d.here = some .dir

theorem Sound.start (hd : d.Sound) (p : Path) : d.tree.get? (d.start p) = some .dir := by
  unfold Disk.start
  split_ifs
  · exact hd.here
  · rfl

theorem Sound.of_put (hd : d.Sound) {place : Location} {e : Entry}
    (hgrows : d.Grows dirs files { d with tree := d.tree.put place e })
    (habove : d.tree.get? place.dropLast = some .dir)
    (he : d.tree.get? place = some .dir → e = .dir) :
    Disk.Sound { d with tree := d.tree.put place e } where
  linkFree := hgrows.tree.linkFree hd.linkFree
  closed := hd.closed.put habove he
  here := hgrows.tree.get?_dir hd.here

theorem makeDir_sound (hd : d.Sound) (h : d.makeDir p = .ok d') : d'.Sound := by
  have hgrows : d.Grows {p.place d.here} ∅ d' :=
    makeDir_grows hd.linkFree h (Set.mem_singleton _)
  unfold makeDir at h
  split at h
  · contradiction
  · rename_i place hfind
    obtain rfl := Except.ok.inj h
    have hwalk := FileTree.walks_iff.2 (find_eq_ok.1 hfind).2
    exact hd.of_put hgrows (hwalk.dropLast hd.linkFree hd.closed (hd.start p)) fun _ => rfl
  · contradiction

theorem writeFile_sound {bytes : ByteArray} (hd : d.Sound) (h : d.writeFile p bytes = .ok d') :
    d'.Sound := by
  have hgrows : d.Grows ∅ {p.place d.here} d' :=
    (writeFile_grows hd.linkFree h (Set.mem_singleton _)).1
  unfold writeFile at h
  split at h
  · contradiction
  · contradiction
  · rename_i place e hdir hfind
    obtain rfl := Except.ok.inj h
    have hwalk := FileTree.walks_iff.2 (find_eq_ok.1 hfind).2
    obtain ⟨-, ⟨hnone, rfl⟩ | ⟨old, hold⟩⟩ :=
      get?_of_find hd.linkFree hfind fun he => hdir he
    · refine hd.of_put hgrows (hwalk.dropLast hd.linkFree hd.closed (hd.start p)) fun h => ?_
      rw [hnone] at h
      contradiction
    · refine hd.of_put hgrows (hd.closed.dropLast (by rw [hold]; nofun)) fun h => ?_
      exact absurd (hold.symm.trans h) (by simp)

/-- Work that leads along this leaves a sound disk sound. -/
def StaysSound (d d' : Disk) : Prop := d.Sound → d'.Sound

instance : IsPreorder Disk StaysSound where
  refl _ h := h
  trans _ _ _ h h' hd := h' (h hd)

/-! ## Looking for a file -/

/-- A file is looked for in vain where the system cannot be asked, or where the walk ends
elsewhere. -/
theorem isFile_eq_false (h : d.isFile p = .ok false) : p.isNameable = false ∨
    (p.isNameable = true ∧ p.size < pathLimit) ∧
      (∀ place bytes, d.tree.walk linkLimit .follow (d.start p) p.parts ≠
        .ok (place, some (.file bytes))) ∧
      d.tree.walk linkLimit .follow (d.start p) p.parts ≠ .error .nameTooLong := by
  obtain ⟨e, hentry, -⟩ := lookup?_of_leadsTo h
  refine (lookup?_eq_ok hentry).imp_right fun ⟨hpath, hlong⟩ =>
    ⟨hpath, fun place bytes hwalk => ?_, hlong⟩
  rw [isFile_eq_true.2 ⟨place, bytes, find_eq_ok.2 ⟨hpath, hwalk⟩⟩] at h
  contradiction

/-- Where the path itself is not too long, a name is that leaves the question open. -/
theorem walk_of_fault {e : DiskError} (h : d.lookup? p = .error e) :
    p.isNameable = true ∧ (p.size < pathLimit →
      d.tree.walk linkLimit .follow (d.start p) p.parts = .error .nameTooLong) := by
  cases hname : p.isNameable with
  | false =>
    rw [lookup?_of_not_isNameable hname] at h
    contradiction
  | true =>
    refine ⟨rfl, fun hshort => ?_⟩
    obtain rfl := lookup?_eq_error h
    unfold lookup? entry find at h
    rw [hname, if_neg (by decide), if_neg (not_le.2 hshort)] at h
    cases hwalk : d.tree.walk linkLimit .follow (d.start p) p.parts with
    | ok spot =>
      rw [hwalk] at h
      obtain ⟨place, e⟩ := spot
      cases e <;> contradiction
    | error code =>
      rw [hwalk] at h
      have hcode := FileTree.walk_error (by decide) hwalk
      simp only [FileTree.walkCodes, List.mem_cons, List.not_mem_nil, or_false] at hcode
      rcases hcode with rfl | rfl | rfl | rfl
      · contradiction
      · contradiction
      · rfl
      · contradiction

/-- A name of the path is too long, and what stands before it leads to a place of `dirs`. -/
def Overlong (here : Location) (dirs : Set Location) (p : Path) : Prop :=
  p.isNameable = true ∧ ∃ before name after, p.parts = before ++ name :: after ∧
    nameLimit < Text.nameSize name ∧ Path.place here ⟨p.anchor, before⟩ ∈ dirs

theorem Overlong.mono {here : Location} {dirs' : Set Location} (h : Overlong here dirs p)
    (hdirs : dirs ⊆ dirs') : Overlong here dirs' p := by
  obtain ⟨hpath, before, name, after, hparts, hlong, hin⟩ := h
  exact ⟨hpath, before, name, after, hparts, hlong, hdirs hin⟩

/-- A name that is not too long itself does not matter. -/
theorem overlong_descend {here : Location} {name : String} (hshort : Text.nameSize name ≤ nameLimit)
    (hname : Text.isNameable name = true) :
    Overlong here dirs (p.descend [name]) ↔ Overlong here dirs p := by
  have hsame : (p.descend [name]).isNameable = p.isNameable := by
    simp [Path.isNameable, Path.descend, hname]
  constructor
  · rintro ⟨hpath, before, long, after, hparts, hlong, hin⟩
    refine ⟨hsame ▸ hpath, before, long, ?_⟩
    rcases List.eq_nil_or_concat after with rfl | ⟨after, last, rfl⟩
    · obtain ⟨-, hlast⟩ := List.append_inj' hparts rfl
      obtain rfl := List.singleton_injective hlast
      exact absurd hshort (not_le.2 hlong)
    · rw [List.concat_eq_append, ← List.cons_append, ← List.append_assoc] at hparts
      exact ⟨after, (List.append_inj' hparts rfl).1, hlong, hin⟩
  · rintro ⟨hpath, before, long, after, hparts, hlong, hin⟩
    refine ⟨hsame.trans hpath, before, long, after ++ [name], ?_, hlong, hin⟩
    rw [Path.descend, hparts, List.append_assoc, List.cons_append]

theorem isFile_grown_false (hd : d.Sound) (h : d.Grows dirs files d') (hdots : ".." ∉ p.parts)
    (hp : p.place d.here ∉ files) (hfile : d.isFile p = .ok false)
    (hshort : ¬ Overlong d.here dirs p) : d'.isFile p = .ok false := by
  rcases isFile_eq_false hfile with hunnameable | ⟨hpath, hnot, hwalk⟩
  · exact leadsTo_of_not_isNameable hunnameable
  · have hend := (FileTree.walk_walks ..).newEnd hd.linkFree hd.closed h.tree hdots hnot hwalk
    rw [← h.start_eq] at hend
    cases hfound : d'.isFile p with
    | error e =>
      obtain ⟨before, name, after, hparts, hlong, hin⟩ :=
        hend.tooLong ((walk_of_fault (lookup?_of_leadsTo_error hfound)).2 hpath.2)
      rw [h.start_eq] at hin
      exact absurd ⟨hpath.1, before, name, after, hparts, hlong, hin⟩ hshort
    | ok found =>
      cases found with
      | false => rfl
      | true =>
        obtain ⟨place, bytes, hfind⟩ := isFile_eq_true.1 hfound
        have hin := hend.file place bytes (find_eq_ok.1 hfind).2
        rw [(find_ok (h.tree.linkFree hd.linkFree) hfind).1, h.here] at hin
        exact absurd hin hp

/-- Where there are directories up to the name that is too long, the question stays open. -/
theorem isFile_of_overlong (hlong : Overlong d.here dirs p) (hdots : ".." ∉ p.parts)
    (hdirs : ∀ place ∈ dirs, ∀ above, above <+: place → d.tree.get? above = some .dir) :
    ∃ e, d.isFile p = .error e := by
  obtain ⟨hpath, before, name, after, hparts, hlong, hin⟩ := hlong
  rw [hparts, List.mem_append, not_or] at hdots
  have hwalk : d.tree.walk linkLimit .follow (d.start p) p.parts = .error .nameTooLong := by
    rw [hparts]
    exact FileTree.walk_of_tooLong hlong after hdots.1 fun place _ _ hplace =>
      hdirs _ hin place hplace
  have hfind : d.find .follow p = .error (.fault ⟨.nameTooLong, p.text⟩) := by
    rw [find, hpath, hwalk, if_neg (by decide)]
    exact ite_self _
  refine ⟨.fault ⟨.nameTooLong, p.text⟩, ?_⟩
  rw [isFile, leadsTo, lookup?, entry, hfind]
  rfl

end Disk

namespace DiskWork

variable {d : Disk} {p : Path} {anchor : Anchor}

section Keeping

variable {R : Disk → Disk → Prop} [IsPreorder Disk R]

variable (hmake : ∀ {p : Path} {d d' : Disk}, d.makeDir p = .ok d' → R d d')

include hmake

theorem attempt_keeps {onAbsent : String → DiskWork Unit} (habsent : ∀ t, Keeps R (onAbsent t) d) :
    Keeps R (attempt p onAbsent) d := by
  refine Keeps.of_step ?_
  unfold attempt
  split
  · rename_i d' h
    exact hmake h
  · exact (habsent _).1
  · exact settleFor_keeps.1

theorem ensureUp_keeps : ∀ {names : List String} {d : Disk}, Keeps R (ensureUp anchor names) d
  | [], _ => attempt_keeps hmake fun _ => .throw _
  | name :: above, d => by
    rw [ensureUp_cons]
    refine attempt_keeps hmake fun _ => ensureUp_keeps.bind fun _ _ _ _ => ?_
    exact attempt_keeps hmake fun _ => .throw _

/-- What the making of one directory leads along, the making of all of them does. -/
theorem ensureDirs_keeps : Keeps R (ensureDirs p) d := ensureUp_keeps hmake

end Keeping

theorem ensureDirs_sound : Keeps Disk.StaysSound (ensureDirs p) d :=
  ensureDirs_keeps fun h hd => Disk.makeDir_sound hd h

end DiskWork

end SetupScript
