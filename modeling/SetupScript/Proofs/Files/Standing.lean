import SetupScript.Proofs.Files.Growth
import SetupScript.Proofs.Files.Refusals
import SetupScript.Proofs.Files.TwinDisks

/-!
# What growth leaves standing

A path that leads somewhere on a disk without links still does so when the disk has grown, and finds
the same there, up to the bytes of a file that may have been written (`find_grows`). So directories
that were made are not made again (`ensureDirs_grown`), and files that keep their bytes are written
and copied once more without a change (`write_grown`, `copy_grown`).
-/

namespace SetupScript

namespace Listing

theorem insert_self {place : Location} {e : Entry} : ∀ {es : Listing}, es.Ordered →
    es.get? place = some e → insert place e es = es
  | [], _, h => by simp [get?] at h
  | x :: xs, hordered, h => by
    obtain ⟨hx, hxs⟩ := List.pairwise_cons.1 hordered
    rw [get?_cons] at h
    unfold insert
    by_cases hplace : place = x.1
    · rw [if_pos hplace, Option.some.injEq] at h
      rw [if_neg (hplace ▸ List.lt_irrefl _), if_neg (hplace ▸ List.lt_irrefl _), hplace, ← h]
    · rw [if_neg hplace] at h
      have hlt : x.1 < place := by
        obtain ⟨y, hy, -⟩ := Option.map_eq_some_iff.1 h
        have hyplace : y.1 = place := beq_iff_eq.1 (List.find?_some hy :)
        exact hyplace ▸ hx y (List.mem_of_find?_eq_some hy)
      rw [if_neg (List.lt_asymm hlt), if_pos hlt, insert_self hxs h]

end Listing

namespace FileTree

variable {dirs files : Set Location} {t u : FileTree} {last last' : Last} {n : Nat}
  {here place : Location} {names : List String}

/-- To put what is there changes nothing. -/
theorem put_self {e : Entry} (h : t.get? place = some e) : t.put place e = t := by
  unfold put
  split_ifs with hroot
  · rfl
  · rw [get?, if_neg hroot] at h
    obtain ⟨entries, hordered⟩ := t
    congr
    exact Listing.insert_self hordered h

theorem Grows.get?_some (h : t.Grows dirs files u) {e : Entry} (he : t.get? place = some e) :
    ∃ e', u.get? place = some e' ∧ Becomes False (place ∈ files) (some e) (some e') := by
  have hplace := h place
  rw [he] at hplace
  generalize hu : u.get? place = x at hplace
  cases hplace with
  | same => exact ⟨e, rfl, .same _⟩
  | rewritten hin old new => exact ⟨.file new, rfl, .rewritten hin old new⟩

theorem Grows.get?_dir (h : t.Grows dirs files u) (hdir : t.get? place = some .dir) :
    u.get? place = some .dir := by
  obtain ⟨e, he, hbecomes⟩ := h.get?_some hdir
  cases hbecomes
  exact he

/-- What is found at the end of a walk is still found there. -/
theorem Walks.grows (ht : t.LinkFree) (h : t.Grows dirs files u) {e : Entry}
    (hwalk : Walks t last n here names (.ok (place, some e))) :
    ∃ e', Walks u last' n here names (.ok (place, some e')) ∧
      Becomes False (place ∈ files) (some e) (some e') := by
  generalize hr : (.ok (place, some e) : Except FaultCode Spot) = r at hwalk
  induction hwalk with
  | done =>
    simp only [Except.ok.injEq, Prod.mk.injEq, Option.some.injEq] at hr
    obtain ⟨rfl, rfl⟩ := hr
    exact ⟨.dir, .done, .same _⟩
  | skip hname _ ih =>
    obtain ⟨e', hwalk, he⟩ := ih hr
    exact ⟨e', .skip hname hwalk, he⟩
  | back _ ih =>
    obtain ⟨e', hwalk, he⟩ := ih hr
    exact ⟨e', .back hwalk, he⟩
  | tooLong => contradiction
  | arrive hname hshort hget hbare =>
    simp only [Except.ok.injEq, Prod.mk.injEq] at hr
    obtain ⟨rfl, rfl⟩ := hr
    obtain ⟨e', he', hbecomes⟩ := h.get?_some hget
    refine ⟨e', .arrive hname hshort he' ?_, hbecomes⟩
    cases hbecomes with
    | same => exact hbare
    | rewritten _ _ new => exact .file new
  | blocked => contradiction
  | enter hname hshort hget _ ih =>
    obtain ⟨e', hwalk, he⟩ := ih hr
    exact ⟨e', .enter hname hshort (h.get?_dir hget) hwalk, he⟩
  | stay _ _ hget => exact absurd hget (ht _ _)
  | loop => contradiction
  | follow _ _ hget => exact absurd hget (ht _ _)
  | refuse _ _ hget => exact absurd hget (ht _ _)

/-- Without links it does not matter what would be done about one at the end. -/
theorem Walks.of_last (ht : t.LinkFree) {r : Except FaultCode Spot}
    (h : Walks t last n here names r) : Walks t last' n here names r := by
  induction h with
  | done => exact .done
  | skip hname _ ih => exact .skip hname ih
  | back _ ih => exact .back ih
  | tooLong hname hlong => exact .tooLong hname hlong
  | arrive hname hshort hget hbare => exact .arrive hname hshort hget hbare
  | blocked hname hshort hrest hget hbare => exact .blocked hname hshort hrest hget hbare
  | enter hname hshort hget _ ih => exact .enter hname hshort hget ih
  | stay _ _ hget => exact absurd hget (ht _ _)
  | loop _ _ hget => exact absurd hget (ht _ _)
  | follow _ _ hget => exact absurd hget (ht _ _)
  | refuse _ _ hget => exact absurd hget (ht _ _)

/-- A walk that comes to a directory goes on from there. -/
theorem Walks.append (ht : t.LinkFree) {more : List String} {r : Except FaultCode Spot}
    (hwalk : Walks t last n here names (.ok (place, some .dir)))
    (hmore : Walks t last n place more r) : Walks t last n here (names ++ more) r := by
  generalize hr : (.ok (place, some .dir) : Except FaultCode Spot) = found at hwalk
  induction hwalk with
  | done =>
    obtain rfl := congrArg Prod.fst (Except.ok.inj hr)
    exact hmore
  | skip hname _ ih => exact .skip hname (ih hmore hr)
  | back _ ih => exact .back (ih hmore hr)
  | tooLong => contradiction
  | arrive _ _ _ hbare =>
    obtain rfl := congrArg Prod.snd (Except.ok.inj hr)
    contradiction
  | blocked => contradiction
  | enter hname hshort hget _ ih => exact .enter hname hshort hget (ih hmore hr)
  | stay _ _ hget => exact absurd hget (ht _ _)
  | loop => contradiction
  | follow _ _ hget => exact absurd hget (ht _ _)
  | refuse _ _ hget => exact absurd hget (ht _ _)

/-- A directory is found by the names that it was made under. -/
theorem Walks.put_dir (ht : t.LinkFree) (hwalk : Walks t last n here names (.ok (place, none))) :
    Walks (t.put place .dir) last n here names (.ok (place, some .dir)) := by
  generalize hr : (.ok (place, none) : Except FaultCode Spot) = r at hwalk
  induction hwalk with
  | done => simp at hr
  | skip hname _ ih => exact .skip hname (ih hr)
  | back _ ih => exact .back (ih hr)
  | tooLong => contradiction
  | arrive hname hshort hget =>
    simp only [Except.ok.injEq, Prod.mk.injEq] at hr
    obtain ⟨rfl, rfl⟩ := hr
    refine .enter hname hshort ?_ .done
    rw [get?_put t (by simp), if_pos rfl]
  | blocked => contradiction
  | @enter _ _ here name _ _ hname hshort hget _ ih =>
    refine .enter hname hshort ?_ (ih hr)
    by_cases hroot : place = []
    · rwa [put, if_pos hroot]
    · rw [get?_put t hroot, hget, ite_self]
  | stay _ _ hget => exact absurd hget (ht _ _)
  | loop => contradiction
  | follow _ _ hget => exact absurd hget (ht _ _)
  | refuse _ _ hget => exact absurd hget (ht _ _)

theorem Grows.children_eq (h : t.Grows dirs files u)
    (hdirs : ∀ name, place ++ [name] ∉ dirs) (hfiles : ∀ name, place ++ [name] ∉ files) :
    t.children place = u.children place := by
  refine children_congr fun name => ⟨fun hnone => ?_, fun hnone => ?_⟩
  · have hplace := h (place ++ [name])
    rw [hnone] at hplace
    generalize u.get? (place ++ [name]) = e at hplace
    cases hplace with
    | same => rfl
    | made hin => exact absurd hin (hdirs name)
    | written hin => exact absurd hin (hfiles name)
  · by_contra hsome
    exact (h _).ne_none hsome hnone

end FileTree

namespace Disk

variable {dirs files : Set Location} {d d' : Disk} {last last' : Last} {p q : Path}
  {place : Location} {bytes : ByteArray}

theorem Grows.start_eq (h : d.Grows dirs files d') (p : Path) : d'.start p = d.start p := by
  rw [start, start, h.here]

theorem find_grows (ht : d.tree.LinkFree) (h : d.Grows dirs files d') {e : Entry}
    (hfind : d.find last p = .ok (place, some e)) (last' : Last) :
    ∃ e', d'.find last' p = .ok (place, some e') ∧
      Becomes False (place ∈ files) (some e) (some e') := by
  obtain ⟨hpath, hwalk⟩ := find_eq_ok.1 hfind
  obtain ⟨e', hwalk', he⟩ := (FileTree.walks_iff.2 hwalk).grows ht h.tree
  refine ⟨e', find_eq_ok.2 ⟨hpath, ?_⟩, he⟩
  rw [h.start_eq]
  exact hwalk'.eq

theorem find_dir_grows (ht : d.tree.LinkFree) (h : d.Grows dirs files d')
    (hfind : d.find last p = .ok (place, some .dir)) (last' : Last) :
    d'.find last' p = .ok (place, some .dir) := by
  obtain ⟨e', hfind', he⟩ := find_grows ht h hfind last'
  cases he
  exact hfind'

theorem find_file_grows (ht : d.tree.LinkFree) (h : d.Grows dirs files d')
    (hfind : d.find last p = .ok (place, some (.file bytes))) (last' : Last) :
    ∃ new, d'.find last' p = .ok (place, some (.file new)) ∧ (place ∉ files → new = bytes) := by
  obtain ⟨e', hfind', he⟩ := find_grows ht h hfind last'
  cases he with
  | same => exact ⟨bytes, hfind', fun _ => rfl⟩
  | rewritten hin _ new => exact ⟨new, hfind', fun hout => absurd hin hout⟩

theorem entry_eq_ok {e : Entry} : d.entry p = .ok (place, e) ↔
    d.find .follow p = .ok (place, some e) := by
  unfold entry
  constructor
  · intro h
    split at h
    · contradiction
    · contradiction
    · rename_i hfind
      simp only [Except.ok.injEq, Prod.mk.injEq] at h
      rw [hfind, h.1, h.2]
  · intro h
    rw [h]

/-- The question what is at a path has an answer where the system cannot be asked, or where the path
is not too long and has no name that is. -/
theorem lookup?_eq_ok {e : Option Entry} (h : d.lookup? p = .ok e) : p.isNameable = false ∨
    (p.isNameable = true ∧ p.size < pathLimit) ∧
      d.tree.walk linkLimit .follow (d.start p) p.parts ≠ .error .nameTooLong := by
  cases hname : p.isNameable with
  | false => exact .inl rfl
  | true =>
    right
    have hfind : d.find .follow p ≠ .error (.fault ⟨.nameTooLong, p.text⟩) := by
      intro hfind
      unfold lookup? entry at h
      rw [hfind] at h
      contradiction
    unfold find at hfind
    rw [hname, if_neg (by decide)] at hfind
    split_ifs at hfind with hlong
    · exact absurd rfl hfind
    · refine ⟨⟨rfl, not_le.1 hlong⟩, fun hwalk => hfind ?_⟩
      rw [hwalk]

theorem isDir_eq_true : d.isDir p = .ok true ↔
    ∃ place, d.find .follow p = .ok (place, some .dir) := by
  rw [isDir, leadsTo_eq_true]
  simp only [Entry.isDir_iff, entry_eq_ok, exists_eq_right]

theorem isFile_eq_true : d.isFile p = .ok true ↔
    ∃ place bytes, d.find .follow p = .ok (place, some (.file bytes)) := by
  rw [isFile, leadsTo_eq_true]
  simp only [Entry.isFile_iff, entry_eq_ok]
  constructor
  · rintro ⟨place, _, hfind, bytes, rfl⟩
    exact ⟨place, bytes, hfind⟩
  · rintro ⟨place, bytes, hfind⟩
    exact ⟨place, _, hfind, bytes, rfl⟩

theorem read_eq_ok : d.read p = .ok bytes ↔
    ∃ place, d.find .follow p = .ok (place, some (.file bytes)) := by
  constructor
  · intro h
    unfold read at h
    split at h
    · rename_i place found hentry
      obtain rfl := Except.ok.inj h
      exact ⟨place, entry_eq_ok.1 hentry⟩
    · contradiction
    · contradiction
  · rintro ⟨place, hfind⟩
    exact read_of_find hfind

theorem names_eq_ok {names : List String} : d.names p = .ok names ↔
    ∃ place, d.find .follow p = .ok (place, some .dir) ∧ d.tree.children place = names := by
  constructor
  · intro h
    unfold Disk.names at h
    split at h
    · rename_i place hentry
      exact ⟨place, entry_eq_ok.1 hentry, Except.ok.inj h⟩
    · contradiction
    · contradiction
  · rintro ⟨place, hfind, rfl⟩
    rw [Disk.names, entry_eq_ok.2 hfind]

section Questions

variable (ht : d.tree.LinkFree) (h : d.Grows dirs files d')

include ht h

theorem isDir_grown (hdir : d.isDir p = .ok true) : d'.isDir p = .ok true := by
  obtain ⟨place, hfind⟩ := isDir_eq_true.1 hdir
  exact isDir_eq_true.2 ⟨place, find_dir_grows ht h hfind .follow⟩

theorem isFile_grown (hfile : d.isFile p = .ok true) : d'.isFile p = .ok true := by
  obtain ⟨place, bytes, hfind⟩ := isFile_eq_true.1 hfile
  obtain ⟨new, hfind', -⟩ := find_file_grows ht h hfind .follow
  exact isFile_eq_true.2 ⟨place, new, hfind'⟩

theorem read_grown (hp : p.place d.here ∉ files) (hread : d.read p = .ok bytes) :
    d'.read p = .ok bytes := by
  obtain ⟨place, hfind⟩ := read_eq_ok.1 hread
  obtain ⟨new, hfind', hsame⟩ := find_file_grows ht h hfind .follow
  obtain rfl := (find_ok ht hfind).1
  rw [hsame hp] at hfind'
  exact read_of_find hfind'

theorem names_grown {names : List String} (hnames : d.names p = .ok names)
    (hdirs : ∀ name, p.place d.here ++ [name] ∉ dirs)
    (hfiles : ∀ name, p.place d.here ++ [name] ∉ files) : d'.names p = .ok names := by
  obtain ⟨place, hfind, hchildren⟩ := names_eq_ok.1 hnames
  obtain rfl := (find_ok ht hfind).1
  refine names_eq_ok.2 ⟨_, find_dir_grows ht h hfind .follow, ?_⟩
  rw [← hchildren]
  exact (h.tree.children_eq hdirs hfiles).symm

end Questions

section Listed

variable {names : List String} {name : String}

/-- What a directory lists is a directory or a file, and its path leads to it. -/
theorem find_listed (ht : d.tree.LinkFree) (hnames : d.names p = .ok names) (hname : name ∈ names)
    (hdir : d.isDir (p.descend [name]) = .ok false) : (p.descend [name]).isNameable = false ∨
      ∃ place bytes, d.find .follow (p.descend [name]) = .ok (place, some (.file bytes)) := by
  obtain ⟨e, hentry, -⟩ := lookup?_of_leadsTo hdir
  refine (lookup?_eq_ok hentry).imp_right fun ⟨hpath, hwalk⟩ => ?_
  obtain ⟨place, hfind, rfl⟩ := names_eq_ok.1 hnames
  have hnotDir : ∀ other, ¬ FileTree.Walks d.tree .follow linkLimit (d.start (p.descend [name]))
      (p.parts ++ [name]) (.ok (other, some .dir)) := by
    intro other h
    have htrue := isDir_eq_true.2 ⟨other, find_eq_ok.2 ⟨hpath, h.eq⟩⟩
    exact absurd (hdir.symm.trans htrue) (by simp)
  have hthere := FileTree.walks_iff.2 (find_eq_ok.1 hfind).2
  by_cases hskip : name = "" ∨ name = "."
  · exact absurd (hthere.append ht (.skip hskip .done)) (hnotDir _)
  · by_cases hback : name = ".."
    · subst hback
      exact absurd (hthere.append ht (.back .done)) (hnotDir _)
    · have hplain : IsPlain name := ⟨fun h => hskip (.inl h), fun h => hskip (.inr h), hback⟩
      by_cases hlong : nameLimit < Text.nameSize name
      · exact absurd (hthere.append ht (.tooLong hplain hlong)).eq hwalk
      · cases hget : d.tree.get? (place ++ [name]) with
        | none => exact absurd hget (FileTree.mem_children.1 hname)
        | some e =>
          cases e with
          | dir => exact absurd (hthere.append ht (.enter hplain hlong hget .done)) (hnotDir _)
          | link target => exact absurd hget (ht _ _)
          | file bytes =>
            have hend := hthere.append ht (.arrive hplain hlong hget (.file bytes))
            exact ⟨_, bytes, find_eq_ok.2 ⟨hpath, hend.eq⟩⟩

theorem isDir_listed_grown (ht : d.tree.LinkFree) (h : d.Grows dirs files d')
    (hnames : d.names p = .ok names) (hname : name ∈ names) {isDir : Bool}
    (hdir : d.isDir (p.descend [name]) = .ok isDir) :
    d'.isDir (p.descend [name]) = .ok isDir := by
  cases isDir with
  | true => exact isDir_grown ht h hdir
  | false =>
    rcases find_listed ht hnames hname hdir with hunnameable | ⟨place, bytes, hfind⟩
    · exact leadsTo_of_not_isNameable hunnameable
    · obtain ⟨new, hfind', -⟩ := find_file_grows ht h hfind .follow
      rw [Disk.isDir, leadsTo, lookup?, entry_eq_ok.2 hfind']
      rfl

end Listed

/-- To write what is there changes nothing. -/
theorem writeFile_self (ht : d.tree.LinkFree)
    (h : d.find .make p = .ok (place, some (.file bytes))) : d.writeFile p bytes = .ok d := by
  have hget : d.tree.get? place = some (.file bytes) :=
    ((find_ok ht h).2.resolve_left (by simp)).symm
  rw [writeFile, h]
  simp only [FileTree.put_self hget]

theorem find_of_writeFile (h : d.writeFile p bytes = .ok d') :
    ∃ place, d'.find .follow p = .ok (place, some (.file bytes)) :=
  read_eq_ok.1 (read_writeFile h)

theorem writeFile_grown {made : Disk} (ht : d.tree.LinkFree)
    (hwrite : d.writeFile p bytes = .ok made) (h : made.Grows dirs files d')
    (hp : p.place d.here ∉ files) :
    d'.writeFile p bytes = .ok d' := by
  have hmade : d.Grows ∅ {p.place d.here} made :=
    (writeFile_grows ht hwrite (Set.mem_singleton _)).1
  have ht' := hmade.tree.linkFree ht
  obtain ⟨place, hfind⟩ := find_of_writeFile hwrite
  obtain rfl : place = p.place d.here := hmade.here ▸ (find_ok ht' hfind).1
  obtain ⟨new, hfind', hsame⟩ := find_file_grows ht' h hfind .make
  rw [hsame hp] at hfind'
  exact writeFile_self (h.tree.linkFree ht') hfind'

theorem makeDir_of_isDir (ht : d.tree.LinkFree) (h : d.isDir p = .ok true) :
    d.makeDir p = .error (.fault ⟨.occupied, p.text⟩) := by
  obtain ⟨place, hfind⟩ := isDir_eq_true.1 h
  rw [makeDir, find_dir_grows ht (refl_of _ d : d.Grows ∅ ∅ d) hfind .stay]

theorem isDir_of_makeDir (ht : d.tree.LinkFree) (h : d.makeDir p = .ok d') :
    d'.isDir p = .ok true := by
  unfold makeDir at h
  split at h
  · contradiction
  · rename_i place hfind
    have hmade : d.makeDir p = .ok { d with tree := d.tree.put place .dir } := by
      rw [makeDir, hfind]
    have hgrows : d.Grows {p.place d.here} ∅ _ := makeDir_grows ht hmade rfl
    have ht' := hgrows.tree.linkFree ht
    obtain rfl := Except.ok.inj h
    obtain ⟨hpath, hwalk⟩ := find_eq_ok.1 hfind
    refine isDir_eq_true.2 ⟨place, find_eq_ok.2 ⟨hpath, ?_⟩⟩
    exact (((FileTree.walks_iff.2 hwalk).put_dir ht).of_last ht').eq
  · contradiction

end Disk

namespace DiskWork

variable {dirs files : Set Location} {d d' made : Disk} {p source target : Path} {bytes : ByteArray}
  {anchor : Anchor}

/-- What will do for a directory is one. -/
theorem settleFor_eq_ok {e : DiskError} : settleFor p e d = (.ok (), made) ↔
    e.isRefusal = true ∧ d.isDir p = .ok true ∧ made = d := by
  unfold settleFor
  cases e.isRefusal with
  | false => exact iff_of_false nofun nofun
  | true =>
    rw [if_pos rfl, bind_run_eq_ok]
    constructor
    · rintro ⟨found, d₁, hfound, hrest⟩
      obtain ⟨hdir, rfl⟩ := Prod.mk.inj hfound
      cases found with
      | false => exact absurd (congrArg Prod.fst hrest) nofun
      | true => exact ⟨rfl, hdir, (congrArg Prod.snd hrest).symm⟩
    · rintro ⟨-, hdir, rfl⟩
      exact ⟨true, made, Prod.ext hdir rfl, rfl⟩

theorem attempt_of_isDir (ht : d.tree.LinkFree) (h : d.isDir p = .ok true)
    (onAbsent : String → DiskWork Unit) : attempt p onAbsent d = (.ok (), d) := by
  rw [attempt_of_error (Disk.makeDir_of_isDir ht h) (by simp)]
  exact settleFor_eq_ok.2 ⟨rfl, h, rfl⟩

theorem isDir_of_attempt (ht : d.tree.LinkFree) {onAbsent : String → DiskWork Unit}
    (h : attempt p onAbsent d = (.ok (), made))
    (habsent : ∀ t, onAbsent t d = (.ok (), made) → made.isDir p = .ok true) :
    made.isDir p = .ok true := by
  unfold attempt at h
  split at h
  · rename_i d' hmake
    obtain rfl := congrArg Prod.snd h
    exact Disk.isDir_of_makeDir ht hmake
  · exact habsent _ h
  · obtain ⟨-, hdir, rfl⟩ := settleFor_eq_ok.1 h
    exact hdir

theorem isDir_of_ensureDir (ht : d.tree.LinkFree) (h : ensureDir p d = (.ok (), made)) :
    made.isDir p = .ok true := by
  rw [ensureDir_eq] at h
  exact isDir_of_attempt ht h fun _ h => nomatch h

/-- By induction on the names from the last one up, as the directories are made. -/
theorem isDir_of_ensureUp : ∀ {names : List String} {d : Disk}, d.tree.LinkFree →
    ensureUp anchor names d = (.ok (), made) → made.isDir ⟨anchor, names.reverse⟩ = .ok true
  | [], _, ht, h => isDir_of_ensureDir ht h
  | name :: above, d, ht, h => by
    rw [ensureUp_cons] at h
    refine isDir_of_attempt ht h fun _ htwice => ?_
    obtain ⟨_, d₁, habove, hlast⟩ := bind_run_eq_ok.1 htwice
    have hgrows : Keeps (Disk.Grows Set.univ ∅) (ensureUp anchor above) d :=
      ensureUp_grows ht (Set.subset_univ _)
    exact isDir_of_ensureDir ((hgrows.along habove).tree.linkFree ht) hlast

theorem isDir_of_ensureDirs (ht : d.tree.LinkFree) (h : ensureDirs p d = (.ok (), made)) :
    made.isDir p = .ok true := by
  have hdir := isDir_of_ensureUp ht h
  rwa [List.reverse_reverse] at hdir

theorem ensureDirs_of_isDir (ht : d.tree.LinkFree) (h : d.isDir p = .ok true) :
    ensureDirs p d = (.ok (), d) := by
  obtain ⟨anchor, parts⟩ := p
  unfold ensureDirs
  cases hparts : parts.reverse with
  | nil =>
    obtain rfl := List.reverse_eq_nil_iff.1 hparts
    exact attempt_of_isDir ht h _
  | cons name above =>
    have hpath : (⟨anchor, (name :: above).reverse⟩ : Path) = ⟨anchor, parts⟩ := by
      rw [← hparts, List.reverse_reverse]
    rw [ensureUp_cons, hpath]
    exact attempt_of_isDir ht h _

/-- Directories that were made are there. -/
theorem ensureDirs_grown (ht : d.tree.LinkFree) (h : ensureDirs p d = (.ok (), made))
    (hgrows : made.Grows dirs files d') : ensureDirs p d' = (.ok (), d') := by
  have hmade : Keeps (Disk.Grows Set.univ ∅) (ensureDirs p) d :=
    ensureDirs_grows ht (Set.subset_univ _)
  have ht' := (hmade.along h).tree.linkFree ht
  exact ensureDirs_of_isDir (hgrows.tree.linkFree ht')
    (Disk.isDir_grown ht' hgrows (isDir_of_ensureDirs ht h))

theorem change_eq_ok {step : Disk → Except DiskError Disk} :
    change step d = (.ok (), made) ↔ step d = .ok made := by
  unfold change
  cases step d with
  | error e => exact iff_of_false nofun nofun
  | ok d' =>
    exact ⟨fun h => congrArg Except.ok (congrArg Prod.snd h),
      fun h => Prod.ext rfl (Except.ok.inj h)⟩

/-- A file that keeps its bytes is written once more without a change. -/
theorem write_grown (ht : d.tree.LinkFree) (h : write p bytes d = (.ok (), made))
    (hgrows : made.Grows dirs files d') (hp : p.place d.here ∉ files) :
    write p bytes d' = (.ok (), d') :=
  change_eq_ok.2 (Disk.writeFile_grown ht (change_eq_ok.1 h) hgrows hp)

theorem writeInPlace_eq_ok : writeInPlace p bytes d = (.ok (), made) ↔
    d.writeFile p bytes = .ok made := by
  unfold writeInPlace
  cases hwrite : d.writeFile p bytes with
  | ok d' =>
    exact ⟨fun h => congrArg Except.ok (congrArg Prod.snd h),
      fun h => Prod.ext rfl (Except.ok.inj h)⟩
  | error e =>
    refine iff_of_false (fun h => ?_) nofun
    split at h
    · contradiction
    · exact absurd (congrArg Prod.fst h) nofun
    · exact absurd (congrArg Prod.fst h) nofun

theorem copy_eq_ok : copy source target d = (.ok (), made) ↔
    (source.isNameable && target.isNameable) = true ∧ samePlace source target d = false ∧
      ∃ bytes, d.read source = .ok bytes ∧ d.writeFile target bytes = .ok made := by
  unfold copy
  cases source.isNameable && target.isNameable with
  | false => exact iff_of_false (fun h => absurd (congrArg Prod.fst h) nofun) nofun
  | true =>
    rw [if_neg (by decide), bind_run_eq_ok]
    constructor
    · rintro ⟨_, d₁, hget, h⟩
      obtain ⟨h₁, h₂⟩ := Prod.mk.inj hget
      obtain rfl := Except.ok.inj h₁
      obtain rfl := h₂
      split at h
      · exact absurd (congrArg Prod.fst h) nofun
      · rename_i hsame
        obtain ⟨bytes, d₂, hask, hwrite⟩ := bind_run_eq_ok.1 h
        obtain ⟨hread, rfl⟩ : d.read source = .ok bytes ∧ d = d₂ := Prod.mk.inj hask
        exact ⟨rfl, by simpa using hsame, bytes, hread, writeInPlace_eq_ok.1 hwrite⟩
    · rintro ⟨-, hsame, bytes, hread, hwrite⟩
      refine ⟨d, d, rfl, ?_⟩
      rw [hsame]
      exact bind_run_eq_ok.2 ⟨bytes, d, Prod.ext hread rfl, writeInPlace_eq_ok.2 hwrite⟩

theorem samePlace_of_ne (ht : d.tree.LinkFree) (h : source.place d.here ≠ target.place d.here) :
    samePlace source target d = false := by
  unfold samePlace
  split
  · rename_i a e b f hsource htarget
    have ha := (Disk.find_ok ht (Disk.entry_eq_ok.1 hsource)).1
    have hb := (Disk.find_ok ht (Disk.entry_eq_ok.1 htarget)).1
    rw [beq_eq_false_iff_ne, ha, hb]
    exact h
  · rfl

/-- A file is not copied onto itself. -/
theorem place_ne_of_copy (ht : d.tree.LinkFree) (h : copy source target d = (.ok (), made)) :
    source.place d.here ≠ target.place d.here := by
  obtain ⟨-, hsame, bytes, hread, hwrite⟩ := copy_eq_ok.1 h
  obtain ⟨place, hsource⟩ := Disk.read_eq_ok.1 hread
  obtain ⟨rfl, hget⟩ := Disk.find_ok ht hsource
  intro heq
  rw [heq] at hget hsource
  obtain ⟨old, htarget⟩ : ∃ old, d.find .follow target =
      .ok (target.place d.here, some (.file old)) := by
    unfold Disk.writeFile at hwrite
    split at hwrite
    · contradiction
    · contradiction
    · rename_i place e hdir hfind
      obtain ⟨rfl, he⟩ := Disk.find_ok ht hfind
      obtain rfl := he.resolve_left fun he => hdir he
      rw [← hget.resolve_left (by simp)] at hfind
      obtain ⟨old, hfind', -⟩ := Disk.find_file_grows ht (refl_of (Disk.Grows ∅ ∅) d) hfind .follow
      exact ⟨old, hfind'⟩
  rw [samePlace, Disk.entry_eq_ok.2 hsource, Disk.entry_eq_ok.2 htarget] at hsame
  simp at hsame

/-- A file is copied once more without a change if it and the copy keep their bytes. -/
theorem copy_grown (ht : d.tree.LinkFree) (h : copy source target d = (.ok (), made))
    (hgrows : made.Grows dirs files d') (hsource : source.place d.here ∉ files)
    (htarget : target.place d.here ∉ files) : copy source target d' = (.ok (), d') := by
  have hne := place_ne_of_copy ht h
  obtain ⟨hnames, -, bytes, hread, hwrite⟩ := copy_eq_ok.1 h
  have hmade : d.Grows ∅ {target.place d.here} made :=
    (Disk.writeFile_grows ht hwrite (Set.mem_singleton _)).1
  have ht' := hmade.tree.linkFree ht
  have hread' : d'.read source = .ok bytes := by
    refine Disk.read_grown ht' hgrows (hmade.here.symm ▸ hsource) ?_
    exact Disk.read_grown ht hmade hne hread
  refine copy_eq_ok.2 ⟨hnames, ?_, bytes, hread', Disk.writeFile_grown ht hwrite hgrows htarget⟩
  refine samePlace_of_ne (hgrows.tree.linkFree ht') ?_
  rwa [hgrows.here, hmade.here]

end DiskWork

end SetupScript
