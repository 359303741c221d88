import SetupScript.Proofs.Files.Lookups

/-!
# Disks below another

A disk that can grow to another is below it. Without double dots, a path leads on the lower disk
where it leads on the upper one, as far as there are entries: to a directory that is there already
(`Walks.below_dir`), to where a file is or can be written (`Walks.below_bare`), or into nothing
(`Walks.below_absent`). So a question has the answer that it has above, unless it is about what is
still to be made or written (`Disk.isDir_below`, `Disk.isFile_below`, `Disk.read_below`,
`Disk.names_below`).
-/

namespace SetupScript

namespace FileTree

variable {dirs files : Set Location} {t u : FileTree} {last : Last} {n : Nat}
  {here place : Location} {names : List String}

/-- Without double dots a walk does not leave the place that it starts from. -/
theorem Walks.startsAt (hu : u.LinkFree) (hdots : ".." ∉ names) {e : Option Entry}
    (h : Walks u last n here names (.ok (place, e))) : here <+: place := by
  generalize hr : (.ok (place, e) : Except FaultCode Spot) = r at h
  induction h with
  | done =>
    obtain ⟨rfl, -⟩ := Prod.mk.inj (Except.ok.inj hr)
    exact List.prefix_rfl
  | skip _ _ ih => exact ih (fun hin => hdots (List.mem_cons_of_mem _ hin)) hr
  | back => exact absurd List.mem_cons_self hdots
  | tooLong => contradiction
  | arrive =>
    obtain ⟨rfl, -⟩ := Prod.mk.inj (Except.ok.inj hr)
    exact List.prefix_append _ _
  | blocked => contradiction
  | enter _ _ _ _ ih =>
    exact (List.prefix_append _ _).trans (ih (fun hin => hdots (List.mem_cons_of_mem _ hin)) hr)
  | stay _ _ hget => exact absurd hget (hu _ _)
  | loop => contradiction
  | follow _ _ hget => exact absurd hget (hu _ _)
  | refuse _ _ hget => exact absurd hget (hu _ _)

theorem Walks.below_dir (hu : u.LinkFree) (hc : t.Closed) (hdots : ".." ∉ names)
    (hplace : t.get? place = some .dir) (h : Walks u last n here names (.ok (place, some .dir))) :
    Walks t last n here names (.ok (place, some .dir)) := by
  generalize hr : (.ok (place, some .dir) : Except FaultCode Spot) = r at h
  induction h with
  | done =>
    exact .done
  | skip hname _ ih => exact .skip hname (ih (fun hin => hdots (List.mem_cons_of_mem _ hin)) hr)
  | back => exact absurd List.mem_cons_self hdots
  | tooLong => contradiction
  | arrive _ _ _ hbare =>
    obtain ⟨-, rfl⟩ := Prod.mk.inj (Except.ok.inj hr)
    contradiction
  | blocked => contradiction
  | enter hname hshort _ hwalk ih =>
    have hrest := fun hin => hdots (List.mem_cons_of_mem _ hin)
    subst hr
    exact .enter hname hshort (hc.above hplace (hwalk.startsAt hu hrest)) (ih hrest rfl)
  | stay _ _ hget => exact absurd hget (hu _ _)
  | loop => contradiction
  | follow _ _ hget => exact absurd hget (hu _ _)
  | refuse _ _ hget => exact absurd hget (hu _ _)

/-- Where the upper tree has a file, the lower one has it too or lets one be made. -/
theorem Walks.below_bare (hu : u.LinkFree) (hc : t.Closed) (hdots : ".." ∉ names)
    {bytes : ByteArray} (hfile : u.get? place = some (.file bytes))
    (habove : t.get? place.dropLast = some .dir) (hbare : IsBare (t.get? place))
    (h : Walks u last n here names (.ok (place, some (.file bytes)))) :
    Walks t last n here names (.ok (place, t.get? place)) := by
  generalize hr : (.ok (place, some (.file bytes)) : Except FaultCode Spot) = r at h
  induction h with
  | done =>
    obtain ⟨-, hdir⟩ := Prod.mk.inj (Except.ok.inj hr)
    exact absurd hdir (by simp)
  | skip hname _ ih => exact .skip hname (ih (fun hin => hdots (List.mem_cons_of_mem _ hin)) hr)
  | back => exact absurd List.mem_cons_self hdots
  | tooLong => contradiction
  | arrive hname hshort =>
    obtain ⟨rfl, -⟩ := Prod.mk.inj (Except.ok.inj hr)
    exact .arrive hname hshort rfl hbare
  | blocked => contradiction
  | @enter _ _ here name _ _ hname hshort hdir hwalk ih =>
    have hrest := fun hin => hdots (List.mem_cons_of_mem _ hin)
    subst hr
    -- the place of the file lies further down than the directory that is entered
    have hne : here ++ [name] ≠ place := by
      rintro rfl
      exact absurd (hfile.symm.trans hdir) (by simp)
    obtain ⟨more, rfl⟩ := hwalk.startsAt hu hrest
    have hmore : more ≠ [] := fun hnil => hne (by rw [hnil, List.append_nil])
    have hprefix : here ++ [name] <+: (here ++ [name] ++ more).dropLast := by
      rw [List.dropLast_append_of_ne_nil hmore]
      exact List.prefix_append _ _
    exact .enter hname hshort (hc.above habove hprefix) (ih hrest rfl)
  | stay _ _ hget => exact absurd hget (hu _ _)
  | loop => contradiction
  | follow _ _ hget => exact absurd hget (hu _ _)
  | refuse _ _ hget => exact absurd hget (hu _ _)

/-- Where a directory of the upper tree is still missing, nothing leads on. -/
theorem Walks.below_absent (hu : u.LinkFree) (hgrows : t.Grows dirs files u) (hdots : ".." ∉ names)
    (hhere : t.get? here = some .dir) (hnone : t.get? place = none) {more : List String}
    (hmore : more ≠ []) (h : Walks u last n here names (.ok (place, some .dir))) :
    Walks t last n here (names ++ more) (.error .absent) := by
  generalize hr : (.ok (place, some .dir) : Except FaultCode Spot) = r at h
  induction h with
  | done =>
    obtain ⟨rfl, -⟩ := Prod.mk.inj (Except.ok.inj hr)
    rw [hhere] at hnone
    contradiction
  | skip hname _ ih =>
    exact .skip hname (ih (fun hin => hdots (List.mem_cons_of_mem _ hin)) hhere hr)
  | back => exact absurd List.mem_cons_self hdots
  | tooLong => contradiction
  | arrive _ _ _ hbare =>
    obtain ⟨-, rfl⟩ := Prod.mk.inj (Except.ok.inj hr)
    contradiction
  | blocked => contradiction
  | @enter _ _ here name rest _ hname hshort hdir _ ih =>
    have hbecomes := hgrows (here ++ [name])
    rw [hdir] at hbecomes
    generalize hget : t.get? (here ++ [name]) = e at hbecomes
    cases hbecomes with
    | same =>
      exact .enter hname hshort hget (ih (fun hin => hdots (List.mem_cons_of_mem _ hin)) hget hr)
    | made => exact .blocked hname hshort (List.append_ne_nil_of_right_ne_nil rest hmore) hget .none
  | stay _ _ hget => exact absurd hget (hu _ _)
  | loop => contradiction
  | follow _ _ hget => exact absurd hget (hu _ _)
  | refuse _ _ hget => exact absurd hget (hu _ _)

/-- A name that is too long is come to above as well. -/
theorem Walks.tooLong_grows (ht : t.LinkFree) (hgrows : t.Grows dirs files u)
    (h : Walks t last n here names (.error .nameTooLong)) :
    Walks u last n here names (.error .nameTooLong) := by
  generalize hr : (.error .nameTooLong : Except FaultCode Spot) = r at h
  induction h with
  | done => contradiction
  | skip hname _ ih => exact .skip hname (ih hr)
  | back _ ih => exact .back (ih hr)
  | tooLong hname hlong => exact .tooLong hname hlong
  | arrive => contradiction
  | blocked _ _ _ _ hbare => cases hbare <;> exact absurd hr nofun
  | enter hname hshort hdir _ ih => exact .enter hname hshort (hgrows.get?_dir hdir) (ih hr)
  | stay _ _ hget => exact absurd hget (ht _ _)
  | loop => exact absurd hr nofun
  | follow _ _ hget => exact absurd hget (ht _ _)
  | refuse _ _ hget => exact absurd hget (ht _ _)

theorem Walks.get?_dir (ht : t.LinkFree) (hc : t.Closed) (hhere : t.get? here = some .dir)
    (h : Walks t last n here names (.ok (place, some .dir))) : t.get? place = some .dir := by
  generalize hr : (.ok (place, some .dir) : Except FaultCode Spot) = r at h
  induction h with
  | done =>
    obtain ⟨rfl, -⟩ := Prod.mk.inj (Except.ok.inj hr)
    exact hhere
  | skip _ _ ih => exact ih hhere hr
  | back _ ih => exact ih (hc.dropLast (by rw [hhere]; nofun)) hr
  | tooLong => contradiction
  | arrive _ _ _ hbare =>
    obtain ⟨-, rfl⟩ := Prod.mk.inj (Except.ok.inj hr)
    contradiction
  | blocked => contradiction
  | enter _ _ hdir _ ih => exact ih hdir hr
  | stay _ _ hget => exact absurd hget (ht _ _)
  | loop => contradiction
  | follow _ _ hget => exact absurd hget (ht _ _)
  | refuse _ _ hget => exact absurd hget (ht _ _)

/-- A walk that leads on comes to a directory first. -/
theorem Walks.of_append (ht : t.LinkFree) {more : List String} (hmore : more ≠ [])
    {r : Option Entry} : ∀ {names : List String} {here : Location},
      Walks t last n here (names ++ more) (.ok (place, r)) →
        ∃ middle, Walks t last n here names (.ok (middle, some .dir))
  | [], here, _ => ⟨here, .done⟩
  | name :: names, here, h => by
    generalize hall : name :: names ++ more = all,
      hr : (.ok (place, r) : Except FaultCode Spot) = found at h
    cases h with
    | done => contradiction
    | tooLong => contradiction
    | blocked => contradiction
    | loop => contradiction
    | skip hname h =>
      subst hr
      obtain ⟨rfl, rfl⟩ := List.cons.inj hall
      obtain ⟨middle, h⟩ := Walks.of_append ht hmore h
      exact ⟨middle, .skip hname h⟩
    | back h =>
      subst hr
      obtain ⟨rfl, rfl⟩ := List.cons.inj hall
      obtain ⟨middle, h⟩ := Walks.of_append ht hmore h
      exact ⟨middle, .back h⟩
    | arrive =>
      obtain ⟨-, hnil⟩ := List.cons.inj hall
      exact absurd (List.append_eq_nil_iff.1 hnil).2 hmore
    | enter hname hshort hdir h =>
      subst hr
      obtain ⟨rfl, rfl⟩ := List.cons.inj hall
      obtain ⟨middle, h⟩ := Walks.of_append ht hmore h
      exact ⟨middle, .enter hname hshort hdir h⟩
    | stay _ _ hget => exact absurd hget (ht _ _)
    | follow _ _ hget => exact absurd hget (ht _ _)
    | refuse _ _ hget => exact absurd hget (ht _ _)

end FileTree

namespace Path

variable {p : Path} {name : String}

/-- A path is not too long where one that goes on from it is not. -/
theorem short_of_descend (h : (p.descend [name]).size < pathLimit) : p.size < pathLimit := by
  obtain ⟨anchor, parts⟩ := p
  cases parts with
  | nil => cases anchor <;> decide
  | cons first parts =>
    refine lt_of_le_of_lt ?_ h
    simp only [size, descend, List.cons_append, List.flatMap_cons, List.flatMap_append,
      List.length_cons, List.length_append]
    omega

end Path

namespace Disk

variable {dirs files : Set Location} {d d' U : Disk} {last : Last} {p : Path} {place : Location}
  {name : String} {bytes : ByteArray}

theorem get?_of_isDir (hd : d.Sound) (h : d.isDir p = .ok true) :
    d.tree.get? (p.place d.here) = some .dir := by
  obtain ⟨place, hfind⟩ := isDir_eq_true.1 h
  obtain rfl := (find_ok hd.linkFree hfind).1
  have hwalk := FileTree.walks_iff.2 (find_eq_ok.1 hfind).2
  exact hwalk.get?_dir hd.linkFree hd.closed (hd.start p)

theorem get?_of_read (hd : d.tree.LinkFree) (h : d.read p = .ok bytes) :
    d.tree.get? (p.place d.here) = some (.file bytes) := by
  obtain ⟨place, hfind⟩ := read_eq_ok.1 h
  obtain ⟨rfl, hget⟩ := find_ok hd hfind
  exact (hget.resolve_left (by simp)).symm

theorem isDir_of_descend (ht : d.tree.LinkFree) (h : d.isDir (p.descend [name]) = .ok true) :
    d.isDir p = .ok true := by
  obtain ⟨place, hfind⟩ := isDir_eq_true.1 h
  obtain ⟨⟨hname, hshort⟩, hwalk⟩ := find_eq_ok.1 hfind
  obtain ⟨middle, hmiddle⟩ := (FileTree.walks_iff.2 hwalk).of_append ht (List.cons_ne_nil name [])
  exact isDir_eq_true.2 ⟨middle, find_eq_ok.2
    ⟨⟨Path.isNameable_of_descend hname, Path.short_of_descend hshort⟩, hmiddle.eq⟩⟩

section Questions

variable (hU : U.Sound) (hd : d.Sound) (h : d.Grows dirs files U)

include hU hd h

theorem isDir_below (hdots : ".." ∉ p.parts) (hdir : U.isDir p = .ok true)
    (hget : d.tree.get? (p.place d.here) = some .dir) : d.isDir p = .ok true := by
  obtain ⟨place, hfind⟩ := isDir_eq_true.1 hdir
  obtain ⟨hpath, hwalk⟩ := find_eq_ok.1 hfind
  obtain rfl := (find_ok hU.linkFree hfind).1
  rw [h.here, h.start_eq] at hwalk
  have hbelow := (FileTree.walks_iff.2 hwalk).below_dir hU.linkFree hd.closed hdots hget
  exact isDir_eq_true.2 ⟨_, find_eq_ok.2 ⟨hpath, hbelow.eq⟩⟩

/-- Where the upper disk has a file and the lower one the directory for it, the path leads to where
the file is or can be written. -/
theorem find_below (hdots : ".." ∉ p.parts) (hread : U.read p = .ok bytes)
    (habove : d.tree.get? (p.place d.here).dropLast = some .dir) :
    d.find last p = .ok (p.place d.here, d.tree.get? (p.place d.here)) := by
  have hget := get?_of_read hU.linkFree hread
  obtain ⟨place, hfind⟩ := read_eq_ok.1 hread
  obtain ⟨hpath, hwalk⟩ := find_eq_ok.1 hfind
  obtain rfl := (find_ok hU.linkFree hfind).1
  rw [h.here] at hget
  rw [h.here, h.start_eq] at hwalk
  have hbare : IsBare (d.tree.get? (p.place d.here)) := by
    have hbecomes := h.tree (p.place d.here)
    rw [hget] at hbecomes
    generalize d.tree.get? (p.place d.here) = e at hbecomes
    cases hbecomes with
    | same => exact .file bytes
    | written => exact .none
    | rewritten _ old => exact .file old
  have hbelow :=
    (FileTree.walks_iff.2 hwalk).below_bare hU.linkFree hd.closed hdots hget habove hbare
  exact find_eq_ok.2 ⟨hpath, (hbelow.of_last hd.linkFree).eq⟩

omit hU in
theorem get?_of_read_grown (hp : p.place d.here ∉ files) (hread : U.read p = .ok bytes) :
    d.tree.get? (p.place d.here) = some (.file bytes) := by
  have hbecomes := h.tree (p.place d.here)
  rw [← h.here, get?_of_read (h.tree.linkFree hd.linkFree) hread, h.here] at hbecomes
  generalize d.tree.get? (p.place d.here) = e at hbecomes
  cases hbecomes with
  | same => rfl
  | written hin => exact absurd hin hp
  | rewritten hin => exact absurd hin hp

theorem read_below (hdots : ".." ∉ p.parts) (hp : p.place d.here ∉ files)
    (hread : U.read p = .ok bytes) : d.read p = .ok bytes := by
  have hget := get?_of_read_grown hd h hp hread
  have hthere : d.tree.get? (p.place d.here) ≠ none := by
    rw [hget]
    nofun
  have hfind : d.find .follow p = .ok (p.place d.here, d.tree.get? (p.place d.here)) :=
    find_below hU hd h hdots hread (hd.closed.dropLast hthere)
  rw [hget] at hfind
  exact read_eq_ok.2 ⟨_, hfind⟩

omit hU in
/-- What can be asked above can be asked below. -/
theorem lookup?_below {e : Option Entry} (hentry : U.lookup? p = .ok e) :
    ∃ e', d.lookup? p = .ok e' := by
  cases hbelow : d.lookup? p with
  | ok e' => exact ⟨e', rfl⟩
  | error f =>
    obtain ⟨hname, hwalk⟩ := walk_of_fault hbelow
    rcases lookup?_eq_ok hentry with hunnameable | ⟨hpath, hshort⟩
    · rw [hname] at hunnameable
      contradiction
    · have hlong := FileTree.walks_iff.2 (hwalk hpath.2)
      rw [h.start_eq] at hshort
      exact absurd (hlong.tooLong_grows hd.linkFree h.tree).eq hshort

theorem isFile_below (hdots : ".." ∉ p.parts) (hp : p.place d.here ∉ files) {isFile : Bool}
    (hfile : U.isFile p = .ok isFile) : d.isFile p = .ok isFile := by
  cases isFile with
  | true =>
    obtain ⟨place, bytes, hfind⟩ := isFile_eq_true.1 hfile
    have hread := read_below hU hd h hdots hp (read_eq_ok.2 ⟨place, hfind⟩)
    obtain ⟨place, hfind⟩ := read_eq_ok.1 hread
    exact isFile_eq_true.2 ⟨place, bytes, hfind⟩
  | false =>
    cases hbelow : d.isFile p with
    | ok found =>
      cases found with
      | false => rfl
      | true =>
        rw [isFile_grown hd.linkFree h hbelow] at hfile
        contradiction
    | error f =>
      obtain ⟨e, hentry, -⟩ := lookup?_of_leadsTo hfile
      obtain ⟨e', hentry'⟩ := lookup?_below hd h hentry
      rw [lookup?_of_leadsTo_error hbelow] at hentry'
      contradiction

omit hU in
/-- In a directory that is there already, a file that is not written was there before. -/
theorem isFile_of_isDir (hplain : IsPlain name) (hshort : Text.nameSize name ≤ nameLimit)
    (hdir : d.isDir p = .ok true) (hp : p.place d.here ++ [name] ∉ files)
    (hfile : U.isFile (p.descend [name]) = .ok true) : d.isFile (p.descend [name]) = .ok true := by
  obtain ⟨middle, hmiddle⟩ := isDir_eq_true.1 hdir
  obtain rfl := (find_ok hd.linkFree hmiddle).1
  obtain ⟨place, bytes, hfind⟩ := isFile_eq_true.1 hfile
  obtain ⟨hpath, -⟩ := find_eq_ok.1 hfind
  have hplace : (p.descend [name]).place d.here = p.place d.here ++ [name] :=
    Path.place_descend (List.forall_mem_singleton.2 hplain)
  have hget : d.tree.get? (p.place d.here ++ [name]) = some (.file bytes) := by
    rw [← hplace] at hp ⊢
    exact get?_of_read_grown hd h hp (read_eq_ok.2 ⟨place, hfind⟩)
  have hthere : FileTree.Walks d.tree .follow linkLimit (d.start p) p.parts
      (.ok (p.place d.here, some .dir)) :=
    FileTree.walks_iff.2 (find_eq_ok.1 hmiddle).2
  have hend := hthere.append hd.linkFree (.arrive hplain (not_lt.2 hshort) hget (.file bytes))
  exact isFile_eq_true.2 ⟨_, bytes, find_eq_ok.2 ⟨hpath, hend.eq⟩⟩

/-- A directory in which nothing is missing lists the same. -/
theorem names_below {names : List String} (hdir : d.isDir p = .ok true)
    (hnames : U.names p = .ok names)
    (hmissing : ∀ name, d.tree.get? (p.place d.here ++ [name]) = none →
      U.tree.get? (p.place d.here ++ [name]) = none) : d.names p = .ok names := by
  obtain ⟨place, hfind⟩ := isDir_eq_true.1 hdir
  obtain ⟨place', hfind', hchildren⟩ := names_eq_ok.1 hnames
  obtain rfl := (find_ok hd.linkFree hfind).1
  obtain rfl := (find_ok hU.linkFree hfind').1
  refine names_eq_ok.2 ⟨_, hfind, ?_⟩
  rw [← hchildren, h.here]
  refine FileTree.children_congr fun name => ⟨hmissing name, fun hnone => ?_⟩
  by_contra hsome
  exact (h.tree _).ne_none hsome hnone

omit hU in
theorem isDir_listed_below {names : List String} (hnames : d.names p = .ok names)
    (hname : name ∈ names) {isDir : Bool} (hdir : U.isDir (p.descend [name]) = .ok isDir) :
    d.isDir (p.descend [name]) = .ok isDir := by
  obtain ⟨e, hentry, -⟩ := lookup?_of_leadsTo hdir
  obtain ⟨e', hentry'⟩ := lookup?_below hd h hentry
  cases hbelow : d.isDir (p.descend [name]) with
  | ok found =>
    have hgrown := isDir_listed_grown hd.linkFree h hnames hname hbelow
    exact hgrown.symm.trans hdir
  | error f =>
    rw [lookup?_of_leadsTo_error hbelow] at hentry'
    contradiction

end Questions

end Disk

end SetupScript
