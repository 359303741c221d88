import Mathlib.Data.List.Find
import SetupScript.Proofs.Build.Rebuild
import SetupScript.Proofs.Files.Filling

/-!
# Which libraries are staged

The search for the libraries gives for each name the first path below the searched directories that
leads to a file (`Staging.firstFile?`). Staging copies exactly these
(`Staging.stageLibraries_copies`). No library is where another one is copied to, since they differ
in name, so by induction on the copies each has in the end the bytes that its source had in the
beginning (`Staging.copyAll_copied`).
-/

namespace SetupScript

/-! ## Files and where they lead -/

namespace Disk

variable {dirs : Set Location} {d U : Disk} {p : Path} {name : String}

/-- Whether there is a file at the end of a path. -/
def leadsToFile (d : Disk) (p : Path) : Bool :=
  match d.entry p with
  | .ok (_, .file _) => true
  | _ => false

theorem leadsToFile_iff : d.leadsToFile p = true ↔ d.isFile p = .ok true := by
  rw [isFile_eq_true]
  simp only [← entry_eq_ok]
  unfold leadsToFile
  split
  · rename_i place bytes hentry
    exact iff_of_true rfl ⟨place, bytes, hentry⟩
  · rename_i hnot
    exact iff_of_false Bool.false_ne_true fun ⟨place, bytes, hentry⟩ => hnot place bytes hentry

theorem not_leadsToFile_of_isDir (h : d.isDir p = .ok true) : d.leadsToFile p = false := by
  obtain ⟨place, hfind⟩ := isDir_eq_true.1 h
  rw [leadsToFile, entry_eq_ok.2 hfind]

end Disk

namespace Staging

variable {here : Location} {d : Disk} {s s' : Session} {logger name : String}
  {dir target : Path} {dirs sources copies : List Path} {names : List String} {log : Set Location}

/-! ## The search -/

/-- The first path to a file of that name. -/
def firstFile? (d : Disk) (dirs : List Path) (name : String) : Option Path :=
  (dirs.map (·.child name)).find? d.leadsToFile

theorem eq_firstFile?_of_findIn {found : Option Path} : ∀ {dirs : List Path},
    findIn d name dirs = .ok found → found = firstFile? d dirs name
  | [], h => (Except.ok.inj h).symm
  | dir :: dirs, h => by
    rw [firstFile?, List.map_cons, List.find?_cons]
    rcases findIn_eq_ok.1 h with ⟨hfile, rfl⟩ | ⟨hfile, hrest⟩
    · rw [Disk.leadsToFile_iff.2 hfile]
    · have hnot : d.leadsToFile (dir.child name) = false := by
        rw [Bool.eq_false_iff, ne_eq, Disk.leadsToFile_iff, hfile]
        nofun
      rw [hnot]
      exact eq_firstFile?_of_findIn hrest

theorem findIn_of_answers : ∀ {dirs : List Path},
    (∀ dir ∈ dirs, ∃ isFile, d.isFile (dir.child name) = .ok isFile) →
      findIn d name dirs = .ok (firstFile? d dirs name)
  | [], _ => rfl
  | dir :: dirs, h => by
    obtain ⟨⟨isFile, hfile⟩, hrest⟩ := List.forall_mem_cons.1 h
    have ih := findIn_of_answers hrest
    cases isFile with
    | true =>
      have hfound : findIn d name (dir :: dirs) = .ok (some (dir.child name)) :=
        findIn_eq_ok.2 (.inl ⟨hfile, rfl⟩)
      rw [hfound, ← eq_firstFile?_of_findIn hfound]
    | false =>
      have hfound : findIn d name (dir :: dirs) = .ok (firstFile? d dirs name) :=
        findIn_eq_ok.2 (.inr ⟨hfile, ih⟩)
      rw [hfound, ← eq_firstFile?_of_findIn hfound]

theorem eq_filterMap_of_findLibraries : ∀ {names : List String} {paths : List Path},
    findLibraries dirs d names = .ok paths → paths = names.filterMap (firstFile? d dirs)
  | [], _, h => (Except.ok.inj h).symm
  | name :: names, paths, h => by
    obtain ⟨found, others, hfound, hothers, rfl⟩ := findLibraries_eq_ok.1 h
    rw [List.filterMap_cons, ← eq_firstFile?_of_findIn hfound,
      eq_filterMap_of_findLibraries hothers]
    cases found with
    | none => rfl
    | some p => rfl

theorem findLibraries_of_answers : ∀ {names : List String},
    (∀ name ∈ names, ∀ dir ∈ dirs, ∃ isFile, d.isFile (dir.child name) = .ok isFile) →
      findLibraries dirs d names = .ok (names.filterMap (firstFile? d dirs))
  | [], _ => rfl
  | name :: names, h => by
    obtain ⟨hname, hrest⟩ := List.forall_mem_cons.1 h
    have hfound : findLibraries dirs d (name :: names) =
        .ok ((firstFile? d dirs name).toList ++ names.filterMap (firstFile? d dirs)) :=
      findLibraries_eq_ok.2
        ⟨_, _, findIn_of_answers hname, findLibraries_of_answers hrest, rfl⟩
    rw [hfound, ← eq_filterMap_of_findLibraries hfound]

/-- Below a directory that is there, or whose path has no double dots, nothing is found that was not
there before. -/
theorem firstFile?_grown {made : Disk} {places : Set Location} (hd : d.Sound) (hmade : made.Sound)
    (h : d.Grows places ∅ made) (hname : name ∈ libraryNames)
    (hdirs : ∀ dir ∈ dirs, d.isDir dir = .ok true ∨ ".." ∉ dir.parts) :
    firstFile? made dirs name = firstFile? d dirs name := by
  have hplain := isPlain_of_mem_libraryNames name hname
  have hsame : ∀ dir ∈ dirs,
      made.leadsToFile (dir.child name) = d.leadsToFile (dir.child name) := by
    intro dir hdir
    rw [Bool.eq_iff_iff, Disk.leadsToFile_iff, Disk.leadsToFile_iff]
    refine ⟨fun hfile => ?_, Disk.isFile_grown hd.linkFree h⟩
    rw [child_eq_of_mem_libraryNames hname] at hfile ⊢
    rcases hdirs dir hdir with hthere | hdots
    · exact Disk.isFile_of_isDir hd h hplain (nameSize_of_mem_libraryNames name hname) hthere
        (Set.notMem_empty _) hfile
    · refine Disk.isFile_below hmade hd h ?_ (Set.notMem_empty _) hfile
      rw [Path.descend, List.mem_append, List.mem_singleton, not_or]
      exact ⟨hdots, hplain.2.2.symm⟩
  rw [firstFile?, firstFile?]
  exact List.find?_congr (List.forall_mem_map.2 hsame)

/-- A library keeps its name where it is found. -/
theorem named_of_firstFile? (here : Location) {p : Path} (hname : name ∈ libraryNames)
    (h : firstFile? d dirs name = some p) :
    p.name = name ∧ ∃ above, p.place here = above ++ [name] := by
  obtain ⟨dir, -, rfl⟩ := List.mem_map.1 (List.mem_of_find?_eq_some h)
  refine ⟨?_, dir.place here, place_child hname⟩
  rw [child_eq_of_mem_libraryNames hname]
  simp [Path.name, Path.descend]

/-! ## The copies -/

/-- The path that a file of that name is copied to. -/
def copyPath (here : Location) (target : Path) (name : String) : Path :=
  (target.descend [name]).absolute here

theorem place_copyPath (here : Location) (target : Path) (hname : IsPlain name) :
    (copyPath here target name).place here = (target.absolute here).place here ++ [name] := by
  rw [copyPath, Path.descend_absolute, Path.place_descend (List.forall_mem_singleton.2 hname)]

theorem copyPlace_eq_place {source : Path} :
    copyPlace here target source = (copyPath here target source.name).place here := rfl

/-- The bytes that a file had are still there, and those of its copy as well. -/
def Copied (d : Disk) (source copied : Path) (d' : Disk) : Prop :=
  ∃ bytes, d.tree.fileAt? (source.place d.here) = some bytes ∧ d'.read source = .ok bytes ∧
    d'.read copied = .ok bytes

section Copied

variable {places files later : Set Location} {d₁ d' : Disk} {source copied : Path}

theorem Copied.of_copy (ht : d.tree.LinkFree) (h : DiskWork.copy source copied d = (.ok (), d₁))
    (hall : d.Grows places files d') (hsource : source.place d.here ∉ files)
    (hlater : d₁.Grows places later d') (hcopied : copied.place d.here ∉ later) :
    Copied d source copied d' := by
  obtain ⟨-, -, bytes, hread, hwrite⟩ := DiskWork.copy_eq_ok.1 h
  have hwritten : d.Grows ∅ {copied.place d.here} d₁ :=
    (Disk.writeFile_grows ht hwrite (Set.mem_singleton _)).1
  have hbytes : d.tree.fileAt? (source.place d.here) = some bytes := by
    rw [FileTree.fileAt?, Disk.get?_of_read ht hread]
    rfl
  refine ⟨bytes, hbytes, Disk.read_grown ht hall hsource hread, ?_⟩
  refine Disk.read_grown (hwritten.tree.linkFree ht) hlater ?_ (Disk.read_writeFile hwrite)
  rwa [hwritten.here]

theorem Copied.of_grows (h : Copied d₁ source copied d') (hgrows : d.Grows places files d₁)
    (hsource : source.place d.here ∉ files) : Copied d source copied d' := by
  obtain ⟨bytes, hbytes, hkept⟩ := h
  rw [hgrows.here, hgrows.tree.fileAt?_eq hsource] at hbytes
  exact ⟨bytes, hbytes, hkept⟩

end Copied

/-- Neither of two files is where the other is copied to, and the copies are different files. -/
structure Clear (here : Location) (target p q : Path) : Prop where
  left : p.place here ≠ copyPlace here target q
  right : q.place here ≠ copyPlace here target p
  copies : copyPlace here target p ≠ copyPlace here target q

/-- Where files are copied to. -/
def copyTargets (here : Location) (target : Path) (sources : List Path) : Set Location :=
  {place | ∃ p ∈ sources, place = copyPlace here target p}

theorem copyAll_grown (hs : s.Ready here log)
    (h : copyAll logger target sources s = (.ok copies, s')) :
    s.Grows ∅ (copyTargets here target sources ∪ log) s' := by
  have hready : s.Ready here (copyTargets here target sources ∪ log) :=
    ⟨hs.here, hs.linkFree, hs.log.trans Set.subset_union_right⟩
  have hkeeps : Keeps (Session.Grows ∅ (copyTargets here target sources ∪ log))
      (copyAll logger target sources) s :=
    copyAll_grows hready fun p hp => .inl ⟨p, hp, rfl⟩
  exact hkeeps.along h

theorem copyAll_steps {source : Path} (h : copyAll logger target (source :: sources) s =
    (.ok copies, s')) : ∃ (s₁ : Session) (r : Record) (others : List Path),
      DiskWork.copy source (copyPath s.disk.here target source.name) s.disk = (.ok (), s₁.disk) ∧
      s₁.sink = s.sink ∧ copyAll logger target sources (s₁.note r) = (.ok others, s') ∧
      copies = copyPath s.disk.here target source.name :: others := by
  rw [copyAll, Work.bind_of_ok (Work.get_eq s)] at h
  obtain ⟨_, s₁, hcopy, hlater⟩ := bind_run_eq_ok.1 h
  obtain ⟨_, _, hnote, hrest⟩ := bind_run_eq_ok.1 hlater
  obtain ⟨-, rfl⟩ := Prod.mk.inj hnote
  obtain ⟨others, _, hothers, hend⟩ := bind_run_eq_ok.1 hrest
  obtain ⟨hcopies, rfl⟩ := Prod.mk.inj hend
  obtain ⟨hcopy, hsink⟩ := Work.onDisk_eq_ok hcopy
  exact ⟨s₁, _, others, hcopy, hsink, hothers, (Except.ok.inj hcopies).symm⟩

/-- Files of which none is where another is copied to are copied as they were. -/
theorem copyAll_copied : ∀ {sources copies : List Path} {s : Session}, s.Ready here log →
    sources.Pairwise (Clear here target) →
    copyAll logger target sources s = (.ok copies, s') →
      (copies = sources.map fun p => copyPath here target p.name) ∧
      ∀ p ∈ sources, p.place here ∉ log → copyPlace here target p ∉ log →
        Copied s.disk p (copyPath here target p.name) s'.disk
  | [], _, s, _, _, h => by
    obtain rfl := Except.ok.inj (congrArg Prod.fst h)
    simp
  | source :: sources, copies, s, hs, hclear, h => by
    obtain ⟨hfirst, hrest⟩ := List.pairwise_cons.1 hclear
    have hall := copyAll_grown hs h
    obtain ⟨s₁, r, others, hcopy, hsink, hothers, rfl⟩ := copyAll_steps h
    have hne := DiskWork.place_ne_of_copy hs.linkFree hcopy
    have hwrites : Keeps (Disk.Grows ∅ {copyPlace s.disk.here target source})
        (DiskWork.copy source (copyPath s.disk.here target source.name)) s.disk :=
      DiskWork.copy_grows hs.linkFree (Set.mem_singleton _)
    have hwritten : s.Grows ∅ {copyPlace s.disk.here target source} s₁ :=
      ⟨hsink, hwrites.along hcopy⟩
    have hs₁ : s₁.Ready here log := ⟨hwritten.disk.here.trans hs.here,
      hwritten.disk.tree.linkFree hs.linkFree, hwritten.logPlaces ▸ hs.log⟩
    have hnoted : s₁.Grows ∅ log (s₁.note r) := Session.note_grows hs₁ r
    obtain ⟨rfl, hcopied⟩ := copyAll_copied (hnoted.ready hs₁) hrest hothers
    have hafter : s₁.Grows ∅ (copyTargets here target sources ∪ log) s' :=
      trans_of _ (hnoted.mono subset_rfl Set.subset_union_right)
        (copyAll_grown (hnoted.ready hs₁) hothers)
    rw [hs.here] at hcopy hne hwritten ⊢
    refine ⟨rfl, List.forall_mem_cons.2 ⟨fun hsource htarget => ?_, fun p hp hplace hnot => ?_⟩⟩
    · refine .of_copy hs.linkFree hcopy hall.disk ?_ hafter.disk ?_
      · rw [hs.here]
        rintro (⟨q, hq, heq⟩ | hin)
        · rcases List.mem_cons.1 hq with rfl | hq
          · exact hne heq
          · exact (hfirst q hq).left heq
        · exact hsource hin
      · rw [hs.here]
        rintro (⟨q, hq, heq⟩ | hin)
        · exact (hfirst q hq).copies heq
        · exact htarget hin
    · have hkept : Copied s₁.disk p (copyPath here target p.name) s'.disk :=
        (hcopied p hp hplace hnot).of_grows hnoted.disk (hs₁.here.symm ▸ hplace)
      exact hkept.of_grows hwritten.disk (hs.here.symm ▸ (hfirst p hp).right)

theorem clear_of_firstFile? {a b : String} {p q : Path} (ha : a ∈ libraryNames)
    (hb : b ∈ libraryNames) (hab : a ≠ b) (hp : firstFile? d dirs a = some p)
    (hq : firstFile? d dirs b = some q) : Clear here target p q := by
  obtain ⟨hname, above, hplace⟩ := named_of_firstFile? here ha hp
  obtain ⟨hname', above', hplace'⟩ := named_of_firstFile? here hb hq
  have hcopy := place_copyPath here target (isPlain_of_mem_libraryNames a ha)
  have hcopy' := place_copyPath here target (isPlain_of_mem_libraryNames b hb)
  constructor <;>
    simp [copyPlace_eq_place, hname, hname', hplace, hplace', hcopy, hcopy', hab, hab.symm]

/-! ## Staging -/

/-- What staging that succeeds leaves behind. The target is made first, and on that disk the
libraries are looked for. This finds the same as before, unless a directory was missing and its path
has double dots. -/
structure Stages (dirs : List Path) (target : Path) (s : Session) (copies : List Path)
    (s' : Session) (made : Disk) : Prop where
  makes : DiskWork.ensureDirs target s.disk = (.ok (), made)
  finds : (∀ dir ∈ dirs, s.disk.isDir dir = .ok true ∨ ".." ∉ dir.parts) →
    ∀ name ∈ libraryNames, firstFile? made dirs name = firstFile? s.disk dirs name
  lists : copies = libraryNames.filterMap fun name =>
    (firstFile? made dirs name).map fun _ => copyPath s.disk.here target name
  copied : ∀ name ∈ libraryNames, ∀ source, firstFile? made dirs name = some source →
    source.place s.disk.here ∉ s.logPlaces →
      (copyPath s.disk.here target name).place s.disk.here ∉ s.logPlaces →
        Copied s.disk source (copyPath s.disk.here target name) s'.disk
  keeps : ∀ place ∉ s.logPlaces, (∀ p ∈ copies, place ≠ p.place s.disk.here) →
    s'.disk.tree.fileAt? place = s.disk.tree.fileAt? place

theorem stages_of_stageLibraries (hd : s.disk.Sound)
    (h : stageLibraries logger dirs target s = (.ok copies, s')) :
    ∃ made, Stages dirs target s copies s' made := by
  unfold stageLibraries at h
  obtain ⟨_, _, hmade, hlater⟩ := bind_run_eq_ok.1 h
  obtain ⟨sources, s₁, hask, hcopies⟩ := bind_run_eq_ok.1 hlater
  obtain ⟨hmade, hsink⟩ := Work.onDisk_eq_ok hmade
  obtain ⟨hfound, rfl⟩ := Work.ask_eq_ok hask
  obtain rfl := eq_filterMap_of_findLibraries hfound
  obtain ⟨⟨hsound, hmakes, -⟩, -⟩ := DiskWork.ensureDirs_eq_ok hd hmade
  have hgrows : s.Grows (target.placesUp s.disk.here) ∅ s₁ := ⟨hsink, hmakes⟩
  have hs₁ : s₁.Ready s.disk.here s.logPlaces :=
    ⟨hmakes.here, hsound.linkFree, hgrows.logPlaces.subset⟩
  have hclear : (libraryNames.filterMap (firstFile? s₁.disk dirs)).Pairwise
      (Clear s.disk.here target) := by
    have hnodup : libraryNames.Nodup := by decide
    refine List.pairwise_filterMap.2 (hnodup.pairwise_of_forall_ne ?_)
    exact fun a ha b hb hab p hp q hq => clear_of_firstFile? ha hb hab hp hq
  have hgrown := copyAll_grown hs₁ hcopies
  obtain ⟨rfl, hcopied⟩ := copyAll_copied hs₁ hclear hcopies
  have hnamed : ∀ name ∈ libraryNames, ∀ source, firstFile? s₁.disk dirs name = some source →
      source.name = name := fun name hname source hsource =>
    (named_of_firstFile? s.disk.here hname hsource).1
  refine ⟨s₁.disk, hmade, fun hdirs name hname => ?_, ?_, fun name hname source hsource => ?_, ?_⟩
  · exact firstFile?_grown hd hsound hmakes hname hdirs
  · rw [List.map_filterMap]
    refine List.filterMap_congr fun name hname => Option.map_congr fun source hsource => ?_
    rw [hnamed name hname source hsource]
  · have hmem : source ∈ libraryNames.filterMap (firstFile? s₁.disk dirs) :=
      List.mem_filterMap.2 ⟨name, hname, hsource⟩
    intro hplace htarget
    have hcopy := hcopied source hmem hplace
    rw [copyPlace_eq_place, hnamed name hname source hsource] at hcopy
    exact (hcopy htarget).of_grows hmakes (Set.notMem_empty _)
  · intro place hlog hother
    rw [hgrown.disk.tree.fileAt?_eq, hmakes.tree.fileAt?_eq (Set.notMem_empty _)]
    rintro (⟨source, hsource, rfl⟩ | hin)
    · exact hother _ (List.mem_map_of_mem hsource) rfl
    · exact hlog hin

/-- The search gives for each name the first path that leads to a file, where a directory of the
name is passed over. Staging that succeeds copies exactly what is found and changes no other
file. -/
theorem stageLibraries_copies (dirs : List Path) :
    (∀ (d : Disk) (names : List String),
      (∀ name ∈ names, ∀ dir ∈ dirs, ∃ isFile, d.isFile (dir.child name) = .ok isFile) →
        findLibraries dirs d names = .ok (names.filterMap (firstFile? d dirs))) ∧
      (∀ (d : Disk) (dir : Path) (name : String), d.isDir (dir.child name) = .ok true →
        firstFile? d (dir :: dirs) name = firstFile? d dirs name) ∧
      ∀ (logger : String) (target : Path) (s s' : Session) (copies : List Path), s.disk.Sound →
        stageLibraries logger dirs target s = (.ok copies, s') →
          ∃ made, Stages dirs target s copies s' made := by
  refine ⟨fun d names => findLibraries_of_answers, fun d dir name hdir => ?_, ?_⟩
  · rw [firstFile?, List.map_cons, List.find?_cons, Disk.not_leadsToFile_of_isDir hdir, firstFile?]
  · exact fun logger target s s' copies hd h => stages_of_stageLibraries hd h

theorem stageLibraries_copies_stocked :
    findLibraries [⟨.root, ["app"]⟩, ⟨.root, ["sys"]⟩] Builder.stockedSession.disk libraryNames =
        .ok [⟨.root, ["sys", "msvcp140.dll"]⟩] ∧
      ∃ s', stageLibraries "log" [⟨.root, ["app"]⟩, ⟨.root, ["sys"]⟩] ⟨.root, ["out"]⟩
          Builder.stockedSession = (.ok [⟨.root, ["out", "msvcp140.dll"]⟩], s') ∧
        s'.disk.read ⟨.root, ["out", "msvcp140.dll"]⟩ = .ok ⟨#[77, 90]⟩ := by
  let dirs : List Path := [⟨.root, ["app"]⟩, ⟨.root, ["sys"]⟩]
  obtain ⟨hsearch, -, hstage⟩ := stageLibraries_copies dirs
  have hsome : ∀ name ∈ libraryNames, ∀ dir ∈ dirs,
      (Builder.stockedSession.disk.isFile (dir.child name)).toOption.isSome = true := by
    decide +kernel
  have hfirst : ∀ name ∈ libraryNames, firstFile? Builder.stockedSession.disk dirs name =
      if name = "msvcp140.dll" then some ⟨.root, ["sys", "msvcp140.dll"]⟩ else none := by
    decide +kernel
  have hfound : findLibraries dirs Builder.stockedSession.disk libraryNames =
      .ok [⟨.root, ["sys", "msvcp140.dll"]⟩] := by
    rw [hsearch _ libraryNames fun name hname dir hdir => ?_, List.filterMap_congr hfirst]
    · rfl
    · obtain ⟨isFile, hfile⟩ := Option.isSome_iff_exists.1 (hsome name hname dir hdir)
      exact ⟨isFile, toOption_eq_some.1 hfile⟩
  refine ⟨hfound, ?_⟩
  have hok : (stageLibraries "log" dirs ⟨.root, ["out"]⟩
      Builder.stockedSession).1.toOption.isSome = true := by
    decide +kernel
  cases hrun : stageLibraries "log" dirs ⟨.root, ["out"]⟩ Builder.stockedSession with
  | mk outcome s' =>
    rw [hrun] at hok
    cases outcome with
    | error f => contradiction
    | ok copies =>
      obtain ⟨made, hs⟩ := hstage "log" _ _ s' copies Builder.sound_stockedSession hrun
      have hquiet := (Builder.quiet_begin Builder.stockedSession.disk ⟨.root, []⟩
        "now").notMem_logPlaces
      have hmade : ∀ name ∈ libraryNames, firstFile? made dirs name =
          if name = "msvcp140.dll" then some ⟨.root, ["sys", "msvcp140.dll"]⟩ else none :=
        fun name hname => (hs.finds (by decide +kernel) name hname).trans (hfirst name hname)
      have hcopies : copies = [⟨.root, ["out", "msvcp140.dll"]⟩] := by
        rw [hs.lists, List.filterMap_congr fun name hname => by rw [hmade name hname]]
        rfl
      obtain ⟨bytes, hbytes, -, hread⟩ :=
        hs.copied "msvcp140.dll" (by decide) _ (hmade _ (by decide)) (hquiet _) (hquiet _)
      obtain rfl : (⟨#[77, 90]⟩ : ByteArray) = bytes := Option.some.inj hbytes
      exact ⟨s', by rw [hcopies], hread⟩

end Staging

end SetupScript
