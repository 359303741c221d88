import SetupScript.Proofs.Build.Steps

/-!
# What remains of a build

A build that has succeeded leaves a disk on which everything that it made is there, and on which its
questions have the answers that it got (`Builder.Stands`, `Builder.Makes.stands`). This outlasts
changes elsewhere (`Builder.Stands.grown`). And on every disk below one where a build stands, which
may lack what it makes but nothing that it reads, the build succeeds in the same way and makes what
is missing of it (`Builder.Stands.makes`).
-/

namespace SetupScript

variable {here : Location} {d d' D U : Disk} {dirs files : Set Location}

namespace Staging

variable {target : Path} {paths : List Path}

/-- Where files are copied to. -/
def copyPlaces (here : Location) (target : Path) (paths : List Path) : Set Location :=
  {place | ∃ p ∈ paths, place = target.place here ++ [p.name]}

theorem place_copy {p : Path} (hplain : IsPlain p.name) :
    (target.descend [p.name]).place here = target.place here ++ [p.name] :=
  Path.place_descend (List.forall_mem_singleton.2 hplain)

theorem copyPlaces_subset_cons {p : Path} :
    copyPlaces here target paths ⊆ copyPlaces here target (p :: paths) := by
  rintro _ ⟨q, hq, rfl⟩
  exact ⟨q, List.mem_cons_of_mem _ hq, rfl⟩

theorem Copies.turns (hd : d.Sound) (hhere : d.here = here) (hplain : ∀ p ∈ paths, IsPlain p.name)
    (h : Copies target paths d d') : d.Turns ∅ (copyPlaces here target paths) d' := by
  induction h with
  | done => exact hd.turns
  | @copied source sources d d₁ d' h hrest ih =>
    obtain ⟨hsource, hplain⟩ := List.forall_mem_cons.1 hplain
    obtain ⟨hturns, -⟩ := DiskWork.copy_turns hd h
    have hrest := ih hturns.sound (hturns.grows.here.trans hhere) hplain
    refine (hturns.mono subset_rfl ?_).trans (hrest.mono subset_rfl copyPlaces_subset_cons)
    rintro _ rfl
    rw [hhere, place_copy hsource]
    exact ⟨source, List.mem_cons_self, rfl⟩

/-- Copies of different names are left as they were made, and so is what was copied. -/
theorem Copies.reads (hd : d.Sound) (hhere : d.here = here) (hplain : ∀ p ∈ paths, IsPlain p.name)
    (hnodup : (paths.map Path.name).Nodup)
    (hapart : ∀ p ∈ paths, p.place here ∉ copyPlaces here target paths)
    (h : Copies target paths d d') : ∀ p ∈ paths, ∃ bytes, d'.read p = .ok bytes ∧
      d'.read (target.descend [p.name]) = .ok bytes := by
  induction h with
  | done => simp
  | @copied source sources d d₁ d' h hrest ih =>
    obtain ⟨hsource, hplain'⟩ := List.forall_mem_cons.1 hplain
    obtain ⟨hother, hnodup⟩ := List.nodup_cons.1 hnodup
    obtain ⟨hapartHere, hapart'⟩ := List.forall_mem_cons.1 hapart
    obtain ⟨hturns, bytes, hread, hcopied⟩ := DiskWork.copy_turns hd h
    have hhere₁ := hturns.grows.here.trans hhere
    have hlater := hrest.turns hturns.sound hhere₁ hplain'
    have hall := (Copies.copied h hrest).turns hd hhere hplain
    refine List.forall_mem_cons.2 ⟨⟨bytes, ?_, ?_⟩, ?_⟩
    · exact Disk.read_grown hd.linkFree hall.grows (hhere.symm ▸ hapartHere) hread
    · refine Disk.read_grown hturns.sound.linkFree hlater.grows ?_ hcopied
      rw [hhere₁, place_copy hsource]
      rintro ⟨q, hq, heq⟩
      obtain ⟨-, hname⟩ := List.append_singleton_inj.1 heq
      exact hother (hname ▸ List.mem_map_of_mem hq)
    · exact ih hturns.sound hhere₁ hplain' hnodup fun p hp hin =>
        hapart' p hp (copyPlaces_subset_cons hin)

/-- What a disk has with its copies can be copied below it. -/
theorem copies_below (hU : U.Sound) (hhere : U.here = here) (htarget : ".." ∉ target.parts) :
    ∀ {paths : List Path} {d : Disk} {files : Set Location}, d.Sound → d.Grows dirs files U →
      (∀ p ∈ paths, IsPlain p.name ∧ ".." ∉ p.parts ∧ p.place here ∉ files ∧
        p.place here ≠ target.place here ++ [p.name]) →
      (∀ p ∈ paths, ∃ bytes, U.read p = .ok bytes ∧ U.read (target.descend [p.name]) = .ok bytes) →
      d.tree.get? (target.place here) = some .dir →
        ∃ d', Copies target paths d d' ∧ d'.Grows dirs (files \ copyPlaces here target paths) U
  | [], d, files, _, h, _, _, _ => by
    refine ⟨d, .done, h.mono subset_rfl fun place hin => ⟨hin, ?_⟩⟩
    rintro ⟨p, hp, -⟩
    exact absurd hp List.not_mem_nil
  | source :: sources, d, files, hd, h, hpaths, hreads, hdir => by
    obtain ⟨⟨hplain, hdots, hkept, hne⟩, hpaths⟩ := List.forall_mem_cons.1 hpaths
    obtain ⟨⟨bytes, hread, hcopied⟩, hreads⟩ := List.forall_mem_cons.1 hreads
    have hhere' : d.here = here := h.here.symm.trans hhere
    have hplace : (target.descend [source.name]).place d.here =
        target.place here ++ [source.name] := by
      rw [hhere', place_copy hplain]
    have hcopyDots : ".." ∉ (target.descend [source.name]).parts := by
      rw [Path.descend, List.mem_append, not_or]
      exact ⟨htarget, fun hin => hplain.2.2 (List.mem_singleton.1 hin).symm⟩
    obtain ⟨d₁, hcopy, h₁⟩ := DiskWork.copy_below hU hd h hdots hcopyDots
      (by rwa [hhere']) (by rwa [hplace, hhere']) hread hcopied
      (by rwa [hplace, List.dropLast_concat])
    rw [hplace] at h₁
    obtain ⟨hturns, -⟩ := DiskWork.copy_turns hd hcopy
    obtain ⟨d₂, hcopies, h₂⟩ := copies_below hU hhere htarget hturns.sound h₁
      (fun p hp => by
        obtain ⟨hplain, hdots, hkept, hne⟩ := hpaths p hp
        exact ⟨hplain, hdots, fun hin => hkept hin.1, hne⟩) hreads
      (hturns.grows.tree.get?_dir hdir)
    refine ⟨d₂, .copied hcopy hcopies, h₂.mono subset_rfl ?_⟩
    rintro place ⟨⟨hin, hother⟩, hnot⟩
    refine ⟨hin, ?_⟩
    rintro ⟨p, hp, rfl⟩
    rcases List.mem_cons.1 hp with rfl | hp
    · exact hother rfl
    · exact hnot ⟨p, hp, rfl⟩

section Search

variable {systemDirs : List Path} {name : String}

theorem findIn_below (hU : U.Sound) (hd : d.Sound) (h : d.Grows dirs files U)
    (hkept : ∀ dir ∈ systemDirs, ".." ∉ (dir.child name).parts ∧
      (dir.child name).place d.here ∉ files) {found : Option Path}
    (hfound : findIn U name systemDirs = .ok found) : findIn d name systemDirs = .ok found := by
  have hsame : ∀ dir ∈ systemDirs, ∀ isFile, U.isFile (dir.child name) = .ok isFile →
      d.isFile (dir.child name) = .ok isFile := fun dir hdir _ hfile =>
    Disk.isFile_below hU hd h (hkept dir hdir).1 (hkept dir hdir).2 hfile
  exact findIn_grown (fun dir hdir => hsame dir hdir true)
    (fun dir hreaches => hsame dir hreaches.mem false) hfound

end Search

end Staging

namespace Builder

open Staging

variable {b : Builder} {paths : List Path} {entries : List AppEntry}

/-- Nothing is staged below the application's directory either, and no double dots stand in a
directory at all. -/
structure Secluded (b : Builder) (here : Location) : Prop extends b.Apart here where
  appDots : ".." ∉ b.appDir.parts
  stagingDots : ".." ∉ (b.stagingDir here).parts
  stagingDir : ¬ b.appDir.place here <+: (b.stagingDir here).place here

/-- Where the icon is written, if it is staged at all. -/
def iconPlaces (b : Builder) (here : Location) : Set Location :=
  {place | b.config.usesDefaultIcon = true ∧ place = (b.iconPath here).place here}

/-- The files that a build writes when it finds some libraries. -/
def ownFiles (b : Builder) (here : Location) (paths : List Path) : Set Location :=
  {place | place ∈ b.iconPlaces here ∨ place ∈ copyPlaces here (b.variantDir here) paths ∨
    place = b.scriptPlace here}

/-- Changes leave alone what a build reads: the libraries where it looks for them, and the
application's build, to which it may add libraries itself. -/
structure Undisturbed (b : Builder) (here : Location) (paths : List Path)
    (dirs files : Set Location) : Prop where
  libraries : ∀ name ∈ libraryNames, ∀ dir ∈ b.systemDirs, (dir.child name).place here ∉ files
  dirs : ∀ name, b.appDir.place here ++ [name] ∉ dirs
  files : ∀ name, b.appDir.place here ++ [name] ∈ files →
    b.appDir.place here ++ [name] ∈ copyPlaces here (b.variantDir here) paths

theorem Undisturbed.mono {dirs' files' : Set Location} (h : b.Undisturbed here paths dirs files)
    (hdirs : dirs' ⊆ dirs) (hfiles : files' ⊆ files) : b.Undisturbed here paths dirs' files' where
  libraries name hname dir hdir hin := h.libraries name hname dir hdir (hfiles hin)
  dirs name hin := h.dirs name (hdirs hin)
  files name hin := h.files name (hfiles hin)

/-- What a build made is there, and its questions have the answers that it got. -/
structure Stands (b : Builder) (here : Location) (paths : List Path) (entries : List AppEntry)
    (U : Disk) : Prop where
  icon : b.config.usesDefaultIcon = true → U.read (b.iconPath here) = .ok Icon.file
  variantDir : U.isDir (b.variantDir here) = .ok true
  found : findLibraries b.systemDirs U libraryNames = .ok paths
  copies : ∀ p ∈ paths, ∃ bytes, U.read p = .ok bytes ∧
    U.read ((b.variantDir here).descend [p.name]) = .ok bytes
  writable : b.config.signTool.all SignTool.isWritable = true
  lists : b.Lists here U entries
  outputDir : U.isDir b.outputDir = .ok true
  script : U.read b.scriptPath = .ok (Text.toBytes (b.scriptOf here entries paths))
  encodable : Text.isEncodable (b.scriptOf here entries paths) = true

theorem Secluded.variantDots (hb : b.Secluded here) : ".." ∉ (b.variantDir here).parts := by
  have hname : ".." ∉ [b.config.variant.dirName] := by
    cases b.config.variant <;> decide
  rw [variantDir, Path.descend, List.mem_append, not_or]
  exact ⟨hb.stagingDots, hname⟩

theorem variantPlace_eq : (b.variantDir here).place here =
    (b.stagingDir here).place here ++ [b.config.variant.dirName] := by
  have hplain : IsPlain b.config.variant.dirName := by
    cases b.config.variant <;> decide
  exact Path.place_descend (List.forall_mem_singleton.2 hplain)

theorem iconPlace_eq :
    (b.iconPath here).place here = (b.stagingDir here).place here ++ [iconName] :=
  Path.place_descend (List.forall_mem_singleton.2 isPlain_iconName)

theorem findLibraries_below (hb : b.Apart here) (hU : U.Sound) (hd : d.Sound)
    (hhere : d.here = here) (h : d.Grows dirs files U)
    (hkept : ∀ name ∈ libraryNames, ∀ dir ∈ b.systemDirs, (dir.child name).place here ∉ files)
    (hfound : findLibraries b.systemDirs U libraryNames = .ok paths) :
    findLibraries b.systemDirs d libraryNames = .ok paths := by
  refine findLibraries_grown (fun name hname _ => findIn_below hU hd h fun dir hdir => ?_) hfound
  exact ⟨hb.dots_notMem_child hname hdir, hhere.symm ▸ hkept name hname dir hdir⟩

section Found

variable (hfound : findLibraries b.systemDirs d libraryNames = .ok paths)

include hfound

theorem isPlain_of_found : ∀ p ∈ paths, IsPlain p.name := fun p hp =>
  isPlain_of_mem_libraryNames _ (name_mem_of_findLibraries (fun _ h => h) hfound p hp)

theorem nodup_of_found : (paths.map Path.name).Nodup :=
  (map_name_sublist_of_findLibraries (fun _ h => h) hfound).nodup (by decide)

/-- The libraries are not staged where they are found. -/
theorem Apart.notMem_copyPlaces (hb : b.Apart here) :
    ∀ p ∈ paths, p.place here ∉ copyPlaces here (b.variantDir here) paths := by
  rintro p hp ⟨q, -, heq⟩
  obtain ⟨name, hname, dir, hdir, rfl, -⟩ := exists_of_findLibraries hfound p hp
  rw [place_child hname] at heq
  exact hb.variantDir dir hdir (List.append_singleton_inj.1 heq).1

end Found

theorem Lists.grown (hd : d.tree.LinkFree) (hhere : d.here = here) (hgrows : d.Grows dirs files U)
    (hdirs : ∀ name, b.appDir.place here ++ [name] ∉ dirs)
    (hfiles : ∀ name, b.appDir.place here ++ [name] ∉ files) (h : b.Lists here d entries) :
    b.Lists here U entries := by
  obtain ⟨names, hnames, hentries⟩ := h
  subst hhere
  refine ⟨names, Disk.names_grown hd hgrows hnames hdirs hfiles, ?_⟩
  have hmem : ∀ name ∈ names.mergeSort fun m n => decide (m ≤ n), name ∈ names :=
    fun name hname => (List.mergeSort_perm _ _).mem_iff.1 hname
  refine ((List.forall₂_and_left ..).2 ⟨hmem, hentries⟩).imp ?_
  rintro name e ⟨hname, isDir, hdir, he⟩
  exact ⟨isDir, Disk.isDir_listed_grown hd hgrows hnames hname hdir, he⟩

/-- A directory in which nothing is missing is listed in the same way. -/
theorem Lists.below (hU : U.Sound) (hd : d.Sound) (hhere : d.here = here)
    (hgrows : d.Grows dirs files U) (happ : d.isDir b.appDir = .ok true)
    (hdirs : ∀ name, b.appDir.place here ++ [name] ∉ dirs)
    (hfiles : ∀ name, b.appDir.place here ++ [name] ∉ files) (h : b.Lists here U entries) :
    b.Lists here d entries := by
  obtain ⟨names, hnames, hentries⟩ := h
  subst hhere
  have hmissing : ∀ name, d.tree.get? (b.appDir.place d.here ++ [name]) = none →
      U.tree.get? (b.appDir.place d.here ++ [name]) = none := by
    intro name hnone
    have hbecomes := hgrows.tree (b.appDir.place d.here ++ [name])
    rw [hnone] at hbecomes
    generalize U.tree.get? (b.appDir.place d.here ++ [name]) = e at hbecomes
    cases hbecomes with
    | same => rfl
    | made hin => exact absurd hin (hdirs name)
    | written hin => exact absurd hin (hfiles name)
  have hnames' := Disk.names_below hU hd hgrows happ hnames hmissing
  refine ⟨names, hnames', ?_⟩
  have hmem : ∀ name ∈ names.mergeSort fun m n => decide (m ≤ n), name ∈ names :=
    fun name hname => (List.mergeSort_perm _ _).mem_iff.1 hname
  refine ((List.forall₂_and_left ..).2 ⟨hmem, hentries⟩).imp ?_
  rintro name e ⟨hname, isDir, hdir, he⟩
  exact ⟨isDir, Disk.isDir_listed_below hd hgrows hnames' hname hdir, he⟩

/-! ## What stands -/

theorem StagesIcon.turns (hd : d.Sound) (hhere : d.here = here) (h : b.StagesIcon here d d') :
    d.Turns ((b.stagingDir here).placesUp here) (b.iconPlaces here) d' := by
  unfold StagesIcon at h
  split_ifs at h with hdefault
  · obtain ⟨d₁, hmade, hwrite⟩ := h
    obtain ⟨hturns, -⟩ := DiskWork.ensureDirs_eq_ok hd hmade
    obtain ⟨hturns', -⟩ := Disk.writeFile_eq_ok hturns.sound hwrite
    rw [hhere] at hturns
    rw [hturns.grows.here, hhere] at hturns'
    refine (hturns.mono subset_rfl (Set.empty_subset _)).trans
      (hturns'.mono (Set.empty_subset _) ?_)
    exact Set.singleton_subset_iff.2 ⟨hdefault, rfl⟩
  · rw [h]
    exact hd.turns

section Made

variable {d₁ d₂ d₃ d₄ : Disk} (hd : d.Sound) (hhere : d.here = here)
  (h : b.Makes here paths entries d d₁ d₂ d₃ d₄ d')

include hd hhere h

/-- Where each step leads. -/
theorem Makes.turns_each :
    d.Turns ((b.stagingDir here).placesUp here) (b.iconPlaces here) d₁ ∧
    d₁.Turns ((b.variantDir here).placesUp here) ∅ d₂ ∧
    d₂.Turns ∅ (copyPlaces here (b.variantDir here) paths) d₃ ∧
    d₃.Turns (b.outputDir.placesUp here) ∅ d₄ ∧ d₄.Turns ∅ {b.scriptPlace here} d' := by
  have h₁ := h.icon.turns hd hhere
  have hhere₁ := h₁.grows.here.trans hhere
  obtain ⟨h₂, -⟩ := DiskWork.ensureDirs_eq_ok h₁.sound h.variantDir
  have hhere₂ := h₂.grows.here.trans hhere₁
  have h₃ := h.copies.turns h₂.sound hhere₂ (isPlain_of_found h.found)
  have hhere₃ := h₃.grows.here.trans hhere₂
  obtain ⟨h₄, -⟩ := DiskWork.ensureDirs_eq_ok h₃.sound h.outputDir
  have hhere₄ := h₄.grows.here.trans hhere₃
  obtain ⟨h₅, -⟩ := Disk.writeFile_eq_ok h₄.sound h.script
  rw [hhere₁] at h₂
  rw [hhere₃] at h₄
  rw [hhere₄] at h₅
  exact ⟨h₁, h₂, h₃, h₄, h₅⟩

theorem Makes.turns : d.Turns (b.madeDirs here) (b.ownFiles here paths) d' := by
  obtain ⟨h₁, h₂, h₃, h₄, h₅⟩ := h.turns_each hd hhere
  have hstaging : (b.stagingDir here).placesUp here ⊆ b.madeDirs here :=
    (Path.placesUp_subset_descend _).trans Set.subset_union_left
  refine (h₁.mono hstaging fun place hin => .inl hin).trans ?_
  refine (h₂.mono Set.subset_union_left (Set.empty_subset _)).trans ?_
  refine (h₃.mono (Set.empty_subset _) fun place hin => .inr (.inl hin)).trans ?_
  refine (h₄.mono Set.subset_union_right (Set.empty_subset _)).trans ?_
  exact h₅.mono (Set.empty_subset _) (Set.singleton_subset_iff.2 (.inr (.inr rfl)))

/-- What is left to be changed after the icon, after the search and after the copies. -/
theorem Makes.turns_later :
    let left := copyPlaces here (b.variantDir here) paths ∪ {b.scriptPlace here}
    d₁.Turns Set.univ left d' ∧ d₂.Turns (b.outputDir.placesUp here) left d' ∧
      d₃.Turns (b.outputDir.placesUp here) {b.scriptPlace here} d' := by
  intro left
  obtain ⟨-, h₂, h₃, h₄, h₅⟩ := h.turns_each hd hhere
  have hlater₃ : d₃.Turns (b.outputDir.placesUp here) {b.scriptPlace here} d' :=
    (h₄.mono subset_rfl (Set.empty_subset _)).trans (h₅.mono (Set.empty_subset _) subset_rfl)
  have hlater₂ : d₂.Turns (b.outputDir.placesUp here) left d' :=
    (h₃.mono (Set.empty_subset _) Set.subset_union_left).trans
      (hlater₃.mono subset_rfl Set.subset_union_right)
  refine ⟨?_, hlater₂, hlater₃⟩
  exact (h₂.mono (Set.subset_univ _) (Set.empty_subset _)).trans
    (hlater₂.mono (Set.subset_univ _) subset_rfl)

/-- The icon is not written over by a library or the script. -/
theorem Makes.read_icon (hdefault : b.config.usesDefaultIcon = true) :
    d'.read (b.iconPath here) = .ok Icon.file := by
  obtain ⟨h₁, -⟩ := h.turns_each hd hhere
  obtain ⟨hlater, -⟩ := h.turns_later hd hhere
  have hicon := h.icon
  rw [StagesIcon, if_pos hdefault] at hicon
  obtain ⟨d₀, -, hwrite⟩ := hicon
  refine Disk.read_grown h₁.sound.linkFree hlater.grows ?_ (Disk.read_writeFile hwrite)
  rw [h₁.grows.here, hhere, iconPlace_eq]
  rintro (⟨p, hp, heq⟩ | heq)
  · have hname := name_mem_of_findLibraries (fun _ h => h) h.found p hp
    rw [← (List.append_singleton_inj.1 heq).2] at hname
    exact absurd hname (by decide)
  · rw [Set.mem_singleton_iff, scriptPlace_eq] at heq
    exact absurd (List.append_singleton_inj.1 heq).2 (by decide)

/-- The script is not written over a library or a copy of one. -/
theorem Makes.read_copies (hb : b.Secluded here) : ∀ p ∈ paths, ∃ bytes,
    d'.read p = .ok bytes ∧ d'.read ((b.variantDir here).descend [p.name]) = .ok bytes := by
  intro p hp
  obtain ⟨h₁, h₂, h₃, -⟩ := h.turns_each hd hhere
  obtain ⟨-, -, hlater⟩ := h.turns_later hd hhere
  have hhere₂ : d₂.here = here := h₂.grows.here.trans (h₁.grows.here.trans hhere)
  have hhere₃ : d₃.here = here := h₃.grows.here.trans hhere₂
  have hscript : ∀ {above : Location} {name}, name ∈ libraryNames →
      above ++ [name] ∉ ({b.scriptPlace here} : Set Location) := by
    intro above name hname heq
    rw [Set.mem_singleton_iff, scriptPlace_eq] at heq
    obtain ⟨-, rfl⟩ := List.append_singleton_inj.1 heq
    exact absurd hname (by decide)
  have hplain := isPlain_of_found h.found
  obtain ⟨bytes, hread, hcopied⟩ := h.copies.reads h₂.sound hhere₂ hplain (nodup_of_found h.found)
    (hb.notMem_copyPlaces h.found) p hp
  refine ⟨bytes, Disk.read_grown h₃.sound.linkFree hlater.grows ?_ hread,
    Disk.read_grown h₃.sound.linkFree hlater.grows ?_ hcopied⟩
  · obtain ⟨name, hname, dir, hdir, rfl, -⟩ := exists_of_findLibraries h.found p hp
    rw [hhere₃, place_child hname]
    exact hscript hname
  · rw [hhere₃, place_copy (hplain p hp)]
    exact hscript (name_mem_of_findLibraries (fun _ h => h) h.found p hp)

theorem Makes.stands (hb : b.Secluded here)
    (hfound : findLibraries b.systemDirs d' libraryNames = .ok paths) :
    b.Stands here paths entries d' := by
  obtain ⟨h₁, h₂, h₃, h₄, h₅⟩ := h.turns_each hd hhere
  obtain ⟨-, hlater₂, hlater₃⟩ := h.turns_later hd hhere
  have hhere₃ := h₃.grows.here.trans (h₂.grows.here.trans (h₁.grows.here.trans hhere))
  obtain ⟨-, hvariant⟩ := DiskWork.ensureDirs_eq_ok h₁.sound h.variantDir
  obtain ⟨-, hout⟩ := DiskWork.ensureDirs_eq_ok h₃.sound h.outputDir
  have hlists : b.Lists here d' entries := by
    refine h.lists.grown h₃.sound.linkFree hhere₃ hlater₃.grows (fun name hin => ?_)
      fun name hin => ?_
    · have habove := Path.prefix_of_mem_placesUp hb.outputDir hin
      exact hb.appDir ((List.prefix_append _ _).trans habove)
    · rw [Set.mem_singleton_iff, scriptPlace_eq] at hin
      exact hb.appDir ((List.append_singleton_inj.1 hin).1 ▸ List.prefix_rfl)
  exact
    { icon := h.read_icon hd hhere
      variantDir := Disk.isDir_grown h₂.sound.linkFree hlater₂.grows hvariant
      found := hfound
      copies := h.read_copies hd hhere hb
      writable := h.writable
      lists := hlists
      outputDir := Disk.isDir_grown h₄.sound.linkFree h₅.grows hout
      script := Disk.read_writeFile h.script
      encodable := h.encodable }

end Made

theorem Stands.grown (hU : U.Sound) (hhere : U.here = here)
    (h : b.Stands here paths entries U) (hgrows : U.Grows dirs files D)
    (hkept : b.Undisturbed here paths dirs files)
    (hown : ∀ place ∈ b.ownFiles here paths, place ∉ files)
    (hfound : findLibraries b.systemDirs D libraryNames = .ok paths) :
    b.Stands here paths entries D := by
  have hread : ∀ {p bytes}, p.place here ∉ files → U.read p = .ok bytes → D.read p = .ok bytes :=
    fun hp hread => Disk.read_grown hU.linkFree hgrows (hhere.symm ▸ hp) hread
  refine ⟨fun hdefault => ?_, Disk.isDir_grown hU.linkFree hgrows h.variantDir, hfound,
    fun p hp => ?_, h.writable, ?_, Disk.isDir_grown hU.linkFree hgrows h.outputDir, ?_,
    h.encodable⟩
  · exact hread (hown _ (.inl ⟨hdefault, rfl⟩)) (h.icon hdefault)
  · obtain ⟨bytes, hsource, hcopied⟩ := h.copies p hp
    refine ⟨bytes, hread ?_ hsource, hread (hown _ (.inr (.inl ⟨p, hp, ?_⟩))) hcopied⟩
    · obtain ⟨name, hname, dir, hdir, rfl, -⟩ := exists_of_findLibraries hfound p hp
      exact hkept.libraries name hname dir hdir
    · exact place_copy (isPlain_of_found hfound p hp)
  · refine h.lists.grown hU.linkFree hhere hgrows hkept.dirs fun name hin => ?_
    exact hown _ (.inr (.inl (hkept.files name hin))) hin
  · exact hread (hown _ (.inr (.inr rfl))) h.script

/-! ## Making what is missing -/

section Missing

variable (hb : b.Secluded here) (hU : U.Sound) (hhere : U.here = here)
  (h : b.Stands here paths entries U) (hd : d.Sound) (hgrows : d.Grows dirs files U)

include hb hU hhere h hd hgrows

theorem Stands.icon_below : ∃ d', b.StagesIcon here d d' ∧
    d'.Grows dirs (files \ b.iconPlaces here) U := by
  unfold StagesIcon
  split_ifs with hdefault
  · obtain ⟨d₁, hmade, hd₁, hget, h₁⟩ := DiskWork.ensureDirs_below hU hd hgrows hb.stagingDots
      (Disk.isDir_of_descend hU.linkFree h.variantDir)
    have hhere₁ : d₁.here = here := h₁.here.symm.trans hhere
    have hdots : ".." ∉ (b.iconPath here).parts := by
      rw [iconPath, Path.descend, List.mem_append, not_or]
      exact ⟨hb.stagingDots, by decide⟩
    rw [hgrows.here.symm.trans hhere] at hget
    have habove : d₁.tree.get? ((b.iconPath here).place d₁.here).dropLast = some .dir := by
      rw [hhere₁, iconPlace_eq, List.dropLast_concat]
      exact hget
    obtain ⟨d', hwrite, -, h'⟩ :=
      Disk.writeFile_below hU hd₁ h₁ hdots (h.icon hdefault) habove
    refine ⟨d', ⟨d₁, hmade, hwrite⟩, h'.mono (fun _ hin => hin.1) fun place hin => ⟨hin.1, ?_⟩⟩
    rw [hhere₁] at hin
    exact fun hnot => hin.2 hnot.2
  · exact ⟨d, rfl, hgrows.mono subset_rfl fun place hin => ⟨hin, fun hnot => hdefault hnot.1⟩⟩

theorem Stands.copies_below
    (hkept : ∀ name ∈ libraryNames, ∀ dir ∈ b.systemDirs, (dir.child name).place here ∉ files)
    (hdir : d.tree.get? ((b.variantDir here).place here) = some .dir) :
    ∃ d', Copies (b.variantDir here) paths d d' ∧
      d'.Grows dirs (files \ copyPlaces here (b.variantDir here) paths) U := by
  refine Staging.copies_below hU hhere hb.variantDots hd hgrows (fun p hp => ?_) h.copies hdir
  have hnot := hb.notMem_copyPlaces h.found p hp
  have hplain := isPlain_of_found h.found p hp
  obtain ⟨name, hname, dir, hdir, rfl, -⟩ := exists_of_findLibraries h.found p hp
  exact ⟨hplain, hb.dots_notMem_child hname hdir, hkept name hname dir hdir,
    fun heq => hnot ⟨_, hp, heq⟩⟩

theorem Stands.script_below : ∃ d₁ d', DiskWork.ensureDirs b.outputDir d = (.ok (), d₁) ∧
    d₁.writeFile b.scriptPath (Text.toBytes (b.scriptOf here entries paths)) = .ok d' ∧
      d'.Grows (dirs \ b.outputDir.placesUp here) (files \ {b.scriptPlace here}) U := by
  obtain ⟨d₁, hout, hd₁, hget, h₁⟩ :=
    DiskWork.ensureDirs_below hU hd hgrows hb.outputDir h.outputDir
  rw [hgrows.here.symm.trans hhere] at h₁ hget
  have hhere₁ : d₁.here = here := h₁.here.symm.trans hhere
  have hdots : ".." ∉ b.scriptPath.parts := by
    rw [scriptPath, Path.descend, List.mem_append, not_or]
    exact ⟨hb.outputDir, by decide⟩
  have hplace : b.scriptPath.place here = b.outputDir.place here ++ [scriptName] := scriptPlace_eq
  obtain ⟨d', hwrite, -, h'⟩ := Disk.writeFile_below hU hd₁ h₁ hdots h.script
    (by rwa [hhere₁, hplace, List.dropLast_concat])
  rw [hhere₁] at h'
  exact ⟨d₁, d', hout, hwrite, h'⟩

/-- Below a disk where it stands, a build that lacks nothing of what it reads makes what it lacks of
its own. -/
theorem Stands.makes (hkept : b.Undisturbed here paths dirs files)
    (happ : d.isDir b.appDir = .ok true) :
    ∃ d₁ d₂ d₃ d₄ d', b.Makes here paths entries d d₁ d₂ d₃ d₄ d' ∧
      d'.Grows (dirs \ b.madeDirs here) (files \ b.ownFiles here paths) U := by
  have hhereOf : ∀ {d dirs files}, Disk.Grows dirs files d U → d.here = here :=
    fun hgrows => hgrows.here.symm.trans hhere
  obtain ⟨d₁, hicon, h₁⟩ := h.icon_below hb hU hhere hd hgrows
  have hturns₁ := hicon.turns hd (hhereOf hgrows)
  obtain ⟨d₂, hvariant, hd₂, hget₂, h₂⟩ :=
    DiskWork.ensureDirs_below hU hturns₁.sound h₁ hb.variantDots h.variantDir
  obtain ⟨hturns₂, -⟩ := DiskWork.ensureDirs_eq_ok hturns₁.sound hvariant
  rw [hhereOf h₁] at h₂ hget₂
  have hsources : ∀ name ∈ libraryNames, ∀ dir ∈ b.systemDirs,
      (dir.child name).place here ∉ files \ b.iconPlaces here :=
    fun name hname dir hdir hin => hkept.libraries name hname dir hdir hin.1
  have hfound : findLibraries b.systemDirs d₂ libraryNames = .ok paths :=
    findLibraries_below hb.toApart hU hd₂ (hhereOf h₂) h₂ hsources h.found
  obtain ⟨d₃, hcopies, h₃⟩ := h.copies_below hb hU hhere hd₂ h₂ hsources hget₂
  have hturns₃ := hcopies.turns hd₂ (hhereOf h₂) (isPlain_of_found hfound)
  have happ₁ := Disk.isDir_grown hd.linkFree hturns₁.grows happ
  have happ₂ := Disk.isDir_grown hturns₁.sound.linkFree hturns₂.grows happ₁
  have happ₃ := Disk.isDir_grown hd₂.linkFree hturns₃.grows happ₂
  -- what the application's build gets from the build itself is there by now
  have hlists : b.Lists here d₃ entries :=
    h.lists.below hU hturns₃.sound (hhereOf h₃) h₃ happ₃ (fun name hin => hkept.dirs name hin.1)
      fun name hin => hin.2 (hkept.files name hin.1.1)
  obtain ⟨d₄, d', hout, hwrite, h'⟩ := h.script_below hb hU hhere hturns₃.sound h₃
  refine ⟨d₁, d₂, d₃, d₄, d',
    ⟨⟨hicon, hvariant, hfound, hcopies, h.writable, hlists, hout⟩, happ, hwrite, h.encodable⟩,
    h'.mono ?_ ?_⟩
  · rintro place ⟨⟨hin, hvariant⟩, hout⟩
    exact ⟨hin, not_or.2 ⟨hvariant, hout⟩⟩
  · rintro place ⟨⟨⟨hin, hicon⟩, hcopy⟩, hscript⟩
    exact ⟨hin, not_or.2 ⟨hicon, not_or.2 ⟨hcopy, hscript⟩⟩⟩

end Missing

end Builder

end SetupScript
