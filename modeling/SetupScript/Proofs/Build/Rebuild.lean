import SetupScript.Proofs.Build.Failures
import SetupScript.Proofs.Build.Runs
import SetupScript.Proofs.Lasting

/-!
# Building once more

A build that succeeded is built once more with the same outcome and without a change of the disk,
unless the search for the libraries comes to a directory that cannot be asked for any more: one that
lies, or would lie, below the directory that the script goes to or below one above that, under a
name that is too long. As long as those directories were missing there was nothing to look for; the
first build has made them (`Builder.build_again_iff`).

What the steps of a build leave to be changed shrinks from one to the next (`Builder.afterIcon`,
`Builder.afterSearch`, `Builder.afterCopies`): the libraries are copied after the icon is written,
after the copies nothing is written but the script, and the application's directory is listed before
the one for the script is made.
-/

namespace SetupScript

namespace Staging

variable {ends : Set Disk} {e e' : Extent} {here : Location} {s : Session} {d D : Disk}
  {logger name : String} {dir target : Path} {dirs : List Path}

/-! ## Looking for libraries -/

/-- The search for a name comes to a directory when none before that has the name. -/
inductive Reaches (d : Disk) (name : String) : List Path → Path → Prop
  | here {dir : Path} {dirs : List Path} : Reaches d name (dir :: dirs) dir
  | there {other dir : Path} {dirs : List Path} (hother : d.isFile (other.child name) ≠ .ok true)
      (h : Reaches d name dirs dir) : Reaches d name (other :: dirs) dir

theorem Reaches.mem (h : Reaches d name dirs dir) : dir ∈ dirs := by
  induction h with
  | here => exact List.mem_cons_self
  | there _ _ ih => exact List.mem_cons_of_mem _ ih

theorem Reaches.of_grown (ht : d.tree.LinkFree) (hgrows : d.Grows Set.univ Set.univ D)
    (h : Reaches D name dirs dir) : Reaches d name dirs dir := by
  induction h with
  | here => exact .here
  | there hother _ ih =>
    exact .there (fun hfile => hother (Disk.isFile_grown ht hgrows hfile)) ih

theorem findIn_grown (htrue : ∀ dir ∈ dirs, d.isFile (dir.child name) = .ok true →
      D.isFile (dir.child name) = .ok true)
    (hfalse : ∀ dir, Reaches D name dirs dir → d.isFile (dir.child name) = .ok false →
      D.isFile (dir.child name) = .ok false) {found : Option Path}
    (h : findIn d name dirs = .ok found) : findIn D name dirs = .ok found := by
  induction dirs with
  | nil => exact h
  | cons dir dirs ih =>
    obtain ⟨htrueHere, htrueRest⟩ := List.forall_mem_cons.1 htrue
    rcases findIn_eq_ok.1 h with ⟨hfile, hfound⟩ | ⟨hfile, hrest⟩
    · exact findIn_eq_ok.2 (.inl ⟨htrueHere hfile, hfound⟩)
    · have hfile' := hfalse dir .here hfile
      have hother : D.isFile (dir.child name) ≠ .ok true := by
        rw [hfile']
        simp
      refine findIn_eq_ok.2 (.inr ⟨hfile', ih htrueRest (fun other hreaches => ?_) hrest⟩)
      exact hfalse other (.there hother hreaches)

theorem findIn_ne_ok (h : Reaches d name dirs dir) {f : DiskError}
    (herror : d.isFile (dir.child name) = .error f) (found : Option Path) :
    findIn d name dirs ≠ .ok found := by
  intro hfound
  induction h with
  | here =>
    rcases findIn_eq_ok.1 hfound with ⟨hfile, -⟩ | ⟨hfile, -⟩ <;>
      · rw [herror] at hfile
        contradiction
  | there hother _ ih =>
    rcases findIn_eq_ok.1 hfound with ⟨hfile, -⟩ | ⟨-, hrest⟩
    · exact hother hfile
    · exact ih herror hrest

theorem findLibraries_grown : ∀ {names : List String} {paths : List Path},
    (∀ name ∈ names, ∀ found, findIn d name dirs = .ok found → findIn D name dirs = .ok found) →
      findLibraries dirs d names = .ok paths → findLibraries dirs D names = .ok paths
  | [], _, _, h => h
  | name :: names, paths, hnames, h => by
    obtain ⟨hname, hrest⟩ := List.forall_mem_cons.1 hnames
    obtain ⟨found, others, hfound, hothers, rfl⟩ := findLibraries_eq_ok.1 h
    exact findLibraries_eq_ok.2
      ⟨found, others, hname found hfound, findLibraries_grown hrest hothers, rfl⟩

theorem findIn_of_findLibraries : ∀ {names : List String} {paths : List Path},
    findLibraries dirs d names = .ok paths → ∀ name ∈ names, ∃ found, findIn d name dirs = .ok found
  | [], _, _ => by simp
  | name :: names, paths, h => by
    obtain ⟨found, others, hfound, hothers, -⟩ := findLibraries_eq_ok.1 h
    exact List.forall_mem_cons.2 ⟨⟨found, hfound⟩, findIn_of_findLibraries hothers⟩

/-! ## Staging -/

theorem writeIcon_lasts (hs : s.Fit here) (hdirs : dir.placesUp here ⊆ e.dirs)
    (hicon : ((dir.descend [iconName]).absolute here).place here ∈ e.files) (he : e' ≤ e)
    (hlast : ((dir.descend [iconName]).absolute here).place here ∉ e'.files) :
    Work.Lasts ends e e' (writeIcon logger dir) (fun _ s' => s'.Fit here) s := by
  unfold writeIcon
  refine (Work.Lasts.ensureDirs hs hdirs e.refl_le).bind fun _ s₁ h₁ => ?_
  refine .get_bind ?_ fun s' h => by rw [h]
  rw [h₁.here]
  refine (Work.Lasts.write h₁ hicon he hlast).bind fun _ s₂ h₂ => ?_
  exact (Work.Lasts.note h₂ _).bind fun _ s₃ h₃ => .pure h₃.1

/-- Where a file is copied to. -/
def copyPlace (here : Location) (target source : Path) : Location :=
  ((target.descend [source.name]).absolute here).place here

/-- What is left to be changed before some files are copied. -/
def withCopies (here : Location) (target : Path) (sources : List Path) (e : Extent) : Extent :=
  ⟨e.dirs, e.files ∪ {place | ∃ p ∈ sources, place = copyPlace here target p}⟩

theorem withCopies_le {sources : List Path} (he : e ≤ e')
    (hcopies : ∀ p ∈ sources, copyPlace here target p ∈ e'.files) :
    withCopies here target sources e ≤ e' := by
  refine ⟨he.1, Set.union_subset he.2 ?_⟩
  rintro _ ⟨p, hp, rfl⟩
  exact hcopies p hp

theorem le_withCopies {sources : List Path} : e ≤ withCopies here target sources e :=
  ⟨subset_rfl, Set.subset_union_left⟩

/-- Files that are copied to different places can be copied once more, unless a copy replaces what
is still to be read. -/
theorem copyAll_lasts {sources : List Path} (hs : s.Fit here)
    (hdistinct : sources.Pairwise fun p q => copyPlace here target p ≠ copyPlace here target q)
    (happart : ∀ p ∈ sources, ∀ q ∈ sources, p.place here ≠ copyPlace here target q)
    (hlater : ∀ p ∈ sources, p.place here ∉ e.files ∧ copyPlace here target p ∉ e.files) :
    Work.Lasts ends (withCopies here target sources e) e (copyAll logger target sources)
      (fun _ s' => s'.Fit here) s := by
  induction sources generalizing s with
  | nil =>
    have hnone : Work.Lasts ends e e (copyAll logger target []) (fun _ s' => s'.Fit here) s :=
      .pure hs
    exact hnone.extend le_withCopies
  | cons source sources ih =>
    obtain ⟨hfirst, hrest⟩ := List.pairwise_cons.1 hdistinct
    obtain ⟨⟨hsource, hcopy⟩, hlater'⟩ := List.forall_mem_cons.1 hlater
    unfold copyAll
    refine .get_bind ?_ fun s' h => by rw [h]
    rw [hs.here]
    have htarget : copyPlace here target source ∈
        (withCopies here target (source :: sources) e).files :=
      .inr ⟨source, List.mem_cons_self, rfl⟩
    have hread : source.place here ∉ (withCopies here target sources e).files := by
      rintro (hin | ⟨p, hp, heq⟩)
      · exact hsource hin
      · exact happart source List.mem_cons_self p (List.mem_cons_of_mem _ hp) heq
    have hwritten : copyPlace here target source ∉ (withCopies here target sources e).files := by
      rintro (hin | ⟨p, hp, heq⟩)
      · exact hcopy hin
      · exact hfirst p hp heq
    have hle : withCopies here target sources e ≤ withCopies here target (source :: sources) e :=
      withCopies_le le_withCopies fun p hp => .inr ⟨p, List.mem_cons_of_mem _ hp, rfl⟩
    refine (Work.Lasts.copy hs htarget hle hread hwritten).bind fun _ s₁ h₁ => ?_
    refine (Work.Lasts.note h₁ _).bind ?_
    rintro - s₂ ⟨h₂, -⟩
    have happart' : ∀ p ∈ sources, ∀ q ∈ sources, p.place here ≠ copyPlace here target q :=
      fun p hp q hq => happart p (List.mem_cons_of_mem _ hp) q (List.mem_cons_of_mem _ hq)
    exact (ih h₂ hrest happart' hlater').bind fun _ s₃ h₃ => .pure h₃

/-- The libraries were found on some disk between two others. -/
def Searched (dirs : List Path) (d d' : Disk) : Prop :=
  ∃ d₁ paths, d.Grows Set.univ Set.univ d₁ ∧ d₁.Grows Set.univ Set.univ d' ∧
    findLibraries dirs d₁ libraryNames = .ok paths

theorem Searched.mono {d₀ d' d₂ : Disk} (h : Searched dirs d d')
    (hbefore : d₀.Grows Set.univ Set.univ d) (hafter : d'.Grows Set.univ Set.univ d₂) :
    Searched dirs d₀ d₂ := by
  obtain ⟨d₁, paths, h₁, h₂, hfound⟩ := h
  exact ⟨d₁, paths, trans_of _ hbefore h₁, trans_of _ h₂ hafter, hfound⟩

theorem nameSize_of_mem_libraryNames :
    ∀ name ∈ libraryNames, Text.nameSize name ≤ nameLimit := by decide

theorem child_eq_of_mem_libraryNames (hname : name ∈ libraryNames) :
    dir.child name = dir.descend [name] :=
  Path.child_eq (isPlain_of_mem_libraryNames name hname) (noSlash_of_mem_libraryNames name hname)

theorem place_child (hname : name ∈ libraryNames) :
    (dir.child name).place here = dir.place here ++ [name] := by
  rw [child_eq_of_mem_libraryNames hname, Path.place_descend]
  exact List.forall_mem_singleton.2 (isPlain_of_mem_libraryNames name hname)

theorem overlong_child {places : Set Location} (hname : name ∈ libraryNames) :
    Disk.Overlong here places (dir.child name) ↔ Disk.Overlong here places dir := by
  rw [child_eq_of_mem_libraryNames hname]
  exact Disk.overlong_descend (nameSize_of_mem_libraryNames name hname)
    (isNameable_of_mem_libraryNames name hname)

end Staging

namespace Builder

open Staging

variable {b : Builder} {ends : Set Disk} {here : Location} {s : Session} {d D : Disk}

/-- A name of the directory is too long, and what stands before it is the output directory or one
above it. -/
def OverlongBelow (b : Builder) (here : Location) (dir : Path) : Prop :=
  Disk.Overlong here {place | place <+: b.outputDir.place here} dir

/-- The disks on which the search for the libraries comes to no such directory, so that it has an
answer although the output directory is there. -/
def searchable (b : Builder) (here : Location) : Set Disk :=
  {D | ∀ name ∈ libraryNames, ∀ dir, Reaches D name b.systemDirs dir → ¬ b.OverlongBelow here dir}

/-- What is left to be changed after the directory for the script is made. -/
def afterOutput (b : Builder) (here : Location) : Extent := ⟨∅, {b.scriptPlace here}⟩

/-- What is left to be changed after the files are staged. -/
def afterCopies (b : Builder) (here : Location) : Extent :=
  ⟨b.outputDir.placesUp here, {b.scriptPlace here}⟩

/-- What is left to be changed after the libraries are found. -/
def afterSearch (b : Builder) (here : Location) : Extent :=
  ⟨b.outputDir.placesUp here, {place | place = b.scriptPlace here ∨
    ∃ name ∈ libraryNames, place = (b.variantDir here).place here ++ [name]}⟩

/-- What is left to be changed after the icon is written. -/
def afterIcon (b : Builder) (here : Location) : Extent := ⟨Set.univ, (b.afterSearch here).files⟩

theorem afterCopies_le : b.afterCopies here ≤ b.afterSearch here :=
  ⟨subset_rfl, fun _ h => .inl h⟩

/-- The script does not go into the application's directory, the libraries are not staged where they
are looked for, and no double dots stand where that has to be told from the paths. -/
structure Apart (b : Builder) (here : Location) : Prop where
  projectDir : ".." ∉ b.projectDir.parts
  systemDirs : ∀ dir ∈ b.systemDirs, ".." ∉ dir.parts
  appDir : ¬ b.appDir.place here <+: b.outputDir.place here
  variantDir : ∀ dir ∈ b.systemDirs, dir.place here ≠ (b.variantDir here).place here

theorem Apart.outputDir (hb : b.Apart here) : ".." ∉ b.outputDir.parts := by
  have hnames : ".." ∉ buildDir "installer" b.config.variant := by
    cases b.config.variant <;> decide
  rw [Builder.outputDir, Path.descend, List.mem_append, not_or]
  exact ⟨hb.projectDir, hnames⟩

theorem scriptPlace_eq : b.scriptPlace here = b.outputDir.place here ++ [scriptName] :=
  Path.place_descend (by decide)

theorem copyPlace_eq {source : Path} (hname : source.name ∈ libraryNames) :
    copyPlace here (b.variantDir here) source =
      (b.variantDir here).place here ++ [source.name] := by
  rw [copyPlace, Path.absolute_descend b.isRelative_variantDir, Path.place_descend]
  exact List.forall_mem_singleton.2 (isPlain_of_mem_libraryNames _ hname)

/-- No library is looked for where something is still to be written. -/
theorem Apart.place_child_notMem (hb : b.Apart here) {name : String} (hname : name ∈ libraryNames)
    {dir : Path} (hdir : dir ∈ b.systemDirs) :
    (dir.child name).place here ∉ (b.afterSearch here).files := by
  rw [place_child hname]
  rintro (h | ⟨other, -, h⟩)
  · rw [scriptPlace_eq] at h
    obtain rfl := List.singleton_injective (List.append_inj' h rfl).2
    exact absurd hname (by decide)
  · exact hb.variantDir dir hdir (List.append_inj' h rfl).1

theorem Apart.dots_notMem_child (hb : b.Apart here) {name : String} (hname : name ∈ libraryNames)
    {dir : Path} (hdir : dir ∈ b.systemDirs) : ".." ∉ (dir.child name).parts := by
  have hplain := isPlain_of_mem_libraryNames name hname
  rw [child_eq_of_mem_libraryNames hname, Path.descend, List.mem_append, not_or]
  exact ⟨hb.systemDirs dir hdir, fun hin => hplain.2.2 (List.mem_singleton.1 hin).symm⟩

theorem findLibraries_searchable (hb : b.Apart here) (hd : d.Sound) (hhere : d.here = here)
    (hgrows : d.Grows (b.afterSearch here).dirs (b.afterSearch here).files D)
    (hD : D ∈ b.searchable here) {paths : List Path}
    (h : findLibraries b.systemDirs d libraryNames = .ok paths) :
    findLibraries b.systemDirs D libraryNames = .ok paths := by
  subst hhere
  refine findLibraries_grown (fun name hname found => ?_) h
  refine findIn_grown (fun dir _ => Disk.isFile_grown hd.linkFree hgrows) ?_
  intro dir hreaches hfile
  have hdots := hb.dots_notMem_child hname hreaches.mem
  refine Disk.isFile_grown_false hd hgrows hdots (hb.place_child_notMem hname hreaches.mem) hfile ?_
  rw [overlong_child hname]
  intro hlong
  exact hD name hname dir hreaches (hlong.mono fun _ => Path.prefix_of_mem_placesUp hb.outputDir)

theorem icon_lasts (hs : s.Fit here) :
    Work.Lasts (b.searchable here) .all (b.afterIcon here) b.icon (fun _ s' => s'.Fit here) s := by
  unfold icon
  split_ifs
  · have hnone : Work.Lasts (b.searchable here) (b.afterIcon here) (b.afterIcon here)
        (pure b.config.iconText) (fun _ s' => s'.Fit here) s := .pure hs
    exact hnone.extend (Extent.le_all _)
  · refine .get_bind ?_ fun s' h => by rw [h]
    have hplace : (((b.stagingDir here).descend [iconName]).absolute here).place here =
        (b.stagingDir here).place here ++ [iconName] := by
      rw [Path.absolute_descend b.isRelative_stagingDir, Path.place_descend (by decide)]
    have hlast : (((b.stagingDir here).descend [iconName]).absolute here).place here ∉
        (b.afterIcon here).files := by
      rw [hplace]
      rintro (h | ⟨name, hname, h⟩)
      · rw [scriptPlace_eq] at h
        exact absurd (List.append_inj' h rfl).2 (by decide)
      · obtain rfl := List.singleton_injective (List.append_inj' h rfl).2
        exact absurd hname (by decide)
    rw [hs.here]
    exact (writeIcon_lasts hs (Set.subset_univ _) (Set.mem_univ _) (Extent.le_all _) hlast).bind
      fun _ _ h => .pure h

theorem copies_last (hb : b.Apart here) (hs : s.Fit here) {paths : List Path}
    (hpaths : findLibraries b.systemDirs s.disk libraryNames = .ok paths) :
    Work.Lasts ends (b.afterSearch here) (b.afterCopies here)
      (copyAll b.logger (b.variantDir here) paths) (fun _ s' => s'.Fit here) s := by
  have hsub := map_name_sublist_of_findLibraries (fun _ h => h) hpaths
  have hname : ∀ p ∈ paths, p.name ∈ libraryNames :=
    fun p hp => hsub.subset (List.mem_map_of_mem hp)
  have hcopy : ∀ p ∈ paths, copyPlace here (b.variantDir here) p =
      (b.variantDir here).place here ++ [p.name] := fun p hp => copyPlace_eq (hname p hp)
  have hsource : ∀ p ∈ paths, p.place here ∉ (b.afterSearch here).files := by
    intro p hp
    obtain ⟨name, hmem, dir, hdir, rfl, -⟩ := exists_of_findLibraries hpaths p hp
    exact hb.place_child_notMem hmem hdir
  have hle : withCopies here (b.variantDir here) paths (b.afterCopies here) ≤
      b.afterSearch here :=
    withCopies_le afterCopies_le fun p hp => .inr ⟨p.name, hname p hp, hcopy p hp⟩
  have hdistinct : paths.Pairwise fun p q =>
      copyPlace here (b.variantDir here) p ≠ copyPlace here (b.variantDir here) q := by
    have hnodup : (paths.map Path.name).Nodup := hsub.nodup (by decide)
    refine (List.pairwise_map.1 hnodup).imp_of_mem fun hp hq hne heq => ?_
    rw [hcopy _ hp, hcopy _ hq] at heq
    exact hne (List.singleton_injective (List.append_inj' heq rfl).2)
  refine (copyAll_lasts hs hdistinct (fun p hp q hq heq => ?_) fun p hp =>
    ⟨fun h => ?_, fun h => ?_⟩).extend hle
  · exact hsource p hp (heq ▸ .inr ⟨q.name, hname q hq, hcopy q hq⟩)
  · exact hsource p hp (.inl h)
  · rw [hcopy p hp, afterCopies, scriptPlace_eq, Set.mem_singleton_iff] at h
    have hscript := List.singleton_injective (List.append_inj' h rfl).2
    exact absurd (hscript ▸ hname p hp) (by decide)

theorem stageLibraries_lasts (hb : b.Apart here) (hs : s.Fit here) :
    Work.Lasts (b.searchable here) (b.afterIcon here) (b.afterCopies here)
      (stageLibraries b.logger b.systemDirs (b.variantDir here))
      (fun _ s' => s'.Fit here ∧ Searched b.systemDirs s.disk s'.disk) s := by
  have hmade : Work.Lasts (b.searchable here) (b.afterIcon here) (b.afterSearch here)
      (Work.onDisk (DiskWork.ensureDirs (b.variantDir here))) (fun _ s' => s'.Fit here) s :=
    Work.Lasts.ensureDirs hs (Set.subset_univ _) ⟨Set.subset_univ _, subset_rfl⟩
  unfold stageLibraries
  refine hmade.withGrowth.bind fun _ s₁ ⟨h₁, hgrows₁⟩ => ?_
  have hsearch : Work.Lasts (b.searchable here) (b.afterSearch here) (b.afterSearch here)
      (Work.ask fun d => findLibraries b.systemDirs d libraryNames)
      (fun paths s' => s' = s₁ ∧ findLibraries b.systemDirs s₁.disk libraryNames = .ok paths) s₁ :=
    .ask fun paths hpaths D hD hgrows =>
      findLibraries_searchable hb h₁.sound h₁.here hgrows hD hpaths
  refine hsearch.bind ?_
  rintro paths _ ⟨rfl, hpaths⟩
  refine (copies_last hb h₁ hpaths).withGrowth.mono fun _ s₂ h₂ => ?_
  exact ⟨h₂.1, _, paths, hgrows₁, h₂.2, hpaths⟩

theorem entry_lasts {e : Extent} (hs : s.Fit here) {names : List String}
    (hnames : s.disk.names b.appDir = .ok names) {name : String} (hname : name ∈ names) :
    Work.Lasts ends e e (b.entry name) (fun _ s' => s'.Fit here ∧ s'.disk = s.disk) s := by
  unfold entry
  have hkind : Work.Lasts ends e e (Work.ask (·.isDir (b.appDir.descend [name])))
      (fun isDir s' => s' = s ∧ s.disk.isDir (b.appDir.descend [name]) = .ok isDir) s :=
    .ask fun isDir hdir D _ hgrows =>
      Disk.isDir_listed_grown hs.sound.linkFree hgrows hnames hname hdir
  refine hkind.bind ?_
  rintro isDir _ ⟨rfl, -⟩
  refine .get_bind ?_ fun s' h => by simp only [h]
  dsimp only
  split_ifs
  · exact (Work.Lasts.note hs _).bind fun _ _ h => .pure h
  · exact .pure ⟨hs, rfl⟩

theorem entries_lasts (hb : b.Apart here) (hs : s.Fit here) :
    Work.Lasts ends (b.afterCopies here) (b.afterCopies here) b.entries
      (fun _ s' => s'.Fit here ∧ s'.disk = s.disk) s := by
  have hnames : Work.Lasts ends (b.afterCopies here) (b.afterCopies here)
      (Work.ask (·.names b.appDir))
      (fun names s' => s' = s ∧ s.disk.names b.appDir = .ok names) s := by
    refine .ask fun names hnames D _ hgrows => ?_
    obtain rfl := hs.here
    -- what is still made and written lies outside of the directory that is listed
    refine Disk.names_grown hs.sound.linkFree hgrows hnames (fun name hin => ?_) fun name hin => ?_
    · have hprefix := Path.prefix_of_mem_placesUp hb.outputDir hin
      exact hb.appDir ((List.prefix_append _ _).trans hprefix)
    · rw [afterCopies, scriptPlace_eq, Set.mem_singleton_iff] at hin
      exact hb.appDir ((List.append_inj' hin rfl).1 ▸ List.prefix_rfl)
  unfold entries
  refine hnames.bind ?_
  rintro names _ ⟨rfl, hlisted⟩
  refine .mapM (fun name hname s' hs' => ?_) ⟨hs, rfl⟩
  have hlisted' : s'.disk.names b.appDir = .ok names := hs'.2 ▸ hlisted
  have hmem : name ∈ names := (List.mergeSort_perm _ _).mem_iff.1 hname
  exact (entry_lasts hs'.1 hlisted' hmem).mono fun _ _ h => ⟨h.1, h.2.trans hs'.2⟩

theorem render_lasts (hb : b.Apart here) (hs : s.Fit here) (icon : String) (libraries : List Path) :
    Work.Lasts ends (b.afterCopies here) (b.afterCopies here) (b.render icon libraries)
      (fun _ s' => s'.Fit here ∧ s'.disk = s.disk) s := by
  unfold render
  split_ifs
  · exact .throw _
  · exact (entries_lasts hb hs).bind fun _ _ h => .pure h

theorem prepare_lasts (hb : b.Apart here) (hs : s.Fit here) :
    Work.Lasts (b.searchable here) .all (b.afterOutput here) b.prepare
      (fun _ s' => s'.Fit here ∧ Searched b.systemDirs s.disk s'.disk) s := by
  unfold prepare
  refine (icon_lasts hs).withGrowth.bind fun icon s₁ ⟨h₁, hgrows₁⟩ => ?_
  refine .get_bind ?_ fun s' h => by rw [h]
  rw [h₁.here]
  refine (stageLibraries_lasts hb h₁).bind fun libraries s₂ ⟨h₂, hsearched⟩ => ?_
  refine (render_lasts hb h₂ icon libraries).bind fun text s₃ ⟨h₃, hdisk⟩ => ?_
  have hmade : Work.Lasts (b.searchable here) (b.afterCopies here) (b.afterOutput here)
      (Work.onDisk (DiskWork.ensureDirs b.outputDir)) (fun _ s' => s'.Fit here) s₃ :=
    Work.Lasts.ensureDirs h₃ subset_rfl ⟨Set.empty_subset _, subset_rfl⟩
  refine hmade.withGrowth.bind fun _ s₄ ⟨h₄, hgrows₄⟩ => ?_
  exact .pure ⟨h₄, hsearched.mono hgrows₁ (hdisk ▸ hgrows₄)⟩

theorem publish_lasts (hs : s.Fit here) (text : String) :
    Work.Lasts ends (b.afterOutput here) .empty (b.publish text) (fun _ s' => s'.Fit here) s := by
  unfold publish
  have hwrite : Work.Lasts ends (b.afterOutput here) .empty
      (Work.onDisk (DiskWork.write b.scriptPath (Text.toBytes text))) (fun _ s' => s'.Fit here) s :=
    Work.Lasts.write hs (Set.mem_singleton _) (Extent.empty_le _) (Set.notMem_empty _)
  refine hwrite.bind fun _ _ h => ?_
  split_ifs
  · exact .pure h
  · exact .throw _

theorem steps_lasts (hb : b.Apart here) (hs : s.Fit here) :
    Work.Lasts (b.searchable here) .all .empty b.steps
      (fun _ s' => s'.Fit here ∧ Searched b.systemDirs s.disk s'.disk) s := by
  unfold steps
  refine (prepare_lasts hb hs).bind fun text s₁ ⟨h₁, hsearched⟩ => ?_
  exact (publish_lasts h₁ text).withGrowth.mono fun _ s₂ h₂ =>
    ⟨h₂.1, hsearched.mono (refl_of _ s.disk) h₂.2⟩

theorem build_lasts (hb : b.Apart here) (hs : s.Fit here) :
    Work.Lasts (b.searchable here) .all .empty b.build
      (fun _ s' => s'.Fit here ∧ Searched b.systemDirs s.disk s'.disk) s := by
  unfold build
  refine (Work.Lasts.note hs _).bind fun _ s₁ ⟨h₁, hdisk₁⟩ => ?_
  -- only a build that finds the application's directory gets past the question for it
  cases hdir : s₁.disk.isDir b.appDir with
  | error f =>
    intro a s' hrun
    rw [Work.bind_of_error (Work.ask_of_error hdir)] at hrun
    exact absurd (congrArg Prod.fst hrun) nofun
  | ok isDir =>
    cases isDir with
    | false =>
      intro a s' hrun
      rw [Work.bind_of_ok (Work.ask_of_ok hdir)] at hrun
      exact absurd (congrArg Prod.fst hrun) nofun
    | true =>
      have hask : Work.Lasts (b.searchable here) .all .all (Work.ask (·.isDir b.appDir))
          (fun isDir s' => s' = s₁ ∧ s₁.disk.isDir b.appDir = .ok isDir) s₁ := by
        refine .ask fun isDir hisDir D _ hgrows => ?_
        obtain rfl := Except.ok.inj (hdir.symm.trans hisDir)
        exact Disk.isDir_grown h₁.sound.linkFree hgrows hdir
      refine hask.bind ?_
      rintro isDir _ ⟨rfl, hisDir⟩
      obtain rfl := Except.ok.inj (hdir.symm.trans hisDir)
      change Work.Lasts _ _ _ (Work.onFailure b.steps report >>= _) _ _
      refine ((steps_lasts hb h₁).onFailure report).bind fun artifact s₂ ⟨h₂, hsearched⟩ => ?_
      refine (Work.Lasts.note h₂ _).bind fun _ s₃ ⟨h₃, hdisk₃⟩ => ?_
      rw [hdisk₁, ← hdisk₃] at hsearched
      exact .pure ⟨h₃, hsearched⟩

/-- Where the libraries were found although the output directory is there, the search comes to no
directory below it with a name that is too long. -/
theorem searchable_of_searched (hb : b.Apart here) (hD : D.Sound) (hhere : D.here = here)
    (hout : D.tree.get? (b.outputDir.place here) = some .dir)
    (h : Searched b.systemDirs D D) : D ∈ b.searchable here := by
  intro name hname dir hreaches hlong
  obtain ⟨d, paths, hbefore, hafter, hfound⟩ := h
  have hdirs : ∀ place ∈ {place | place <+: b.outputDir.place here}, ∀ above,
      above <+: place → d.tree.get? above = some .dir := fun place hplace above habove =>
    hbefore.tree.get?_dir (hD.closed.above hout (habove.trans hplace))
  have hchild : Disk.Overlong d.here {place | place <+: b.outputDir.place here}
      (dir.child name) := by
    rw [overlong_child hname, hbefore.here, hhere]
    exact hlong
  obtain ⟨f, herror⟩ :=
    Disk.isFile_of_overlong hchild (hb.dots_notMem_child hname hreaches.mem) hdirs
  have hreaches' := hreaches.of_grown (hbefore.tree.linkFree hD.linkFree) hafter
  obtain ⟨found, hsome⟩ := findIn_of_findLibraries hfound name hname
  exact findIn_ne_ok hreaches' herror found hsome

/-- The directory for the script is there when the build has succeeded. -/
theorem get?_outputDir_of_build (hs : s.Quiet) (hd : s.disk.Sound) {artifact : Artifact}
    {s₁ : Session} (h : b.build s = (.ok artifact, s₁)) (hclosed : s₁.disk.tree.Closed) :
    s₁.disk.tree.get? (b.outputDir.place s.disk.here) = some .dir := by
  have hends := b.build_ends hd.linkFree
  rw [h] at hends
  cases hends with
  | written _ _ hfile =>
    refine hclosed _ scriptName fun hnone => ?_
    have hscript := hfile (hs.notMem_logPlaces _)
    rw [scriptPlace_eq, FileTree.fileAt?, hnone] at hscript
    contradiction

/-- The script does not go below the directory in which the application's build is expected. -/
theorem not_prefix_defaultAppDir (b : Builder) {projectDir : Path}
    (h : projectDir.place here = b.projectDir.place here) :
    ¬ (defaultAppDir b.config.variant projectDir).place here <+: b.outputDir.place here := by
  have hplain : ∀ part v, IsPlain part → ∀ name ∈ buildDir part v, IsPlain name := by
    intro part v hpart
    have hv : IsPlain v.dirName := by cases v <;> decide
    have hnames : IsPlain "build" ∧ IsPlain "windows" ∧ IsPlain "x64" := by decide
    simp [buildDir, hpart, hv, hnames]
  rw [defaultAppDir, outputDir, Path.place_descend (hplain _ _ (by decide)),
    Path.place_descend (hplain _ _ (by decide)), h, List.prefix_append_right_inj]
  cases b.config.variant <;> decide

/-- A build that succeeded succeeds once more, with the same artifact and without a change of the
disk, exactly when the search for the libraries comes to no directory with a name that is too long
right below the output directory or one above it. The directory in which the application's build is
expected is one that the script does not go into. -/
theorem build_again_iff (hb : b.Apart s.disk.here) (hs : s.Quiet) (hd : s.disk.Sound)
    {artifact : Artifact} {s₁ : Session} (h : b.build s = (.ok artifact, s₁)) :
    ((∃ s₂, b.build s₁ = (.ok artifact, s₂) ∧ s₂.disk = s₁.disk) ↔
      ∀ name ∈ libraryNames, ∀ dir, Reaches s₁.disk name b.systemDirs dir →
        ¬ b.OverlongBelow s.disk.here dir) ∧
    ∀ p : Path, p.place s.disk.here = b.projectDir.place s.disk.here →
      ¬ (defaultAppDir b.config.variant p).place s.disk.here <+: b.outputDir.place s.disk.here := by
  refine ⟨?_, fun p hp => b.not_prefix_defaultAppDir hp⟩
  obtain ⟨⟨hfit, -⟩, hlast⟩ := build_lasts hb ⟨hs, hd, rfl⟩ artifact s₁ h
  constructor
  · rintro ⟨s₂, hagain, hdisk⟩
    have hsearched := (build_lasts hb hfit artifact s₂ hagain).1.2
    rw [hdisk] at hsearched
    have hout := get?_outputDir_of_build hs hd h hfit.sound.closed
    exact searchable_of_searched hb hfit.sound hfit.here hout hsearched
  · intro hsearch
    have hrepeats := (hlast s₁.disk (refl_of _ s₁.disk)).2 hsearch
    obtain ⟨s₂, hagain, -, hdisk⟩ := hrepeats s₁ hfit.quiet rfl
    exact ⟨s₂, hagain, hdisk⟩

theorem sound_appSession : appSession.disk.Sound where
  linkFree := (FileTree.grows_put_dir rfl).linkFree FileTree.linkFree_empty
  closed := FileTree.closed_empty.put rfl fun _ => rfl
  here := rfl

theorem quiet_begin (d : Disk) (temp : Path) (stamp : String) :
    (Session.begin d temp stamp).Quiet := nofun

/-- A session on a disk with an application and one of the libraries. -/
def stockedSession : Session :=
  let dirs := (FileTree.empty.put ["app"] .dir).put ["sys"] .dir
  .begin ⟨dirs.put ["sys", "msvcp140.dll"] (.file ⟨#[77, 90]⟩), []⟩ ⟨.root, []⟩ "now"

theorem sound_stockedSession : stockedSession.disk.Sound where
  linkFree := by
    refine (FileTree.grows_put_file _ (.inl rfl)).1.linkFree ?_
    exact (FileTree.grows_put_dir rfl).linkFree sound_appSession.linkFree
  closed := by
    have hdirs : ((FileTree.empty.put ["app"] .dir).put ["sys"] .dir).Closed :=
      sound_appSession.closed.put rfl fun _ => rfl
    exact hdirs.put rfl nofun
  here := rfl

theorem build_again_iff_stocked : ∃ c b artifact s₁ s₂,
    resolve ⟨.empty, []⟩ wordyDescriptor .default ⟨.root, []⟩ = .ok c ∧
      (Builder.make c ⟨.root, ["app"]⟩ ⟨.root, ["project"]⟩ ⟨.root, ["tmp"]⟩ [⟨.root, ["sys"]⟩]
        "log" stockedSession).1 = .ok b ∧
      b.Apart [] ∧ stockedSession.Quiet ∧ stockedSession.disk.Sound ∧
      b.build stockedSession = (.ok artifact, s₁) ∧
      b.build s₁ = (.ok artifact, s₂) ∧ s₂.disk = s₁.disk := by
  obtain ⟨c, hc⟩ := resolve_wordy
  let b : Builder :=
    ⟨c, ⟨.root, ["app"]⟩, ⟨.root, ["project"]⟩, ⟨.root, ["tmp"]⟩, [⟨.root, ["sys"]⟩], "log"⟩
  have hb : b.Apart [] := by
    refine ⟨?_, ?_, ?_, ?_⟩ <;>
      · cases hc
        decide +kernel
  have hquiet : stockedSession.Quiet := quiet_begin _ _ _
  have hunmarked : b.Unmarked [] := by
    cases hc
    constructor <;> decide +kernel
  have hdraft : (b.draft? stockedSession).isSome = true := by
    cases hc
    decide +kernel
  obtain ⟨s₁, hs₁⟩ := Option.isSome_iff_exists.1 hdraft
  obtain ⟨artifact, hbuild⟩ := build_of_draft? hunmarked sound_stockedSession.linkFree hs₁
  have hshort : ∀ name ∈ libraryNames, ∀ dir, Reaches s₁.disk name b.systemDirs dir →
      ¬ b.OverlongBelow [] dir := by
    rintro name - dir hreaches ⟨-, before, long, after, hparts, hlong, -⟩
    obtain rfl := List.mem_singleton.1 hreaches.mem
    have hin : long ∈ ["sys"] := by
      change long ∈ (Path.mk .root ["sys"]).parts
      rw [hparts]
      simp
    rw [List.mem_singleton.1 hin] at hlong
    exact absurd hlong (by decide)
  obtain ⟨s₂, hagain, hdisk⟩ :=
    (build_again_iff hb hquiet sound_stockedSession hbuild).1.2 hshort
  exact ⟨c, b, artifact, s₁, s₂, hc, rfl, hb, hquiet, sound_stockedSession, hbuild, hagain, hdisk⟩

/-- A directory that would lie in the one for the script, under a name that is too long. -/
def belowOutput : Path :=
  ⟨.root, ["project", "build", "windows", "x64", "installer", "Debug", longName]⟩

/-- Whether a build was refused for a name that is too long. -/
def isTooLong : Except Failure Artifact → Bool
  | .error (.script (.broken (.fault f))) => f.code == .nameTooLong
  | _ => false

/-- The first build makes the directory that lets the second one come to the name. -/
theorem build_again_tooLong : ∃ c b artifact s₁ path,
    resolve ⟨.empty, []⟩ wordyDescriptor .default ⟨.root, []⟩ = .ok c ∧
      (Builder.make c ⟨.root, ["app"]⟩ ⟨.root, ["project"]⟩ ⟨.root, ["tmp"]⟩ [belowOutput] "log"
        appSession).1 = .ok b ∧
      b.Apart [] ∧ appSession.Quiet ∧ appSession.disk.Sound ∧
      b.build appSession = (.ok artifact, s₁) ∧
      (b.build s₁).1 = .error (.script (.broken (.fault ⟨.nameTooLong, path⟩))) := by
  obtain ⟨c, hc⟩ := resolve_wordy
  let b : Builder :=
    ⟨c, ⟨.root, ["app"]⟩, ⟨.root, ["project"]⟩, ⟨.root, ["tmp"]⟩, [belowOutput], "log"⟩
  have hb : b.Apart [] := by
    refine ⟨?_, ?_, ?_, ?_⟩ <;>
      · cases hc
        decide +kernel
  have hunmarked : b.Unmarked [] := by
    cases hc
    constructor <;> decide +kernel
  have hruns : (b.draft? appSession).map (fun s₁ => isTooLong (b.build s₁).1) = some true := by
    cases hc
    decide +kernel
  obtain ⟨s₁, hs₁, hlong⟩ := Option.map_eq_some_iff.1 hruns
  obtain ⟨artifact, hbuild⟩ := build_of_draft? hunmarked sound_appSession.linkFree hs₁
  obtain ⟨path, hpath⟩ : ∃ path,
      (b.build s₁).1 = .error (.script (.broken (.fault ⟨.nameTooLong, path⟩))) := by
    generalize (b.build s₁).1 = r at hlong ⊢
    unfold isTooLong at hlong
    split at hlong
    · rename_i f
      obtain ⟨code, path⟩ := f
      obtain rfl : code = .nameTooLong := by simpa using hlong
      exact ⟨path, rfl⟩
    · contradiction
  exact ⟨c, b, artifact, s₁, path, hc, rfl, hb, quiet_begin _ _ _, sound_appSession, hbuild, hpath⟩

end Builder

end SetupScript
