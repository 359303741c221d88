import SetupScript.Proofs.Build.Remaining

/-!
# Builds in either order

Two builds with different scripts can share the directory that files are staged in, the icon and the
libraries. What both write is the same there (`Builder.get?_eq_of_shared`), so each of them stands
on the disk that they leave together, and can be made anew below it. If one build after the other
succeeds, they succeed in the other order too, with the same scripts and the same disk in the end
(`Builder.build_comm`).
-/

namespace SetupScript.Builder

open Staging

variable {a b : Builder} {here : Location} {d d' U : Disk} {paths : List Path}
  {entries entries' : List AppEntry} {app : Location} {name : String}

/-! ## Where a build writes -/

theorem Secluded.cases_of_mem_madeDirs (hb : b.Secluded here) {place : Location}
    (h : place ∈ b.madeDirs here) : place = (b.variantDir here).place here ∨
      place <+: (b.stagingDir here).place here ∨ place <+: b.outputDir.place here := by
  rcases h with hin | hin
  · have habove := Path.prefix_of_mem_placesUp hb.variantDots hin
    rw [variantPlace_eq, List.prefix_concat_iff, ← variantPlace_eq] at habove
    exact habove.imp_right .inl
  · exact .inr (.inr (Path.prefix_of_mem_placesUp hb.outputDir hin))

/-- A build makes no directory in one that its own do not lie in. -/
theorem Secluded.notMem_madeDirs (hb : b.Secluded here)
    (hstaging : ¬ app <+: (b.stagingDir here).place here)
    (hout : ¬ app <+: b.outputDir.place here) (name : String) :
    app ++ [name] ∉ b.madeDirs here := by
  intro hin
  rcases hb.cases_of_mem_madeDirs hin with heq | habove | habove
  · rw [variantPlace_eq] at heq
    exact hstaging (by rw [(List.append_singleton_inj.1 heq).1])
  · exact hstaging ((List.prefix_append _ _).trans habove)
  · exact hout ((List.prefix_append _ _).trans habove)

theorem mem_ownFiles_concat : app ++ [name] ∈ b.ownFiles here paths ↔
    b.config.usesDefaultIcon = true ∧ app = (b.stagingDir here).place here ∧ name = iconName ∨
      (app = (b.variantDir here).place here ∧ ∃ p ∈ paths, name = p.name) ∨
        app = b.outputDir.place here ∧ name = scriptName := by
  have hcopies : app ++ [name] ∈ copyPlaces here (b.variantDir here) paths ↔
      app = (b.variantDir here).place here ∧ ∃ p ∈ paths, name = p.name := by
    constructor
    · rintro ⟨p, hp, heq⟩
      obtain ⟨happ, hname⟩ := List.append_singleton_inj.1 heq
      exact ⟨happ, p, hp, hname⟩
    · rintro ⟨happ, p, hp, hname⟩
      exact ⟨p, hp, List.append_singleton_inj.2 ⟨happ, hname⟩⟩
  rw [ownFiles, Set.mem_ofPred_eq, iconPlaces, Set.mem_ofPred_eq, iconPlace_eq, scriptPlace_eq,
    List.append_singleton_inj, List.append_singleton_inj, hcopies]

theorem exists_concat_of_mem_ownFiles {place : Location} (h : place ∈ b.ownFiles here paths) :
    ∃ app name, place = app ++ [name] := by
  rcases h with ⟨-, hicon⟩ | ⟨p, -, hcopy⟩ | hscript
  · exact ⟨_, _, hicon.trans iconPlace_eq⟩
  · exact ⟨_, _, hcopy⟩
  · exact ⟨_, _, hscript.trans scriptPlace_eq⟩

/-- What one builder stages and writes does not lie in the application's directory of another. -/
structure Spares (b other : Builder) (here : Location) : Prop where
  stagingDir : ¬ other.appDir.place here <+: (b.stagingDir here).place here
  outputDir : ¬ other.appDir.place here <+: b.outputDir.place here

/-- Two builders that write different scripts, each outside of the other's application. -/
structure Separate (a b : Builder) (here : Location) : Prop where
  left : a.Secluded here
  right : b.Secluded here
  systemDirs : a.systemDirs = b.systemDirs
  outputDir : a.outputDir.place here ≠ b.outputDir.place here
  leftSpares : a.Spares b here
  rightSpares : b.Spares a here

/-- Neither application is the directory that the other builder stages libraries in. -/
structure Independent (a b : Builder) (here : Location) : Prop extends a.Separate b here where
  leftVariant : b.appDir.place here ≠ (a.variantDir here).place here
  rightVariant : a.appDir.place here ≠ (b.variantDir here).place here

theorem Independent.symm (h : a.Independent b here) : b.Independent a here :=
  ⟨⟨h.right, h.left, h.systemDirs.symm, h.outputDir.symm, h.rightSpares, h.leftSpares⟩,
    h.rightVariant, h.leftVariant⟩

/-- No library is looked for where a build writes. -/
theorem Apart.library_notMem_ownFiles (hb : b.Apart here) (hname : name ∈ libraryNames)
    {dir : Path} (hdir : dir ∈ b.systemDirs) :
    (dir.child name).place here ∉ b.ownFiles here paths := by
  rw [place_child hname, mem_ownFiles_concat]
  rintro (⟨-, -, rfl⟩ | ⟨happ, -⟩ | ⟨-, rfl⟩)
  · exact absurd hname (by decide)
  · exact hb.variantDir dir hdir happ
  · exact absurd hname (by decide)

theorem Independent.undisturbed (h : a.Independent b here) :
    a.Undisturbed here paths (a.madeDirs here ∪ b.madeDirs here)
      (a.ownFiles here paths ∪ b.ownFiles here paths) where
  libraries name hname dir hdir := by
    rintro (hin | hin)
    · exact h.left.library_notMem_ownFiles hname hdir hin
    · exact h.right.library_notMem_ownFiles hname (h.systemDirs ▸ hdir) hin
  dirs name := by
    rintro (hin | hin)
    · exact h.left.notMem_madeDirs h.left.stagingDir h.left.appDir name hin
    · exact h.right.notMem_madeDirs h.rightSpares.stagingDir h.rightSpares.outputDir name hin
  files name := by
    rintro (hin | hin)
    · rcases mem_ownFiles_concat.1 hin with ⟨-, happ, -⟩ | ⟨happ, p, hp, hname⟩ | ⟨happ, -⟩
      · exact absurd (by rw [happ]) h.left.stagingDir
      · exact ⟨p, hp, List.append_singleton_inj.2 ⟨happ, hname⟩⟩
      · exact absurd (by rw [happ]) h.left.appDir
    · rcases mem_ownFiles_concat.1 hin with ⟨-, happ, -⟩ | ⟨happ, -⟩ | ⟨happ, -⟩
      · exact absurd (by rw [happ]) h.rightSpares.stagingDir
      · exact absurd happ h.rightVariant
      · exact absurd (by rw [happ]) h.rightSpares.outputDir

/-! ## Two builds -/

section Shared

variable (hd : d.Sound) (hhere : d.here = here) (h : b.Stands here paths entries d)

include hd hhere h

theorem Stands.get?_icon (hdefault : b.config.usesDefaultIcon = true) :
    d.tree.get? ((b.stagingDir here).place here ++ [iconName]) = some (.file Icon.file) := by
  have hget := Disk.get?_of_read hd.linkFree (h.icon hdefault)
  rwa [hhere, iconPlace_eq] at hget

theorem Stands.get?_copy {p : Path} (hp : p ∈ paths) : ∃ bytes, d.read p = .ok bytes ∧
    d.tree.get? ((b.variantDir here).place here ++ [p.name]) = some (.file bytes) := by
  obtain ⟨bytes, hread, hcopied⟩ := h.copies p hp
  have hget := Disk.get?_of_read hd.linkFree hcopied
  rw [hhere, place_copy (isPlain_of_found h.found p hp)] at hget
  exact ⟨bytes, hread, hget⟩

end Shared

/-- What two builds with different scripts both write is the same. -/
theorem get?_eq_of_shared (hout : a.outputDir.place here ≠ b.outputDir.place here)
    (hd : d.Sound) (hhere : d.here = here) (ha : a.Stands here paths entries d)
    (hU : U.Sound) (hhere' : U.here = here) (hb : b.Stands here paths entries' U)
    (hsources : ∀ p ∈ paths, ∀ bytes, d.read p = .ok bytes → U.read p = .ok bytes)
    (hleft : app ++ [name] ∈ a.ownFiles here paths)
    (hright : app ++ [name] ∈ b.ownFiles here paths) :
    d.tree.get? (app ++ [name]) = U.tree.get? (app ++ [name]) := by
  have hnames : ∀ p ∈ paths, p.name ≠ iconName ∧ p.name ≠ scriptName := by
    intro p hp
    have hname := name_mem_of_findLibraries (fun _ h => h) ha.found p hp
    constructor <;>
      · intro heq
        rw [heq] at hname
        exact absurd hname (by decide)
  rcases mem_ownFiles_concat.1 hleft with
      ⟨hicon, happ, hname⟩ | ⟨happ, p, hp, hname⟩ | ⟨happ, hname⟩ <;>
    rcases mem_ownFiles_concat.1 hright with
      ⟨hicon', happ', hname'⟩ | ⟨happ', q, hq, hname'⟩ | ⟨happ', hname'⟩
  · have hget := ha.get?_icon hd hhere hicon
    have hget' := hb.get?_icon hU hhere' hicon'
    rw [← happ] at hget
    rw [← happ'] at hget'
    rw [hname, hget, hget']
  · exact absurd (hname'.symm.trans hname) (hnames q hq).1
  · exact absurd (hname'.symm.trans hname) (by decide)
  · exact absurd (hname.symm.trans hname') (hnames p hp).1
  · obtain rfl : p = q :=
      List.inj_on_of_nodup_map (nodup_of_found ha.found) hp hq (hname.symm.trans hname')
    obtain ⟨bytes, hread, hget⟩ := ha.get?_copy hd hhere hp
    obtain ⟨bytes', hread', hget'⟩ := hb.get?_copy hU hhere' hp
    obtain rfl := Except.ok.inj ((hsources p hp bytes hread).symm.trans hread')
    rw [happ, hname, hget, ← happ, happ', hget']
  · exact absurd (hname.symm.trans hname') (hnames p hp).2
  · exact absurd (hname'.symm.trans hname) (by decide)
  · exact absurd (hname'.symm.trans hname) (hnames q hq).2
  · exact absurd (happ.symm.trans happ') hout

/-- The application's directory of one builder is not made by the other. -/
theorem Independent.isDir_before (h : a.Independent b here) {files : Set Location} (hd : d.Sound)
    (hhere : d.here = here) (hU : U.Sound) (hgrows : d.Grows (a.madeDirs here) files U)
    (happ : U.isDir b.appDir = .ok true) : d.isDir b.appDir = .ok true := by
  refine Disk.isDir_below hU hd hgrows h.right.appDots happ ?_
  have hget := Disk.get?_of_isDir hU happ
  have hbecomes := hgrows.tree (b.appDir.place d.here)
  rw [hgrows.here] at hget
  rw [hget] at hbecomes
  generalize d.tree.get? (b.appDir.place d.here) = e at hbecomes
  cases hbecomes with
  | same => rfl
  | made hin =>
    rw [hhere] at hin
    rcases h.left.cases_of_mem_madeDirs hin with heq | habove | habove
    · exact absurd heq h.leftVariant
    · exact absurd habove h.leftSpares.stagingDir
    · exact absurd habove h.leftSpares.outputDir

/-- The first of two builds stands on the disk that the second one leaves. -/
theorem Independent.stands (h : a.Independent b here) (hd : d.Sound) (hhere : d.here = here)
    (ha : a.Stands here paths entries d)
    (hturns : d.Turns (b.madeDirs here) (b.ownFiles here paths) U)
    (hb : b.Stands here paths entries' U) : a.Stands here paths entries U := by
  have hhere' : U.here = here := hturns.grows.here.trans hhere
  have hkept : a.Undisturbed here paths (a.madeDirs here ∪ b.madeDirs here)
      (a.ownFiles here paths ∪ b.ownFiles here paths) := h.undisturbed
  have hfound : findLibraries a.systemDirs U libraryNames = .ok paths := h.systemDirs ▸ hb.found
  have hsources : ∀ p ∈ paths, ∀ bytes, d.read p = .ok bytes → U.read p = .ok bytes := by
    intro p hp bytes hread
    obtain ⟨name, hname, dir, hdir, rfl, -⟩ := exists_of_findLibraries hfound p hp
    refine Disk.read_grown hd.linkFree hturns.grows (fun hin => ?_) hread
    rw [hhere] at hin
    exact hkept.libraries name hname dir hdir (.inr hin)
  have hgrows : d.Grows (b.madeDirs here)
      (b.ownFiles here paths \ {place | d.tree.get? place = U.tree.get? place}) U :=
    ⟨hturns.grows.here, hturns.grows.tree.diff_files fun _ hsame => hsame⟩
  refine ha.grown hd hhere hgrows ⟨?_, ?_, ?_⟩ ?_ hfound
  · exact fun name hname dir hdir hin => hkept.libraries name hname dir hdir (.inr hin.1)
  · exact fun name hin => hkept.dirs name (.inr hin)
  · exact fun name hin => hkept.files name (.inr hin.1)
  · rintro place hown ⟨hin, hdiffers⟩
    obtain ⟨app, name, rfl⟩ := exists_concat_of_mem_ownFiles hown
    exact hdiffers
      (get?_eq_of_shared h.outputDir hd hhere ha hturns.sound hhere' hb hsources hown hin)

section Later

variable {d₁ d₂ d₃ d₄ : Disk} {paths' : List Path} (hb : b.Secluded here) (hd : d.Sound)
  (hhere : d.here = here) (h : b.Makes here paths entries d d₁ d₂ d₃ d₄ d')

include hb hd hhere h

/-- The libraries that can be found after a build are the ones that it has found. -/
theorem Makes.paths_eq (hfound : findLibraries b.systemDirs d' libraryNames = .ok paths') :
    paths = paths' := by
  obtain ⟨h₁, h₂, -⟩ := h.turns_each hd hhere
  obtain ⟨-, hlater, -⟩ := h.turns_later hd hhere
  have hhere₂ := h₂.grows.here.trans (h₁.grows.here.trans hhere)
  refine Except.ok.inj (h.found.symm.trans ?_)
  exact findLibraries_below hb.toApart (h.turns hd hhere).sound h₂.sound hhere₂ hlater.grows
    (fun _ hname _ hdir hin => hb.library_notMem_ownFiles hname hdir (.inr hin)) hfound

/-- They can be found unless a name is too long where no directory was when they were searched. -/
theorem Makes.found_later (hsearch : ∀ name ∈ libraryNames, ∀ dir,
      Reaches d' name b.systemDirs dir → ¬ b.OverlongBelow here dir) :
    findLibraries b.systemDirs d' libraryNames = .ok paths := by
  obtain ⟨h₁, h₂, -⟩ := h.turns_each hd hhere
  obtain ⟨-, hlater, -⟩ := h.turns_later hd hhere
  have hhere₂ := h₂.grows.here.trans (h₁.grows.here.trans hhere)
  have hgrows : d₂.Grows (b.afterSearch here).dirs (b.afterSearch here).files d' := by
    refine hlater.grows.mono subset_rfl ?_
    rintro place (⟨p, hp, hplace⟩ | hplace)
    · exact .inr ⟨p.name, name_mem_of_findLibraries (fun _ h => h) h.found p hp, hplace⟩
    · exact .inl hplace
  exact findLibraries_searchable hb.toApart h₂.sound hhere₂ hgrows hsearch h.found

end Later

/-- Two builds of which one stands after the other can be made in the other order. -/
theorem Independent.swapped (h : a.Independent b here) (hd : d.Sound) (hhere : d.here = here)
    {d₁ d₂ d₃ d₄ u₁ u₂ u₃ u₄ : Disk} {paths' : List Path}
    (ha : a.Makes here paths entries d d₁ d₂ d₃ d₄ d')
    (hb : b.Makes here paths' entries' d' u₁ u₂ u₃ u₄ U)
    (hfound : findLibraries b.systemDirs U libraryNames = .ok paths') :
    paths = paths' ∧ ∃ t₁ t₂ t₃ t₄ t v₁ v₂ v₃ v₄,
      b.Makes here paths entries' d t₁ t₂ t₃ t₄ t ∧ a.Makes here paths entries t v₁ v₂ v₃ v₄ U := by
  have hturns := ha.turns hd hhere
  have hhere' := hturns.grows.here.trans hhere
  have hturns' := hb.turns hturns.sound hhere'
  have hhereU : U.here = here := hturns'.grows.here.trans hhere'
  have hfound' : findLibraries a.systemDirs d' libraryNames = .ok paths' := by
    rw [h.systemDirs]
    exact findLibraries_below h.right.toApart hturns'.sound hturns.sound hhere' hturns'.grows
      (fun _ hname _ hdir => h.right.library_notMem_ownFiles hname hdir) hfound
  obtain rfl : paths = paths' := ha.paths_eq h.left hd hhere hfound'
  refine ⟨rfl, ?_⟩
  have hright := hb.stands hturns.sound hhere' h.right hfound
  have hleft := h.stands hturns.sound hhere' (ha.stands hd hhere h.left hfound') hturns' hright
  have hall : d.Turns (b.madeDirs here ∪ a.madeDirs here)
      (b.ownFiles here paths ∪ a.ownFiles here paths) U :=
    (hturns.mono Set.subset_union_right Set.subset_union_right).trans
      (hturns'.mono Set.subset_union_left Set.subset_union_left)
  obtain ⟨t₁, t₂, t₃, t₄, t, hb', ht⟩ := hright.makes h.right hturns'.sound hhereU hd hall.grows
    h.symm.undisturbed (h.isDir_before hd hhere hturns.sound hturns.grows hb.appDir)
  have hbefore := hb'.turns hd hhere
  have hrest : t.Grows (a.madeDirs here) (a.ownFiles here paths) U :=
    ht.mono (fun _ hin => hin.1.resolve_left hin.2) fun _ hin => hin.1.resolve_left hin.2
  obtain ⟨v₁, v₂, v₃, v₄, v, ha', hv⟩ := hleft.makes h.left hturns'.sound hhereU hbefore.sound hrest
    (h.undisturbed.mono Set.subset_union_left Set.subset_union_left)
    (Disk.isDir_grown hd.linkFree hbefore.grows ha.appDir)
  have hafter := ha'.turns hbefore.sound (hbefore.grows.here.trans hhere)
  obtain rfl : v = U := by
    refine (hv.mono (fun _ hin => absurd hin.1 hin.2) fun _ hin => absurd hin.1 hin.2).eq ?_
    have hsteady : d.Steady v := trans_of _ hbefore.steady hafter.steady
    exact hsteady.trans hall.steady.symm
  exact ⟨t₁, t₂, t₃, t₄, t, v₁, v₂, v₃, v₄, hb', ha'⟩

/-- If one of two builds after the other succeeds, they succeed in the other order too, each with
the same script, and leave the same disk, as long as the search for the libraries comes to no
directory with a name that is too long right below the output directory of the second one or one
above it. -/
theorem build_comm {s s₁ s₂ : Session} {x y : Artifact}
    (hind : a.Independent b s.disk.here) (hs : s.Quiet) (hd : s.disk.Sound)
    (ha : a.build s = (.ok x, s₁)) (hb : b.build s₁ = (.ok y, s₂))
    (hsearch : ∀ name ∈ libraryNames, ∀ dir, Reaches s₂.disk name b.systemDirs dir →
      ¬ b.OverlongBelow s.disk.here dir) :
    ∃ t₁ t₂, b.build s = (.ok y, t₁) ∧ a.build t₁ = (.ok x, t₂) ∧ t₂.disk = s₂.disk := by
  have hfit : s.Fit s.disk.here := ⟨hs, hd, rfl⟩
  obtain ⟨hfit₁, paths, entries, _, _, _, _, hmakes, hx⟩ := build_does.steps hfit ha
  obtain ⟨-, paths', entries', _, _, _, _, hmakes', hy⟩ := build_does.steps hfit₁ hb
  have hfound : findLibraries b.systemDirs s₂.disk libraryNames = .ok paths' :=
    hmakes'.found_later hind.right hfit₁.sound hfit₁.here hsearch
  obtain ⟨rfl, t₁, t₂, t₃, t₄, t, v₁, v₂, v₃, v₄, hswapped, hswapped'⟩ :=
    hind.swapped hd rfl hmakes hmakes' hfound
  obtain ⟨r₁, hrun, rfl⟩ := build_does.run hfit ⟨paths, entries', t₁, t₂, t₃, t₄, hswapped, hy⟩
  obtain ⟨r₂, hrun', hdisk⟩ := build_does.run (build_does.steps hfit hrun).1
    ⟨paths, entries, v₁, v₂, v₃, v₄, hswapped', hx⟩
  exact ⟨r₁, r₂, hrun, hrun', hdisk⟩

/-- Two builds without marks of which one succeeds after the other. -/
theorem exists_of_drafts {s : Session} (ha : a.Unmarked s.disk.here) (hb : b.Unmarked s.disk.here)
    (ht : s.disk.tree.LinkFree) (h : ((a.draft? s).bind b.draft?).isSome = true) :
    ∃ x y s₁ s₂, a.build s = (.ok x, s₁) ∧ b.build s₁ = (.ok y, s₂) := by
  obtain ⟨s₂, hboth⟩ := Option.isSome_iff_exists.1 h
  obtain ⟨s₁, hs₁, hs₂⟩ := Option.bind_eq_some_iff.1 hboth
  obtain ⟨x, hbuild⟩ := build_of_draft? ha ht hs₁
  have hgrows := a.build_grows ht
  rw [hbuild] at hgrows
  rw [← hgrows.disk.here] at hb
  obtain ⟨y, hbuild'⟩ := build_of_draft? hb (hgrows.disk.tree.linkFree ht) hs₂
  exact ⟨x, y, s₁, s₂, hbuild, hbuild'⟩

/-- The debug and the release build of one project share the directory that files are staged in. -/
theorem build_comm_variants : ∃ c c' a b x y s₁ s₂ t₁ t₂,
    resolve ⟨.empty, []⟩ wordyDescriptor .default ⟨.root, []⟩ = .ok c ∧
      resolve ⟨.empty, []⟩ wordyDescriptor { Overrides.default with variant := .release }
        ⟨.root, []⟩ = .ok c' ∧
      (Builder.make c ⟨.root, ["app"]⟩ ⟨.root, ["project"]⟩ ⟨.root, ["tmp"]⟩ [⟨.root, ["sys"]⟩]
        "log" stockedSession).1 = .ok a ∧
      (Builder.make c' ⟨.root, ["app"]⟩ ⟨.root, ["project"]⟩ ⟨.root, ["tmp"]⟩ [⟨.root, ["sys"]⟩]
        "log" stockedSession).1 = .ok b ∧
      a.stagingDir [] = b.stagingDir [] ∧ a.Independent b [] ∧
      stockedSession.Quiet ∧ stockedSession.disk.Sound ∧
      a.build stockedSession = (.ok x, s₁) ∧ b.build s₁ = (.ok y, s₂) ∧
      b.build stockedSession = (.ok y, t₁) ∧ a.build t₁ = (.ok x, t₂) ∧ t₂.disk = s₂.disk := by
  obtain ⟨c, hc⟩ := resolve_wordy
  obtain ⟨c', hc'⟩ : ∃ c', resolve ⟨.empty, []⟩ wordyDescriptor
      { Overrides.default with variant := .release } ⟨.root, []⟩ = .ok c' := ⟨_, rfl⟩
  let a : Builder :=
    ⟨c, ⟨.root, ["app"]⟩, ⟨.root, ["project"]⟩, ⟨.root, ["tmp"]⟩, [⟨.root, ["sys"]⟩], "log"⟩
  let b : Builder := { a with config := c' }
  have hind : a.Independent b [] := by
    cases hc
    cases hc'
    refine ⟨⟨⟨⟨?_, ?_, ?_, ?_⟩, ?_, ?_, ?_⟩, ⟨⟨?_, ?_, ?_, ?_⟩, ?_, ?_, ?_⟩, ?_, ?_,
      ⟨?_, ?_⟩, ⟨?_, ?_⟩⟩, ?_, ?_⟩ <;> decide +kernel
  have hstaging : a.stagingDir [] = b.stagingDir [] := by
    cases hc
    cases hc'
    decide +kernel
  have hunmarked : a.Unmarked [] ∧ b.Unmarked [] := by
    cases hc
    cases hc'
    refine ⟨?_, ?_⟩ <;> constructor <;> decide +kernel
  have hdrafts : ((a.draft? stockedSession).bind b.draft?).isSome = true := by
    cases hc
    cases hc'
    decide +kernel
  have hquiet : stockedSession.Quiet := quiet_begin _ _ _
  obtain ⟨x, y, s₁, s₂, hbuild, hbuild'⟩ :=
    exists_of_drafts hunmarked.1 hunmarked.2 sound_stockedSession.linkFree hdrafts
  have hshort : ∀ name ∈ libraryNames, ∀ dir, Reaches s₂.disk name b.systemDirs dir →
      ¬ b.OverlongBelow [] dir := by
    rintro name - dir hreaches ⟨-, before, long, after, hparts, hlong, -⟩
    obtain rfl := List.mem_singleton.1 hreaches.mem
    have hin : long ∈ ["sys"] := by
      change long ∈ (Path.mk .root ["sys"]).parts
      rw [hparts]
      simp
    rw [List.mem_singleton.1 hin] at hlong
    exact absurd hlong (by decide)
  obtain ⟨t₁, t₂, hswapped, hswapped', hdisk⟩ :=
    build_comm hind hquiet sound_stockedSession hbuild hbuild' hshort
  exact ⟨c, c', a, b, x, y, s₁, s₂, t₁, t₂, hc, hc', rfl, rfl, hstaging, hind, hquiet,
    sound_stockedSession, hbuild, hbuild', hswapped, hswapped', hdisk⟩

/-- A build lets a second one find its application where the libraries are staged, which the second
build misses when it comes first. -/
theorem not_build_comm_staged : ∃ c a b x y s₁ s₂,
    resolve ⟨.empty, []⟩ wordyDescriptor .default ⟨.root, []⟩ = .ok c ∧
      (Builder.make c ⟨.root, ["app"]⟩ ⟨.root, ["project"]⟩ ⟨.root, ["tmp"]⟩ [] "log"
        appSession).1 = .ok a ∧
      (Builder.make c ⟨.root, ["tmp", "MyWordyToolInstaller", "Debug"]⟩ ⟨.root, ["other"]⟩
        ⟨.root, ["temp"]⟩ [] "log" appSession).1 = .ok b ∧
      a.Separate b [] ∧ appSession.Quiet ∧ appSession.disk.Sound ∧
      a.build appSession = (.ok x, s₁) ∧ b.build s₁ = (.ok y, s₂) ∧
      (b.build appSession).1 = .error (.script (.noAppDir b.appDir)) := by
  obtain ⟨c, hc⟩ := resolve_wordy
  let a : Builder := ⟨c, ⟨.root, ["app"]⟩, ⟨.root, ["project"]⟩, ⟨.root, ["tmp"]⟩, [], "log"⟩
  let b : Builder := ⟨c, ⟨.root, ["tmp", "MyWordyToolInstaller", "Debug"]⟩, ⟨.root, ["other"]⟩,
    ⟨.root, ["temp"]⟩, [], "log"⟩
  have hseparate : a.Separate b [] := by
    cases hc
    refine ⟨⟨⟨?_, ?_, ?_, ?_⟩, ?_, ?_, ?_⟩, ⟨⟨?_, ?_, ?_, ?_⟩, ?_, ?_, ?_⟩, ?_, ?_,
      ⟨?_, ?_⟩, ⟨?_, ?_⟩⟩ <;> decide +kernel
  have hunmarked : a.Unmarked [] ∧ b.Unmarked [] := by
    cases hc
    refine ⟨?_, ?_⟩ <;> constructor <;> decide +kernel
  have hdrafts : ((a.draft? appSession).bind b.draft?).isSome = true := by
    cases hc
    decide +kernel
  have hmissing : (b.build appSession).1 = .error (.script (.noAppDir b.appDir)) := by
    cases hc
    rfl
  obtain ⟨x, y, s₁, s₂, hbuild, hbuild'⟩ :=
    exists_of_drafts hunmarked.1 hunmarked.2 sound_appSession.linkFree hdrafts
  exact ⟨c, a, b, x, y, s₁, s₂, hc, rfl, rfl, hseparate, quiet_begin _ _ _, sound_appSession,
    hbuild, hbuild', hmissing⟩

/-- What the search comes to cannot be left out either: a build makes the directory that lets the
search of a second one come to a name that is too long. -/
theorem not_build_comm_tooLong : ∃ c a b x y s₁ s₂,
    resolve ⟨.empty, []⟩ wordyDescriptor .default ⟨.root, []⟩ = .ok c ∧
      (Builder.make c ⟨.root, ["app"]⟩ ⟨.root, ["other"]⟩ ⟨.root, ["tmp"]⟩ [belowOutput] "log"
        appSession).1 = .ok a ∧
      (Builder.make c ⟨.root, ["app"]⟩ ⟨.root, ["project"]⟩ ⟨.root, ["tmp"]⟩ [belowOutput] "log"
        appSession).1 = .ok b ∧
      a.Independent b [] ∧ appSession.Quiet ∧ appSession.disk.Sound ∧
      a.build appSession = (.ok x, s₁) ∧ b.build s₁ = (.ok y, s₂) ∧
      isTooLong (a.build (b.build appSession).2).1 = true := by
  obtain ⟨c, hc⟩ := resolve_wordy
  let a : Builder :=
    ⟨c, ⟨.root, ["app"]⟩, ⟨.root, ["other"]⟩, ⟨.root, ["tmp"]⟩, [belowOutput], "log"⟩
  let b : Builder := { a with projectDir := ⟨.root, ["project"]⟩ }
  have hind : a.Independent b [] := by
    cases hc
    refine ⟨⟨⟨⟨?_, ?_, ?_, ?_⟩, ?_, ?_, ?_⟩, ⟨⟨?_, ?_, ?_, ?_⟩, ?_, ?_, ?_⟩, ?_, ?_,
      ⟨?_, ?_⟩, ⟨?_, ?_⟩⟩, ?_, ?_⟩ <;> decide +kernel
  have hunmarked : a.Unmarked [] ∧ b.Unmarked [] := by
    cases hc
    refine ⟨?_, ?_⟩ <;> constructor <;> decide +kernel
  have hdrafts : ((a.draft? appSession).bind b.draft?).isSome = true := by
    cases hc
    decide +kernel
  have hruns : (b.draft? appSession).map (fun s => isTooLong (a.build s).1) = some true := by
    cases hc
    decide +kernel
  obtain ⟨t, ht, hlong⟩ := Option.map_eq_some_iff.1 hruns
  obtain ⟨z, hfirst⟩ := build_of_draft? hunmarked.2 sound_appSession.linkFree ht
  obtain ⟨x, y, s₁, s₂, hbuild, hbuild'⟩ :=
    exists_of_drafts hunmarked.1 hunmarked.2 sound_appSession.linkFree hdrafts
  exact ⟨c, a, b, x, y, s₁, s₂, hc, rfl, rfl, hind, quiet_begin _ _ _, sound_appSession, hbuild,
    hbuild', by rw [hfirst]; exact hlong⟩

end SetupScript.Builder
