import SetupScript.Proofs.Build.Listing
import SetupScript.Proofs.Build.Rebuild
import SetupScript.Proofs.Doing

/-!
# The steps of a build

What a build does to the disk when it succeeds, step by step: `Builder.build_does` says that a build
gives a script and leaves a disk exactly when its steps lead there (`Builder.Makes`).
-/

namespace SetupScript

open Work

variable {here : Location} {logger : String}

namespace Staging

/-- Files are copied into a directory one after the other, each under its own name. -/
inductive Copies (target : Path) : List Path → Disk → Disk → Prop
  | done {d : Disk} : Copies target [] d d
  | copied {source : Path} {sources : List Path} {d d₁ d' : Disk}
      (h : DiskWork.copy source (target.descend [source.name]) d = (.ok (), d₁))
      (hrest : Copies target sources d₁ d') : Copies target (source :: sources) d d'

def copyPaths (target : Path) (sources : List Path) : List Path :=
  sources.map fun source => target.descend [source.name]

theorem writeIcon_does {dir : Path} (hdir : dir.isRelative = false) :
    Does here (writeIcon logger dir) fun d path d' => path = dir.descend [iconName] ∧
      ∃ d₁, DiskWork.ensureDirs dir d = (.ok (), d₁) ∧
        d₁.writeFile (dir.descend [iconName]) Icon.file = .ok d' := by
  have hwritten : ∀ r : Record, Does here (do
      Work.onDisk (DiskWork.write (dir.descend [iconName]) Icon.file)
      Work.note r
      return dir.descend [iconName]) fun d path d' => path = dir.descend [iconName] ∧
        d.writeFile (dir.descend [iconName]) Icon.file = .ok d' := by
    intro r
    refine ((Does.write _ _).bind fun _ => (Does.pure _).note_bind r).congr fun d path d' => ?_
    constructor
    · rintro ⟨-, _, hwrite, rfl, rfl⟩
      exact ⟨rfl, hwrite⟩
    · rintro ⟨rfl, hwrite⟩
      exact ⟨(), d', hwrite, rfl, rfl⟩
  unfold writeIcon
  simp only [Path.absolute_descend hdir]
  refine ((Does.ensureDirs dir).bind fun _ => .get_bind fun _ _ => hwritten _).congr
    fun d path d' => ?_
  constructor
  · rintro ⟨-, d₁, hmade, rfl, hwrite⟩
    exact ⟨rfl, d₁, hmade, hwrite⟩
  · rintro ⟨rfl, d₁, hmade, hwrite⟩
    exact ⟨(), d₁, hmade, rfl, hwrite⟩

theorem copyAll_does {target : Path} (htarget : target.isRelative = false) :
    ∀ sources : List Path, Does here (copyAll logger target sources) fun d copies d' =>
      copies = copyPaths target sources ∧ Copies target sources d d'
  | [] => by
    refine (Does.pure []).congr fun d copies d' => and_congr_right fun _ => ?_
    constructor
    · rintro rfl
      exact .done
    · intro h
      cases h
      rfl
  | source :: sources => by
    have hcopied : ∀ r : Record, Does here (do
        Work.onDisk (DiskWork.copy source (target.descend [source.name]))
        Work.note r
        return target.descend [source.name] :: (← copyAll logger target sources))
        fun d copies d' => copies = copyPaths target (source :: sources) ∧
          Copies target (source :: sources) d d' := by
      intro r
      refine ((Does.copy source (target.descend [source.name])).bind fun _ =>
        ((copyAll_does htarget sources).bind fun copies => Does.pure _).note_bind r).congr
          fun d copies d' => ?_
      constructor
      · rintro ⟨-, d₁, hcopy, copies, _, ⟨rfl, hcopies⟩, rfl, rfl⟩
        exact ⟨rfl, .copied hcopy hcopies⟩
      · rintro ⟨rfl, hcopies⟩
        cases hcopies with
        | copied hcopy hrest => exact ⟨(), _, hcopy, _, d', ⟨rfl, hrest⟩, rfl, rfl⟩
    unfold copyAll
    simp only [Path.absolute_descend htarget]
    exact .get_bind fun _ _ => hcopied _

theorem stageLibraries_does {dirs : List Path} {target : Path}
    (htarget : target.isRelative = false) :
    Does here (stageLibraries logger dirs target) fun d libraries d' => ∃ d₁ paths,
      DiskWork.ensureDirs target d = (.ok (), d₁) ∧
      findLibraries dirs d₁ libraryNames = .ok paths ∧ Copies target paths d₁ d' ∧
        libraries = copyPaths target paths := by
  unfold stageLibraries
  refine ((Does.ensureDirs target).bind fun _ => (Does.ask _).bind fun paths =>
    copyAll_does htarget paths).congr fun d libraries d' => ?_
  constructor
  · rintro ⟨-, d₁, hmade, paths, _, ⟨hfound, rfl⟩, rfl, hcopies⟩
    exact ⟨_, paths, hmade, hfound, hcopies, rfl⟩
  · rintro ⟨d₁, paths, hmade, hfound, hcopies, rfl⟩
    exact ⟨(), d₁, hmade, paths, d₁, ⟨hfound, rfl⟩, rfl, hcopies⟩

end Staging

namespace Builder

open Staging

variable (b : Builder)

def iconPath (here : Location) : Path := (b.stagingDir here).descend [iconName]

/-- The icon that the script names. -/
def iconNamed (here : Location) : String :=
  if b.config.usesDefaultIcon then (b.iconPath here).text else b.config.iconText

/-- Only the built-in icon is staged. -/
def StagesIcon (here : Location) (d d' : Disk) : Prop :=
  if b.config.usesDefaultIcon then
    ∃ d₁, DiskWork.ensureDirs (b.stagingDir here) d = (.ok (), d₁) ∧
      d₁.writeFile (b.iconPath here) Icon.file = .ok d'
  else d' = d

/-- The entries of the application's build, from the answers of a disk. -/
def Lists (here : Location) (d : Disk) (entries : List AppEntry) : Prop :=
  ∃ names, d.names b.appDir = .ok names ∧
    List.Forall₂ (fun name e => ∃ isDir, d.isDir (b.child name) = .ok isDir ∧
      e = ⟨name, b.sourceOf here name, isDir⟩) (names.mergeSort fun m n => decide (m ≤ n)) entries

def scriptOf (here : Location) (entries : List AppEntry) (paths : List Path) : String :=
  Script.render b.config
    (b.parts (b.iconNamed here) entries (copyPaths (b.variantDir here) paths))

/-- The steps that come before the script is written, with the libraries that are found and the
entries that are listed. -/
structure Prepares (here : Location) (paths : List Path) (entries : List AppEntry)
    (d d₁ d₂ d₃ d' : Disk) : Prop where
  icon : b.StagesIcon here d d₁
  variantDir : DiskWork.ensureDirs (b.variantDir here) d₁ = (.ok (), d₂)
  found : findLibraries b.systemDirs d₂ libraryNames = .ok paths
  copies : Copies (b.variantDir here) paths d₂ d₃
  writable : b.config.signTool.all SignTool.isWritable = true
  lists : b.Lists here d₃ entries
  outputDir : DiskWork.ensureDirs b.outputDir d₃ = (.ok (), d')

/-- The steps of a build that succeeds. -/
structure Makes (here : Location) (paths : List Path) (entries : List AppEntry)
    (d d₁ d₂ d₃ d₄ d' : Disk) : Prop extends b.Prepares here paths entries d d₁ d₂ d₃ d₄ where
  appDir : d.isDir b.appDir = .ok true
  script : d₄.writeFile b.scriptPath (Text.toBytes (b.scriptOf here entries paths)) = .ok d'
  encodable : Text.isEncodable (b.scriptOf here entries paths) = true

variable {b}

theorem icon_does : Does here b.icon fun d text d' => text = b.iconNamed here ∧
    b.StagesIcon here d d' := by
  unfold icon
  cases hdefault : b.config.usesDefaultIcon with
  | false =>
    refine (Does.pure b.config.iconText).congr fun d text d' => ?_
    rw [iconNamed, StagesIcon, hdefault, if_neg Bool.false_ne_true, if_neg Bool.false_ne_true]
  | true =>
    have hwritten : Does here (do
        let path ← Staging.writeIcon b.logger (b.stagingDir here)
        return path.text) fun d text d' => text = b.iconNamed here ∧ b.StagesIcon here d d' := by
      refine ((writeIcon_does b.isRelative_stagingDir).bind fun path => .pure path.text).congr
        fun d text d' => ?_
      rw [iconNamed, StagesIcon, hdefault, if_pos rfl, if_pos rfl]
      constructor
      · rintro ⟨path, d₁, ⟨hpath, hwritten⟩, htext, hd'⟩
        subst hd' hpath
        exact ⟨htext, hwritten⟩
      · rintro ⟨htext, hwritten⟩
        exact ⟨b.iconPath here, d', ⟨rfl, hwritten⟩, htext, rfl⟩
    exact .get_bind fun s hs => hs ▸ hwritten

theorem entry_does (name : String) : Does here (b.entry name) fun d e d' =>
    (∃ isDir, d.isDir (b.child name) = .ok isDir ∧ e = ⟨name, b.sourceOf here name, isDir⟩) ∧
      d' = d := by
  unfold entry
  have hasked : ∀ isDir (s : Session), s.disk.here = here → Does here (do
      let e : AppEntry := ⟨name, ((b.appDir.descend [name]).absolute s.disk.here).text, isDir⟩
      if Script.isRenamed b.config e then
        b.note .info "Renamed %s to %s" [.text b.config.declaredExeName, .text b.config.exeName]
          Origin.executableRenamed
      return e) fun d e d' => e = ⟨name, b.sourceOf here name, isDir⟩ ∧ d' = d := by
    rintro isDir s rfl
    dsimp only
    split_ifs
    · exact (Does.pure _).note_bind _
    · exact .pure _
  refine ((Does.ask _).bind fun isDir => .get_bind (hasked isDir)).congr fun d e d' => ?_
  constructor
  · rintro ⟨isDir, _, ⟨hisDir, rfl⟩, he, rfl⟩
    exact ⟨⟨isDir, hisDir, he⟩, rfl⟩
  · rintro ⟨⟨isDir, hisDir, he⟩, rfl⟩
    exact ⟨isDir, _, ⟨hisDir, rfl⟩, he, rfl⟩

theorem entries_does : Does here b.entries fun d entries d' => b.Lists here d entries ∧ d' = d := by
  rw [entries_eq]
  refine ((Does.ask _).bind fun names => Does.mapM entry_does _).congr fun d entries d' => ?_
  constructor
  · rintro ⟨names, _, ⟨hnames, rfl⟩, hentries, rfl⟩
    exact ⟨⟨names, hnames, hentries⟩, rfl⟩
  · rintro ⟨⟨names, hnames, hentries⟩, rfl⟩
    exact ⟨names, _, ⟨hnames, rfl⟩, hentries, rfl⟩

theorem render_does (icon : String) (libraries : List Path) :
    Does here (b.render icon libraries) fun d text d' =>
      b.config.signTool.all SignTool.isWritable = true ∧ (∃ entries, b.Lists here d entries ∧
        text = Script.render b.config (b.parts icon entries libraries)) ∧ d' = d := by
  unfold render
  cases hwritable : b.config.signTool.all SignTool.isWritable with
  | false => exact (Does.throw_bind _ _).congr fun d text d' => by simp
  | true =>
    refine (entries_does.bind fun entries => .pure _).congr fun d text d' => ?_
    constructor
    · rintro ⟨entries, _, ⟨hlists, rfl⟩, rfl, rfl⟩
      exact ⟨rfl, ⟨entries, hlists, rfl⟩, rfl⟩
    · rintro ⟨-, ⟨entries, hlists, rfl⟩, rfl⟩
      exact ⟨entries, _, ⟨hlists, rfl⟩, rfl, rfl⟩

theorem prepare_does : Does here b.prepare fun d text d' => ∃ paths entries d₁ d₂ d₃,
    b.Prepares here paths entries d d₁ d₂ d₃ d' ∧ text = b.scriptOf here entries paths := by
  have hstaged : ∀ icon (s : Session), s.disk.here = here → Does here (do
      let staged := (b.stagingDir s.disk.here).descend [b.config.variant.dirName]
      let libraries ← stageLibraries b.logger b.systemDirs staged
      let text ← b.render icon libraries
      Work.onDisk (DiskWork.ensureDirs b.outputDir)
      return text) fun d text d' => ∃ paths entries d₂ d₃,
        DiskWork.ensureDirs (b.variantDir here) d = (.ok (), d₂) ∧
        findLibraries b.systemDirs d₂ libraryNames = .ok paths ∧
        Copies (b.variantDir here) paths d₂ d₃ ∧
        b.config.signTool.all SignTool.isWritable = true ∧ b.Lists here d₃ entries ∧
        DiskWork.ensureDirs b.outputDir d₃ = (.ok (), d') ∧ text = Script.render b.config
          (b.parts icon entries (copyPaths (b.variantDir here) paths)) := by
    rintro icon s rfl
    refine ((stageLibraries_does b.isRelative_variantDir).bind fun libraries =>
      (render_does icon libraries).bind fun text => (Does.ensureDirs b.outputDir).bind fun _ =>
        .pure text).congr fun d text d' => ?_
    constructor
    · rintro ⟨_, d₃, ⟨d₂, paths, hmade, hfound, hcopies, rfl⟩, _, _,
        ⟨hwritable, ⟨entries, hlists, rfl⟩, rfl⟩, -, _, hout, rfl, rfl⟩
      exact ⟨paths, entries, d₂, _, hmade, hfound, hcopies, hwritable, hlists, hout, rfl⟩
    · rintro ⟨paths, entries, d₂, d₃, hmade, hfound, hcopies, hwritable, hlists, hout, rfl⟩
      exact ⟨_, d₃, ⟨d₂, paths, hmade, hfound, hcopies, rfl⟩, _, d₃,
        ⟨hwritable, ⟨entries, hlists, rfl⟩, rfl⟩, (), d', hout, rfl, rfl⟩
  unfold prepare
  refine (icon_does.bind fun icon => .get_bind (hstaged icon)).congr fun d text d' => ?_
  constructor
  · rintro ⟨_, d₁, ⟨rfl, hicon⟩, paths, entries, d₂, d₃, hmade, hfound, hcopies, hwritable, hlists,
      hout, rfl⟩
    exact ⟨paths, entries, d₁, d₂, d₃,
      ⟨hicon, hmade, hfound, hcopies, hwritable, hlists, hout⟩, rfl⟩
  · rintro ⟨paths, entries, d₁, d₂, d₃, h, rfl⟩
    exact ⟨_, d₁, ⟨rfl, h.icon⟩, paths, entries, d₂, d₃, h.variantDir, h.found, h.copies,
      h.writable, h.lists, h.outputDir, rfl⟩

theorem publish_does (text : String) : Does here (b.publish text) fun d artifact d' =>
    d.writeFile b.scriptPath (Text.toBytes text) = .ok d' ∧ Text.isEncodable text = true ∧
      artifact = ⟨b.scriptPath, text⟩ := by
  have hended : Does here (if Text.isEncodable text then pure (⟨b.scriptPath, text⟩ : Artifact)
      else throw (.defect .unencodable)) fun d artifact d' =>
        d' = d ∧ Text.isEncodable text = true ∧ artifact = ⟨b.scriptPath, text⟩ := by
    cases Text.isEncodable text with
    | false => exact (Does.throw _).congr fun d artifact d' => by simp
    | true => exact (Does.pure _).congr fun d artifact d' => by simp [and_comm]
  unfold publish
  refine ((Does.write _ _).bind fun _ => hended).congr fun d artifact d' => ?_
  constructor
  · rintro ⟨-, _, hwrite, rfl, hended⟩
    exact ⟨hwrite, hended⟩
  · rintro ⟨hwrite, hended⟩
    exact ⟨(), d', hwrite, rfl, hended⟩

theorem steps_does : Does here b.steps fun d artifact d' => ∃ paths entries d₁ d₂ d₃ d₄,
    b.Prepares here paths entries d d₁ d₂ d₃ d₄ ∧
      d₄.writeFile b.scriptPath (Text.toBytes (b.scriptOf here entries paths)) = .ok d' ∧
        Text.isEncodable (b.scriptOf here entries paths) = true ∧
          artifact = ⟨b.scriptPath, b.scriptOf here entries paths⟩ := by
  unfold steps
  refine (prepare_does.bind publish_does).congr fun d artifact d' => ?_
  constructor
  · rintro ⟨_, d₄, ⟨paths, entries, d₁, d₂, d₃, h, rfl⟩, hpublished⟩
    exact ⟨paths, entries, d₁, d₂, d₃, d₄, h, hpublished⟩
  · rintro ⟨paths, entries, d₁, d₂, d₃, d₄, h, hpublished⟩
    exact ⟨_, d₄, ⟨paths, entries, d₁, d₂, d₃, h, rfl⟩, hpublished⟩

/-- A build gives a script and leaves a disk exactly when its steps lead there. -/
theorem build_does : Does here b.build fun d artifact d' => ∃ paths entries d₁ d₂ d₃ d₄,
    b.Makes here paths entries d d₁ d₂ d₃ d₄ d' ∧
      artifact = ⟨b.scriptPath, b.scriptOf here entries paths⟩ := by
  have hgoes : ∀ isDir : Bool, Does here (do
      if isDir then pure () else throw (.script (.noAppDir b.appDir))
      let artifact ← Work.onFailure b.steps report
      b.note .info "Script generated at %s" [.path b.scriptPath] Origin.buildEnded
      return artifact) fun d artifact d' => isDir = true ∧ ∃ paths entries d₁ d₂ d₃ d₄,
        b.Prepares here paths entries d d₁ d₂ d₃ d₄ ∧
          d₄.writeFile b.scriptPath (Text.toBytes (b.scriptOf here entries paths)) = .ok d' ∧
            Text.isEncodable (b.scriptOf here entries paths) = true ∧
              artifact = ⟨b.scriptPath, b.scriptOf here entries paths⟩ := by
    intro isDir
    cases isDir with
    | false => exact (Does.throw_bind _ _).congr fun d artifact d' => by simp
    | true =>
      refine ((steps_does.onFailure report).bind fun artifact =>
        (Does.pure artifact).note_bind _).congr fun d artifact d' => ?_
      constructor
      · rintro ⟨_, _, hsteps, rfl, rfl⟩
        exact ⟨rfl, hsteps⟩
      · rintro ⟨-, hsteps⟩
        exact ⟨artifact, d', hsteps, rfl, rfl⟩
  unfold build
  refine ((Does.ask _).bind hgoes).note_bind _ |>.congr fun d artifact d' => ?_
  constructor
  · rintro ⟨_, _, ⟨happ, rfl⟩, rfl, paths, entries, d₁, d₂, d₃, d₄, h, hwrite,
      hencodable, rfl⟩
    exact ⟨paths, entries, d₁, d₂, d₃, d₄, ⟨h, happ, hwrite, hencodable⟩, rfl⟩
  · rintro ⟨paths, entries, d₁, d₂, d₃, d₄, h, rfl⟩
    exact ⟨true, d, ⟨h.appDir, rfl⟩, rfl, paths, entries, d₁, d₂, d₃, d₄, h.toPrepares, h.script,
      h.encodable, rfl⟩

end Builder

end SetupScript
