import SetupScript.Proofs.Build.Confinement
import SetupScript.Proofs.Build.Listing
import SetupScript.Proofs.Files.Standing
import SetupScript.Proofs.Script.Encodable

/-!
# Builds that are not cut off

The script of a build is made of the texts of its configuration, of its paths and of the names that
its application's build lists. Where none of these holds a mark, there are bytes for the script
(`isEncodable_of_prepare`), and its writing goes to the end.
-/

namespace SetupScript

open Text (Lacks mark)

namespace Path

variable {p : Path} {here : Location} {s : String}

/-- No name of the path holds a mark. -/
def Unmarked (p : Path) : Prop := ∀ name ∈ p.parts, Lacks mark name

instance (p : Path) : Decidable p.Unmarked :=
  inferInstanceAs (Decidable (∀ name ∈ p.parts, Lacks mark name))

theorem Unmarked.descend {names : List String} (hp : p.Unmarked)
    (hnames : ∀ name ∈ names, Lacks mark name) : (p.descend names).Unmarked :=
  List.forall_mem_append.2 ⟨hp, hnames⟩

theorem Unmarked.absolute (hp : p.Unmarked) (hhere : ∀ name ∈ here, Lacks mark name) :
    (p.absolute here).Unmarked := by
  unfold Path.absolute
  split_ifs
  · exact List.forall_mem_append.2 ⟨hhere, hp⟩
  · exact hp

theorem Unmarked.child (hp : p.Unmarked) (hs : Lacks mark s) : (p.child s).Unmarked := by
  have hpieces : (parse s).Unmarked := by
    intro name hname
    obtain ⟨w, hw, rfl⟩ := List.mem_map.1 (List.mem_of_mem_filter hname)
    rw [Text.Lacks, String.toList_ofList]
    exact fun hmem => hs (Text.mem_of_mem_splitAll hw _ hmem).1
  unfold Path.child join
  split_ifs
  · exact List.forall_mem_append.2 ⟨hp, hpieces⟩
  · exact hpieces

theorem Unmarked.text (hp : p.Unmarked) : Lacks mark p.text := by
  unfold Path.text
  split
  · decide
  · rename_i anchor parts _
    have hanchor : Lacks mark (anchorText anchor) := by cases anchor <;> decide
    have hslash : Lacks mark "/" := by decide
    exact Text.lacks_append.2 ⟨hanchor, hslash.intercalate hp⟩

end Path

namespace Builder

/-- No text that the builder has for its script holds a mark. -/
structure Unmarked (b : Builder) (here : Location) : Prop where
  here : ∀ name ∈ here, Lacks mark name
  config : ∀ s ∈ b.config.texts, Lacks mark s
  appDir : b.appDir.Unmarked
  projectDir : b.projectDir.Unmarked
  tempDir : b.tempDir.Unmarked

variable {b : Builder} {here : Location} {s s' : Session}

namespace Unmarked

theorem name (hb : b.Unmarked here) : Lacks mark b.config.name :=
  hb.config _ (by simp [Configuration.texts])

theorem iconText (hb : b.Unmarked here) : Lacks mark b.config.iconText :=
  hb.config _ (by simp [Configuration.texts])

theorem stagingDir (hb : b.Unmarked here) : (b.stagingDir here).Unmarked := by
  refine Path.Unmarked.absolute (hb.tempDir.child ?_) hb.here
  exact Text.lacks_append.2 ⟨Text.noUpperForm_mark.notMem_joinedWords hb.name, by decide⟩

theorem variantDir (hb : b.Unmarked here) : (b.variantDir here).Unmarked :=
  hb.stagingDir.descend (by cases b.config.variant <;> decide)

theorem outputDir (hb : b.Unmarked here) : b.outputDir.Unmarked :=
  hb.projectDir.descend (by cases b.config.variant <;> decide)

end Unmarked

theorem lacks_icon (hb : b.Unmarked s.disk.here) {icon : String}
    (h : b.icon s = (.ok icon, s')) : Lacks mark icon := by
  unfold Builder.icon at h
  split_ifs at h
  · obtain rfl := Except.ok.inj (congrArg Prod.fst h)
    exact hb.iconText
  · rw [Work.bind_of_ok (Work.get_eq s)] at h
    obtain ⟨path, s₁, hwritten, h⟩ := bind_run_eq_ok.1 h
    obtain rfl := Except.ok.inj (congrArg Prod.fst h)
    obtain ⟨-, s₂, -, hwritten⟩ := bind_run_eq_ok.1 hwritten
    obtain ⟨now, s₃, -, hwritten⟩ := bind_run_eq_ok.1 hwritten
    obtain ⟨-, s₄, -, hwritten⟩ := bind_run_eq_ok.1 hwritten
    obtain ⟨-, s₅, -, hwritten⟩ := bind_run_eq_ok.1 hwritten
    obtain rfl := Except.ok.inj (congrArg Prod.fst hwritten)
    rw [Path.absolute_descend b.isRelative_stagingDir]
    exact (hb.stagingDir.descend (by decide)).text

theorem lacks_libraries {dirs : List Path} {target : Path} {libraries : List Path}
    {logger : String} (htarget : target.Unmarked) (habsolute : target.isRelative = false)
    (h : Staging.stageLibraries logger dirs target s = (.ok libraries, s')) :
    ∀ l ∈ libraries, Lacks mark l.text := by
  have hlibraries : ∀ name ∈ Staging.libraryNames, Lacks mark name := by decide
  obtain ⟨-, s₁, -, h⟩ := bind_run_eq_ok.1 h
  obtain ⟨sources, s₂, hask, hcopy⟩ := bind_run_eq_ok.1 h
  have hfound : Staging.findLibraries dirs s₁.disk Staging.libraryNames = .ok sources :=
    mapError_eq_ok.1 (congrArg Prod.fst hask)
  rw [Staging.paths_of_copyAll habsolute hcopy]
  refine List.forall_mem_map.2 fun source hsource => (htarget.descend ?_).text
  have hname := Staging.name_mem_of_findLibraries (fun _ h => h) hfound source hsource
  exact List.forall_mem_singleton.2 (hlibraries _ hname)

/-- Entries that are listed are still there when the disk has grown. -/
theorem lacks_entries {d : Disk} {entries : List AppEntry} (hb : b.Unmarked s.disk.here)
    (ht : s.disk.tree.LinkFree) (hgrows : s.disk.Grows Set.univ Set.univ d)
    (hnames : ∀ name ∈ d.tree.children (b.appDir.place s.disk.here), Lacks mark name)
    (h : (b.entries s).1 = .ok entries) :
    ∀ e ∈ entries, Lacks mark e.name ∧ Lacks mark e.source := by
  obtain ⟨-, hentries, names, hlisted, hperm⟩ := entries_eq_ok h
  obtain ⟨place, hfind, hchildren⟩ := Disk.names_eq_ok.1 hlisted
  obtain rfl := (Disk.find_ok ht hfind).1
  intro e he
  have hname : Lacks mark e.name := by
    refine hnames _ (FileTree.mem_children.2 ((hgrows.tree _).ne_none ?_))
    rw [← FileTree.mem_children, hchildren]
    exact hperm.subset (List.mem_map_of_mem he)
  refine ⟨hname, ?_⟩
  rw [(hentries e he).1]
  exact ((hb.appDir.descend (List.forall_mem_singleton.2 hname)).absolute hb.here).text

/-- The lines of a script that a disk gives leave out no name that is listed later on. -/
theorem isEncodable_of_render {icon : String} {libraries : List Path} {text : String} {d : Disk}
    (hb : b.Unmarked s.disk.here) (ht : s.disk.tree.LinkFree)
    (hgrows : s.disk.Grows Set.univ Set.univ d)
    (hnames : ∀ name ∈ d.tree.children (b.appDir.place s.disk.here), Lacks mark name)
    (hicon : Lacks mark icon) (hlibraries : ∀ l ∈ libraries, Lacks mark l.text)
    (h : b.render icon libraries s = (.ok text, s')) : Text.isEncodable text = true := by
  unfold Builder.render at h
  split_ifs at h
  · exact absurd (congrArg Prod.fst h) nofun
  · obtain ⟨entries, s₁, hentries, h⟩ := bind_run_eq_ok.1 h
    obtain rfl := Except.ok.inj (congrArg Prod.fst h)
    have hlisted := lacks_entries hb ht hgrows hnames (congrArg Prod.fst hentries)
    refine Script.isEncodable_render hb.config ?_
    simp only [ScriptParts.texts, parts, List.forall_mem_append, List.forall_mem_cons,
      List.forall_mem_flatMap, List.forall_mem_map]
    refine ⟨⟨⟨hb.outputDir.text, hicon, by simp⟩, fun e he => ?_⟩, hlibraries⟩
    exact ⟨(hlisted e he).1, (hlisted e he).2, by simp⟩

/-- There are bytes for a script in which no text and no listed name has a mark. -/
theorem isEncodable_of_prepare (hb : b.Unmarked s.disk.here) (ht : s.disk.tree.LinkFree)
    {text : String} (h : b.prepare s = (.ok text, s'))
    (hnames : ∀ name ∈ s'.disk.tree.children (b.appDir.place s.disk.here), Lacks mark name) :
    Text.isEncodable text = true := by
  have hall {places : Set Location} : places ⊆ Set.univ := Set.subset_univ places
  have hs : s.Ready s.disk.here Set.univ := ⟨rfl, ht, hall⟩
  unfold Builder.prepare at h
  obtain ⟨icon, s₁, hicon, h⟩ := bind_run_eq_ok.1 h
  have hwritten : Session.Grows Set.univ Set.univ s s₁ := (b.icon_grows hs hall hall).along hicon
  rw [Work.bind_of_ok (Work.get_eq s₁), hwritten.disk.here] at h
  obtain ⟨libraries, s₂, hlibraries, h⟩ := bind_run_eq_ok.1 h
  have hstaged : Session.Grows Set.univ Set.univ s₁ s₂ :=
    (Staging.stageLibraries_grows (hwritten.ready hs) hall fun _ _ => trivial).along hlibraries
  have hs₂ := hstaged.ready (hwritten.ready hs)
  obtain ⟨text', s₃, hrender, h⟩ := bind_run_eq_ok.1 h
  have hrendered : Session.Grows Set.univ Set.univ s₂ s₃ :=
    (b.render_grows hs₂ icon libraries).along hrender
  obtain ⟨_, s₄, hmade, h⟩ := bind_run_eq_ok.1 h
  have houtput : Session.Grows Set.univ Set.univ s₃ s₄ :=
    (Work.onDisk_grows (DiskWork.ensureDirs_grows (hrendered.ready hs₂).linkFree hall)).along hmade
  obtain ⟨htext, rfl⟩ := Prod.mk.inj h
  obtain rfl := Except.ok.inj htext
  have hicon := lacks_icon hb hicon
  have hlibraries := lacks_libraries hb.variantDir b.isRelative_variantDir hlibraries
  rw [← hs₂.here] at hb hnames
  exact isEncodable_of_render hb hs₂.linkFree (trans_of _ hrendered.disk houtput.disk) hnames hicon
    hlibraries hrender

/-- What a build notes first. -/
def opening (b : Builder) : Record :=
  ⟨b.logger, .info, "Generating Inno Setup script...", [], Origin.buildStarted⟩

/-- The directory of the application is asked for before anything else happens on the disk. -/
theorem build_fst (b : Builder) (s : Session) : (b.build s).1 =
    match s.disk.isDir b.appDir with
    | .error e => .error (.disk e)
    | .ok false => .error (.script (.noAppDir b.appDir))
    | .ok true => ((b.steps (s.note b.opening)).1).mapError report := by
  have hnote : b.note .info "Generating Inno Setup script..." [] Origin.buildStarted s =
      (.ok (), s.note b.opening) := rfl
  have hsame : (s.note b.opening).disk.isDir b.appDir = s.disk.isDir b.appDir :=
    Session.isDir_note b.appDir b.opening
  unfold build
  rw [Work.bind_of_ok hnote]
  cases hdir : s.disk.isDir b.appDir with
  | error e => rw [Work.bind_of_error (Work.ask_of_error (hsame.trans hdir))]
  | ok isDir =>
    rw [Work.bind_of_ok (Work.ask_of_ok (hsame.trans hdir))]
    cases isDir with
    | false => rfl
    | true =>
      change ((Work.onFailure b.steps report >>= _) (s.note b.opening)).1 = _
      have hsteps : Work.onFailure b.steps report (s.note b.opening) =
          ((b.steps (s.note b.opening)).1.mapError report, (b.steps (s.note b.opening)).2) := rfl
      cases hout : (b.steps (s.note b.opening)).1 with
      | error f =>
        rw [hout] at hsteps
        rw [Work.bind_of_error hsteps]
        rfl
      | ok a =>
        rw [hout] at hsteps
        rw [Work.bind_of_ok hsteps]
        rfl

/-- The session that a build leaves if there are bytes for its script, where nothing else is in its
way and the application's build lists no name with a mark. -/
def draft? (b : Builder) (s : Session) : Option Session :=
  match s.disk.isDir b.appDir, b.prepare (s.note b.opening) with
  | .ok true, (.ok text, s') =>
    match s'.disk.writeFile b.scriptPath (Text.toBytes text) with
    | .ok d =>
      if ∀ name ∈ s'.disk.tree.children (b.appDir.place s.disk.here), Lacks mark name then
        some (b.note .info "Script generated at %s" [.path b.scriptPath] Origin.buildEnded
          { s' with disk := d }).2
      else none
    | .error _ => none
  | _, _ => none

/-- Without marks no build is cut off. -/
theorem build_of_draft? (hb : b.Unmarked s.disk.here) (ht : s.disk.tree.LinkFree)
    (h : b.draft? s = some s') : ∃ artifact, b.build s = (.ok artifact, s') := by
  have hstarted : b.note .info "Generating Inno Setup script..." [] Origin.buildStarted s =
      (.ok (), s.note b.opening) := rfl
  have hgrows : s.Grows Set.univ Set.univ (s.note b.opening) :=
    Session.note_grows ⟨rfl, ht, Set.subset_univ _⟩ b.opening
  unfold draft? at h
  split at h
  · rename_i text s₁ hdir hprepare
    split at h
    · rename_i d hwrite
      split_ifs at h with hnames
      obtain rfl := Option.some.inj h
      have hencodable : Text.isEncodable text = true := by
        rw [← hgrows.disk.here] at hb hnames
        exact isEncodable_of_prepare hb (hgrows.disk.tree.linkFree ht) hprepare hnames
      have hsteps : b.steps (s.note b.opening) =
          (.ok ⟨b.scriptPath, text⟩, { s₁ with disk := d }) := by
        rw [steps, Work.bind_of_ok hprepare, b.publish_of_ok hwrite, if_pos hencodable]
      have hreported : Work.onFailure b.steps report (s.note b.opening) =
          (.ok ⟨b.scriptPath, text⟩, { s₁ with disk := d }) := by
        rw [Work.onFailure, hsteps]
        rfl
      have hasked : (s.note b.opening).disk.isDir b.appDir = .ok true :=
        (Session.isDir_note b.appDir b.opening).trans hdir
      refine ⟨⟨b.scriptPath, text⟩, ?_⟩
      rw [build, Work.bind_of_ok hstarted, Work.bind_of_ok (Work.ask_of_ok hasked), if_pos rfl]
      exact Work.bind_of_ok hreported _
    · contradiction
  · contradiction

end Builder

end SetupScript
