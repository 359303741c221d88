import SetupScript.Proofs.Build.Confinement
import SetupScript.Proofs.TwinSessions

/-!
# Twin builds

A build on twin disks has the same outcome, and its script is on both disks in the end
(`Builder.build_together`). It is enough that the places at which the disks differ are on no way of
a path that the build uses, nor in the application's directory, and that no log is written to the
script.
-/

namespace SetupScript

/-- The files of an artifact are on a session's disk. -/
def Artifact.IsOn (a : Artifact) (s : Session) : Prop :=
  s.disk.read a.path = .ok (Text.toBytes a.text)

variable {c : Scene} {s s' : Session}

namespace Staging

variable {d d' : Disk} {name logger : String} {dir target : Path} {dirs : List Path}

theorem findIn_congr : ∀ {dirs : List Path},
    (∀ dir ∈ dirs, d.isFile (dir.child name) = d'.isFile (dir.child name)) →
      findIn d name dirs = findIn d' name dirs
  | [], _ => rfl
  | dir :: dirs, h => by
    obtain ⟨hdir, hdirs⟩ := List.forall_mem_cons.1 h
    rw [findIn, findIn, hdir, findIn_congr hdirs]

theorem findLibraries_congr : ∀ {names : List String},
    (∀ name ∈ names, ∀ dir ∈ dirs, d.isFile (dir.child name) = d'.isFile (dir.child name)) →
      findLibraries dirs d names = findLibraries dirs d' names
  | [], _ => rfl
  | name :: names, h => by
    obtain ⟨hname, hnames⟩ := List.forall_mem_cons.1 h
    rw [findLibraries, findLibraries, findIn_congr hname, findLibraries_congr hnames]

theorem exists_of_findIn {p : Path} : ∀ {dirs : List Path},
    findIn d name dirs = .ok (some p) → ∃ dir ∈ dirs, p = dir.child name ∧ d.isFile p = .ok true
  | [], h => by simp [findIn] at h
  | dir :: dirs, h => by
    rcases findIn_eq_ok.1 h with ⟨hfile, hp⟩ | ⟨-, hrest⟩
    · obtain rfl := Option.some.inj hp
      exact ⟨dir, List.mem_cons_self, rfl, hfile⟩
    · obtain ⟨other, hother, hp⟩ := exists_of_findIn hrest
      exact ⟨other, List.mem_cons_of_mem dir hother, hp⟩

/-- A library that is found is a file in a searched directory, under its own name. -/
theorem exists_of_findLibraries : ∀ {names : List String} {paths : List Path},
    findLibraries dirs d names = .ok paths →
      ∀ p ∈ paths, ∃ name ∈ names, ∃ dir ∈ dirs, p = dir.child name ∧ d.isFile p = .ok true
  | [], paths, h => by
    obtain rfl := Except.ok.inj h
    simp
  | name :: names, paths, h => by
    obtain ⟨found, others, hfound, hothers, rfl⟩ := findLibraries_eq_ok.1 h
    intro p hp
    rcases List.mem_append.1 hp with hp | hp
    · rw [Option.mem_toList] at hp
      exact ⟨name, List.mem_cons_self, exists_of_findIn (hp ▸ hfound)⟩
    · obtain ⟨other, hother, hdir⟩ := exists_of_findLibraries hothers p hp
      exact ⟨other, List.mem_cons_of_mem name hother, hdir⟩

theorem writeIcon_together (h : s.Twins c s') (hdir : dir.isRelative = false)
    (hicon : c.terrain.Clear c.out (dir.descend [iconName])) :
    Together (Session.Twins c) (Alike (Session.Twins c)) (writeIcon logger dir)
      (writeIcon logger dir) s s' := by
  unfold writeIcon
  refine (Work.onDisk_together h (DiskWork.ensureDirs_together h.disk hicon.of_descend)).bind
    fun _ s₁ _ s₁' ⟨_, h₁⟩ => ?_
  refine (Work.get_together h₁).bind fun a s₂ b s₂' ⟨_, h₂⟩ => ?_
  rw [Path.absolute_descend hdir, Path.absolute_descend hdir]
  refine (Work.onDisk_together h₂ (DiskWork.write_together h₂.disk hicon _ _)).bind
    fun _ s₃ _ s₃' ⟨_, h₃⟩ => ?_
  exact (Work.note_together h₃ _).bind fun _ _ _ _ ⟨_, h₄⟩ => .pure ⟨rfl, h₄⟩

theorem copyAll_together (htarget : target.isRelative = false) {sources : List Path}
    {s s' : Session} (h : s.Twins c s')
    (hclear : ∀ p ∈ sources,
      c.terrain.Clear c.out p ∧ c.terrain.Clear c.out (target.descend [p.name])) :
    Together (Session.Twins c) (Alike (Session.Twins c)) (copyAll logger target sources)
      (copyAll logger target sources) s s' := by
  induction sources generalizing s s' with
  | nil => exact .pure ⟨rfl, h⟩
  | cons source sources ih =>
    obtain ⟨⟨hsource, hcopy⟩, hrest⟩ := List.forall_mem_cons.1 hclear
    unfold copyAll
    refine (Work.get_together h).bind ?_
    rintro a s₁ b s₁' ⟨-, h₁⟩
    rw [Path.absolute_descend htarget, Path.absolute_descend htarget]
    refine (Work.onDisk_together h₁ (DiskWork.copy_together h₁.disk hsource hcopy)).bind ?_
    rintro - s₂ - s₂' ⟨-, h₂⟩
    refine (Work.note_together h₂ _).bind ?_
    rintro - s₃ - s₃' ⟨-, h₃⟩
    refine (ih h₃ hrest).bind ?_
    rintro ps _ qs _ ⟨rfl, h₄⟩
    exact .pure ⟨rfl, h₄⟩

theorem stageLibraries_together (h : s.Twins c s') (htarget : target.isRelative = false)
    (hlibrary : ∀ name ∈ libraryNames, ∀ dir ∈ dirs, c.terrain.Clear c.out (dir.child name))
    (hcopy : ∀ name ∈ libraryNames, c.terrain.Clear c.out (target.descend [name])) :
    Together (Session.Twins c) (Alike (Session.Twins c)) (stageLibraries logger dirs target)
      (stageLibraries logger dirs target) s s' := by
  unfold stageLibraries
  have hdirs : c.terrain.Clear c.out target := (hcopy _ List.mem_cons_self).of_descend
  refine (Work.onDisk_together h (DiskWork.ensureDirs_together h.disk hdirs)).bind
    fun _ s₁ _ s₁' ⟨_, h₁⟩ => ?_
  have hfound : findLibraries dirs s₁.disk libraryNames =
      findLibraries dirs s₁'.disk libraryNames :=
    findLibraries_congr fun name hname dir hdir => h₁.disk.isFile_eq (hlibrary name hname dir hdir)
  refine (Work.ask_together h₁ hfound).bind fun sources s₂ sources' s₂' ⟨⟨hsame, h₂⟩, hok⟩ => ?_
  rw [← hsame]
  refine copyAll_together htarget h₂ fun p hp => ?_
  obtain ⟨name, hname, dir, hdir, rfl, -⟩ := exists_of_findLibraries hok p hp
  refine ⟨hlibrary name hname dir hdir, ?_⟩
  rw [Path.child_eq (isPlain_of_mem_libraryNames name hname)
    (noSlash_of_mem_libraryNames name hname)]
  have hlast : (dir.descend [name]).name = name := by simp [Path.name, Path.descend]
  rw [hlast]
  exact hcopy name hname

end Staging

namespace Builder

/-- The paths that a build looks up or writes to. -/
inductive Uses (b : Builder) (here : Location) : Path → Prop
  | entry (name : String) : Uses b here (b.appDir.descend [name])
  | icon : Uses b here ((b.stagingDir here).descend [Staging.iconName])
  | library {dir : Path} {name : String} (hdir : dir ∈ b.systemDirs)
      (hname : name ∈ Staging.libraryNames) : Uses b here (dir.child name)
  | copy {name : String} (hname : name ∈ Staging.libraryNames) :
      Uses b here (((b.stagingDir here).descend [b.config.variant.dirName]).descend [name])
  | script : Uses b here b.scriptPath

/-- A build does not come to the places at which two disks differ, and no log is its script. -/
structure Clear (b : Builder) (c : Scene) : Prop where
  uses : ∀ p, b.Uses c.terrain.here p → c.terrain.Clear c.out p
  apart : ∀ place ∈ c.out, place.dropLast ≠ (c.terrain.way b.appDir).goal
  left : (c.terrain.way b.scriptPath).goal ∉ c.terrain.logGoals c.left
  right : (c.terrain.way b.scriptPath).goal ∉ c.terrain.logGoals c.right

variable {b : Builder}

theorem note_together (h : s.Twins c s') (level : Level) (pattern : String)
    (arguments : List Argument) (origin : Origin) :
    Together (Session.Twins c) (Alike (Session.Twins c)) (b.note level pattern arguments origin)
      (b.note level pattern arguments origin) s s' :=
  Work.note_together h _

section Steps

variable (hb : b.Clear c)

include hb

theorem icon_together (h : s.Twins c s') :
    Together (Session.Twins c) (Alike (Session.Twins c)) b.icon b.icon s s' := by
  unfold icon
  split_ifs
  · exact .pure ⟨rfl, h⟩
  · refine (Work.get_together h).bind fun a s₁ a' s₁' ⟨ha, h₁⟩ => ?_
    rw [ha.here.1, ha.here.2]
    exact (Staging.writeIcon_together h₁ b.isRelative_stagingDir (hb.uses _ .icon)).bind
      fun p _ q _ ⟨hpq, h₂⟩ => .pure ⟨by rw [hpq], h₂⟩

theorem entry_together (h : s.Twins c s') (name : String) :
    Together (Session.Twins c) (Alike (Session.Twins c)) (b.entry name) (b.entry name) s s' := by
  unfold entry
  have hdir := h.disk.isDir_eq (hb.uses _ (.entry name))
  refine (Work.ask_together h hdir).bind fun isDir s₁ isDir' s₁' ⟨⟨hsame, h₁⟩, _⟩ => ?_
  refine (Work.get_together h₁).bind fun a s₂ a' s₂' ⟨ha, h₂⟩ => ?_
  rw [ha.here.1, ha.here.2, hsame]
  dsimp only
  split_ifs
  · exact (note_together h₂ _ _ _ _).bind fun _ _ _ _ ⟨_, h₃⟩ => .pure ⟨rfl, h₃⟩
  · exact .pure ⟨rfl, h₂⟩

theorem entries_together (h : s.Twins c s') :
    Together (Session.Twins c) (Alike (Session.Twins c)) b.entries b.entries s s' := by
  unfold entries
  have hdir : c.terrain.Clear c.out b.appDir := (hb.uses _ (.entry "")).of_descend
  refine (Work.ask_together h (h.disk.names_eq hdir hb.apart)).bind
    fun names s₁ names' s₁' ⟨⟨hsame, h₁⟩, _⟩ => ?_
  rw [hsame]
  exact .mapM (fun name _ s s' h => entry_together hb h name) h₁

theorem render_together (h : s.Twins c s') (icon : String) (libraries : List Path) :
    Together (Session.Twins c) (Alike (Session.Twins c)) (b.render icon libraries)
      (b.render icon libraries) s s' := by
  unfold render
  split_ifs
  · exact .throw _ h
  · exact (entries_together hb h).bind fun es _ es' _ ⟨hes, h₁⟩ => .pure ⟨by rw [hes], h₁⟩

theorem prepare_together (h : s.Twins c s') :
    Together (Session.Twins c) (Alike (Session.Twins c)) b.prepare b.prepare s s' := by
  unfold prepare
  refine (icon_together hb h).bind fun icon s₁ icon' s₁' ⟨hicon, h₁⟩ => ?_
  refine (Work.get_together h₁).bind fun a s₂ a' s₂' ⟨ha, h₂⟩ => ?_
  rw [ha.here.1, ha.here.2, hicon]
  dsimp only
  have hstaged : ((b.stagingDir c.terrain.here).descend [b.config.variant.dirName]).isRelative =
      false := (Path.isRelative_descend _).trans b.isRelative_stagingDir
  refine (Staging.stageLibraries_together h₂ hstaged
    (fun name hname dir hdir => hb.uses _ (.library hdir hname))
    (fun name hname => hb.uses _ (.copy hname))).bind
      fun libraries s₃ libraries' s₃' ⟨hlibraries, h₃⟩ => ?_
  rw [hlibraries]
  refine (render_together hb h₃ _ _).bind fun text s₄ text' s₄' ⟨htext, h₄⟩ => ?_
  have houtput : c.terrain.Clear c.out b.outputDir := (hb.uses _ .script).of_descend
  exact (Work.onDisk_together h₄ (DiskWork.ensureDirs_together h₄.disk houtput)).bind
    fun _ _ _ _ ⟨_, h₅⟩ => .pure ⟨htext, h₅⟩

/-- The artifact and its script. -/
def Published (b : Builder) (c : Scene) (a : Artifact) (s : Session) (a' : Artifact)
    (s' : Session) : Prop :=
  (a = a' ∧ a.path = b.scriptPath) ∧ s.Twins c s' ∧ a.IsOn s ∧ a.IsOn s'

theorem publish_together (h : s.Twins c s') (text : String) :
    Together (Session.Twins c) (b.Published c) (b.publish text) (b.publish text) s s' := by
  have hwrite := h.disk.writeFile_matched (hb.uses _ .script) (Text.toBytes text)
    (Text.toBytes text)
  generalize hx : s.disk.writeFile b.scriptPath (Text.toBytes text) = x,
    hy : s'.disk.writeFile b.scriptPath (Text.toBytes text) = y at hwrite
  cases hwrite with
  | error e => exact .of_error (b.publish_of_error hx) (b.publish_of_error hy) h
  | @ok d d' hdisk =>
    have hrun := b.publish_of_ok hx
    have hrun' := b.publish_of_ok hy
    have htwins : Session.Twins c { s with disk := d } { s' with disk := d' } :=
      ⟨hdisk, h.temp, h.records, h.output, h.takes, h.left, h.right⟩
    split_ifs at hrun hrun' with hencodable
    · exact .of_ok hrun hrun' ⟨⟨rfl, rfl⟩, htwins, Disk.read_writeFile hx, Disk.read_writeFile hy⟩
    · exact .of_error hrun hrun' htwins

/-- The script stays what it is while the log goes on. -/
theorem Published.note {a a' : Artifact} (h : b.Published c a s a' s') (r : Record) :
    b.Published c a (s.note r) a' (s'.note r) := by
  obtain ⟨⟨rfl, hpath⟩, htwins, hon, hon'⟩ := h
  have hleft : (s.disk.terrain.way a.path).goal ∉ s.disk.terrain.logGoals s.sink := by
    rw [htwins.disk.left, htwins.left, hpath]
    exact hb.left
  have hright : (s'.disk.terrain.way a.path).goal ∉ s'.disk.terrain.logGoals s'.sink := by
    rw [htwins.disk.right, htwins.right, hpath]
    exact hb.right
  exact ⟨⟨rfl, hpath⟩, htwins.note r, (Session.read_note hleft r).trans hon,
    (Session.read_note hright r).trans hon'⟩

/-- A build of twin sessions ends alike, and an artifact's script is on both disks. -/
theorem build_together (h : s.Twins c s') :
    Together (Session.Twins c) (b.Published c) b.build b.build s s' := by
  unfold build
  refine (note_together h _ _ _ _).bind fun _ s₁ _ s₁' ⟨_, h₁⟩ => ?_
  have happ : c.terrain.Clear c.out b.appDir := (hb.uses _ (.entry "")).of_descend
  refine (Work.ask_together h₁ (h₁.disk.isDir_eq happ)).bind
    fun isDir s₂ isDir' s₂' ⟨⟨hsame, h₂⟩, _⟩ => ?_
  subst hsame
  cases isDir with
  | false => exact .throw _ h₂
  | true =>
    have hsteps : Together (Session.Twins c) (b.Published c) b.steps b.steps s₂ s₂' := by
      unfold steps
      refine (prepare_together hb h₂).bind fun text _ text' _ ⟨htext, h₃⟩ => ?_
      rw [htext]
      exact publish_together hb h₃ _
    refine (Work.onFailure_together hsteps report).bind fun a s₃ a' s₃' hpublished => ?_
    exact .of_ok rfl rfl (hpublished.note hb _)

end Steps

theorem make_of_ok {config : Configuration} {appDir projectDir tempDir root : Path}
    {systemDirs : List Path} {logger : String} (h : s.disk.resolve projectDir = .ok root) :
    Builder.make config appDir projectDir tempDir systemDirs logger s =
      (.ok ⟨config, appDir, root, tempDir, systemDirs, logger⟩, s) := by
  unfold Builder.make
  rw [Work.bind_of_ok (Work.ask_of_ok h)]
  rfl

end Builder

end SetupScript
