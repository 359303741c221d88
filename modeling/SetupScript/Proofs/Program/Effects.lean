import SetupScript.Program.Survey
import SetupScript.Proofs.Discreet
import SetupScript.Proofs.Lasting
import SetupScript.Proofs.Program.Logging

/-!
# What a run changes

A run that is not asked for a script, or lacks what a script is built from, is idle: it changes
nothing but the log (`Program.Idle`). Any other run does to the disk what the build alone does. Both
are read off the ways in which a run can end (`Program.runBuild_ends`). What is noted before the
build makes no difference to it, since none of its steps looks at the records
(`Program.buildScript_discreet`).
-/

namespace SetupScript

open Resolve CommandLine Work

variable {s s' : Session}

/-! ## Building is discreet -/

namespace Staging

variable {logger : String} {dir target : Path} {dirs : List Path}

theorem writeIcon_discreet : Discreet (writeIcon logger dir) := by
  unfold writeIcon
  refine (Discreet.onDisk _).bind fun _ => .get_bind (fun s => ?_) fun s s' h => by rw [h]
  exact (Discreet.onDisk _).bind fun _ => (Discreet.note _).bind fun _ => .pure _

theorem copyAll_discreet : ∀ sources : List Path, Discreet (copyAll logger target sources)
  | [] => .pure []
  | source :: sources => by
    unfold copyAll
    refine .get_bind (fun s => ?_) fun s s' h => by rw [h]
    refine (Discreet.onDisk _).bind fun _ => (Discreet.note _).bind fun _ => ?_
    exact (copyAll_discreet sources).bind fun _ => .pure _

theorem stageLibraries_discreet : Discreet (stageLibraries logger dirs target) :=
  (Discreet.onDisk _).bind fun _ => (Discreet.ask _).bind copyAll_discreet

end Staging

namespace Builder

variable {b : Builder}

theorem icon_discreet : Discreet b.icon := by
  unfold icon
  split_ifs
  · exact .pure _
  · refine .get_bind (fun s => ?_) fun s s' h => by rw [h]
    exact Staging.writeIcon_discreet.bind fun _ => .pure _

theorem entry_discreet (name : String) : Discreet (b.entry name) := by
  unfold entry
  refine (Discreet.ask _).bind fun isDir => .get_bind (fun s => ?_) fun s s' h => by rw [h]
  dsimp only
  split_ifs
  · exact (Discreet.note _).bind fun _ => .pure _
  · exact .pure _

theorem render_discreet (icon : String) (libraries : List Path) :
    Discreet (b.render icon libraries) := by
  have hentries : Discreet b.entries := (Discreet.ask _).bind fun _ => .mapM entry_discreet _
  unfold render
  split_ifs
  · exact .throw _
  · exact hentries.bind fun _ => .pure _

theorem steps_discreet : Discreet b.steps := by
  have hprepare : Discreet b.prepare := by
    unfold prepare
    refine icon_discreet.bind fun icon => .get_bind (fun s => ?_) fun s s' h => by rw [h]
    refine Staging.stageLibraries_discreet.bind fun libraries => ?_
    refine (render_discreet icon libraries).bind fun text => ?_
    exact (Discreet.onDisk _).bind fun _ => .pure _
  refine hprepare.bind fun text => (Discreet.onDisk _).bind fun _ => ?_
  split_ifs
  · exact .pure _
  · exact .throw _

theorem build_discreet : Discreet b.build := by
  unfold build
  refine (Discreet.note _).bind fun _ => (Discreet.ask _).bind fun isDir => ?_
  split_ifs
  · exact (steps_discreet.onFailure report).bind fun _ => (Discreet.note _).bind fun _ => .pure _
  · exact .throw _

end Builder

/-! ## Noting -/

namespace Session

def noteAll (s : Session) (rs : List Record) : Session := rs.foldl note s

/-- Nothing but noting leads from one session to the other. -/
def Noted (s s' : Session) : Prop := ∃ rs, s' = s.noteAll rs

instance : IsPreorder Session Noted where
  refl _ := ⟨[], rfl⟩
  trans := by
    rintro s _ _ ⟨rs, rfl⟩ ⟨rs', rfl⟩
    exact ⟨rs ++ rs', List.foldl_append.symm⟩

theorem Noted.of_note (r : Record) : s.Noted (s.note r) := ⟨[r], rfl⟩

/-- What noting leaves alone, but for the log file. -/
structure Undisturbed (s s' : Session) : Prop where
  temp : s'.temp = s.temp
  stamp : s'.stamp = s.stamp
  sink : s'.sink = s.sink
  takes : s'.takes = s.takes
  output : s'.output = s.output
  isDir : ∀ p, s'.disk.isDir p = s.disk.isDir p

theorem undisturbed_note (s : Session) (r : Record) : s.Undisturbed (s.note r) := by
  have hdir : ∀ p, (s.note r).disk.isDir p = s.disk.isDir p := fun p => isDir_note p r
  obtain ⟨log, disk, hnote, -⟩ := s.note_cases r
  rw [hnote] at hdir ⊢
  exact ⟨rfl, rfl, rfl, rfl, rfl, hdir⟩

theorem undisturbed_noteAll : ∀ (rs : List Record) (s : Session), s.Undisturbed (s.noteAll rs)
  | [], _ => ⟨rfl, rfl, rfl, rfl, rfl, fun _ => rfl⟩
  | r :: rs, s => by
    have h := s.undisturbed_note r
    have h' := undisturbed_noteAll rs (s.note r)
    exact ⟨h'.temp.trans h.temp, h'.stamp.trans h.stamp, h'.sink.trans h.sink,
      h'.takes.trans h.takes, h'.output.trans h.output, fun p => (h'.isDir p).trans (h.isDir p)⟩

theorem Noted.undisturbed (h : s.Noted s') : s.Undisturbed s' := by
  obtain ⟨rs, rfl⟩ := h
  exact undisturbed_noteAll rs s

theorem Quiet.noteAll : ∀ {s : Session}, s.Quiet → ∀ rs : List Record,
    (s.noteAll rs).disk = s.disk
  | _, _, [] => rfl
  | _, hs, r :: rs => by
    obtain ⟨hquiet, hdisk⟩ := hs.note r
    exact (hquiet.noteAll rs).trans hdisk

theorem Quiet.peers_noteAll (hs : s.Quiet) (rs : List Record) :
    s.Peers s.sink s.output s.output (s.noteAll rs) := by
  have h := undisturbed_noteAll rs s
  exact ⟨(hs.noteAll rs).symm, h.temp.symm, h.stamp.symm, rfl, h.sink, rfl, h.output⟩

end Session

namespace Work

open Session

theorem ask_noted {α : Type} {question : Disk → Except DiskError α} :
    Leads Noted (Work.ask question) (fun a => question s.disk = .ok a) s :=
  ⟨refl_of Noted s, fun _ h => mapError_eq_ok.1 h⟩

theorem note_noted (r : Record) : Keeps Noted (Work.note r) s := .of_step (.of_note r)

theorem ofExcept_noted {α : Type} {x : Except Failure α} :
    Leads Noted (Work.ofExcept x) (fun a => x = .ok a) s :=
  ⟨refl_of Noted s, fun _ h => h⟩

end Work

/-! ## Loading -/

/-- A configuration has the variant and the installer that are asked for. -/
theorem overridden_of_resolve {d : Disk} {v : Value} {o : Overrides} {dir : Path}
    {config : Configuration} (h : resolve d v o dir = .ok config) :
    config.variant = o.variant ∧ config.installer = o.installer := by
  obtain ⟨f, -, hfinish⟩ := resolve_eq_ok.1 h
  obtain ⟨-, -, -, -, -, -, hconfig⟩ := finish_eq_ok.1 hfinish
  rw [hconfig]
  exact ⟨rfl, rfl⟩

theorem loadConfiguration_noted (p dir : Path) (o : Overrides) :
    Leads Session.Noted (loadConfiguration p o (some dir))
      (fun config => config.variant = o.variant ∧ config.installer = o.installer) s := by
  unfold loadConfiguration
  refine Leads.get.bind fun _ s₁ _ _ => ofExcept_noted.bind fun v s₂ _ _ => ?_
  change Leads Session.Noted (resolveNoting v o dir) _ s₂
  unfold resolveNoting
  refine Leads.get.bind fun s₃ s₄ _ _ => ?_
  have hlast : ∀ s, Leads Session.Noted (Work.ofExcept (resolve s₃.disk v o dir))
      (fun config => config.variant = o.variant ∧ config.installer = o.installer) s :=
    fun s => ⟨refl_of _ s, fun _ h => overridden_of_resolve h⟩
  dsimp only
  cases missingLicense s₃.disk v o dir with
  | none => exact hlast s₄
  | some q => exact (note_noted _).bind fun _ s₅ _ _ => hlast s₅

namespace Program

variable {a : BuildArguments} {config : Configuration} {dir : Path}

/-- The descriptor's directory and its configuration. -/
def load (a : BuildArguments) : Work (Path × Configuration) := do
  let file ← Work.ask (·.resolve a.config)
  let config ← loadConfiguration a.config a.overrides (some file.parent)
  return (file.parent, config)

theorem runBuild_eq_load (a : BuildArguments) :
    runBuild a = load a >>= fun x => useConfiguration a x.2 x.1 := by
  simp only [runBuild_eq, load, bind_assoc, pure_bind]

theorem load_noted (a : BuildArguments) (s : Session) : Leads Session.Noted (load a)
    (fun x => x.2.variant = a.overrides.variant ∧ x.2.installer = a.overrides.installer) s := by
  unfold load
  refine ask_noted.bind fun file s₁ _ _ => ?_
  exact (loadConfiguration_noted _ _ _).bind fun config s₂ _ hconfig => .pure hconfig

/-! ## Building -/

/-- The builder for a configuration is made and builds. -/
def buildScript (a : BuildArguments) (dir : Path) (config : Configuration) (temp : Path) :
    Work Artifact := do
  let builder ← Builder.make config (appDirOf a dir) dir temp Staging.systemDirs toolLogger
  builder.build

theorem buildScript_discreet (a : BuildArguments) (dir : Path) (config : Configuration)
    (temp : Path) : Discreet (buildScript a dir config temp) :=
  ((Discreet.ask _).bind fun _ => .pure _).bind fun _ => Builder.build_discreet

/-- Without a directory for the application nothing is done but noting. -/
theorem buildScript_noted (config : Configuration) (temp : Path)
    (h : s.disk.isDir (appDirOf a dir) ≠ .ok true) :
    Keeps Session.Noted (buildScript a dir config temp) s := by
  unfold buildScript Builder.make
  rw [bind_assoc]
  refine ask_noted.bind fun root s₁ h₁ _ => ?_
  rw [pure_bind]
  unfold Builder.build
  refine (note_noted _).bind fun _ s₂ h₂ _ => ?_
  refine ask_noted.bind fun isDir s₃ _ hisDir => ?_
  rw [((trans_of _ h₁ h₂).undisturbed).isDir] at hisDir
  cases isDir with
  | true => exact absurd hisDir h
  | false => exact .throw _

/-- What is noted of a script that was built. -/
def hintNote (config : Configuration) (artifact : Artifact) : Record :=
  ⟨toolLogger, .info, "Compile with: %s",
    [.text (" ".intercalate (compilerCommand config artifact.path "ISCC"))], Origin.compileHint⟩

/-- After the build there is only something left to note. -/
theorem buildInstaller_eq (dir : Path) (s : Session)
    (hvariant : config.variant = a.overrides.variant) : ∃ after,
    buildInstaller a config dir s = ((buildScript a dir config s.temp s).1.map some,
      (buildScript a dir config s.temp s).2.noteAll after) := by
  have happDir : appDirFor a config dir = appDirOf a dir := by rw [appDirFor, appDirOf, hvariant]
  have hsplit : buildInstaller a config dir s = (buildScript a dir config s.temp >>= fun artifact =>
      Work.note (hintNote config artifact) >>= fun _ => pure (some artifact)) s := by
    unfold buildInstaller
    rw [Work.bind_of_ok (Work.get_eq s), happDir, buildScript, bind_assoc]
    rfl
  rw [hsplit]
  rcases bind_outcome (buildScript a dir config s.temp) (fun artifact =>
    Work.note (hintNote config artifact) >>= fun _ => pure (some artifact)) s with
      ⟨f, hf, heq⟩ | ⟨artifact, hartifact, heq⟩
  · refine ⟨[], ?_⟩
    rw [heq, hf]
    rfl
  · refine ⟨[hintNote config artifact], ?_⟩
    rw [heq, hartifact]
    rfl

/-! ## Using a configuration -/

theorem useConfiguration_disabled (dir : Path) (s : Session) (henvs : a.envs = false)
    (hinstaller : config.installer = false) :
    ∃ r, useConfiguration a config dir s = (.ok none, s.note r) := by
  rw [useConfiguration, if_neg (by simp [henvs]), if_pos (by simp [hinstaller])]
  exact ⟨_, rfl⟩

theorem useConfiguration_enabled (dir : Path) (s : Session) (henvs : a.envs = false)
    (hinstaller : config.installer = true) :
    ∃ before, useConfiguration a config dir s = buildInstaller a config dir (s.noteAll before) := by
  rw [useConfiguration, if_neg (by simp [henvs]), if_neg (by simp [hinstaller])]
  split_ifs
  · exact ⟨[skipNote (appDirFor a config dir)], rfl⟩
  · exact ⟨[], rfl⟩

/-! ## Runs -/

/-- What a run comes to, by how far it gets. -/
inductive Ends (a : BuildArguments) (s : Session) :
    Except Failure (Option Artifact) × Session → Prop
  | unloaded {f : Failure} {s₁ : Session} (hload : (load a s).1 = .error f)
    (hnoted : s.Noted s₁) : Ends a s (.error f, s₁)
  | envs {dir : Path} {config : Configuration} {s₁ : Session}
    (hload : (load a s).1 = .ok (dir, config)) (henvs : a.envs = true)
    (htakes : s.takes config.environment = true) (hnoted : s.Noted s₁) :
    Ends a s (.ok none, { s₁ with output := s₁.output ++ config.environment ++ "\n" })
  | untaken {dir : Path} {config : Configuration} {s₁ : Session}
    (hload : (load a s).1 = .ok (dir, config)) (henvs : a.envs = true)
    (htakes : s.takes config.environment = false) (hnoted : s.Noted s₁) :
    Ends a s (.error (.defect .unencodable), s₁)
  | disabled {dir : Path} {config : Configuration} {s₁ : Session}
    (hload : (load a s).1 = .ok (dir, config)) (henvs : a.envs = false)
    (hinstaller : a.overrides.installer = false) (hnoted : s.Noted s₁) : Ends a s (.ok none, s₁)
  | built {dir : Path} {config : Configuration} {s₁ : Session}
    (hload : (load a s).1 = .ok (dir, config)) (henvs : a.envs = false)
    (hinstaller : a.overrides.installer = true) (hnoted : s.Noted s₁) (after : List Record) :
    Ends a s ((buildScript a dir config s.temp s₁).1.map some,
      (buildScript a dir config s.temp s₁).2.noteAll after)

theorem runBuild_ends (a : BuildArguments) (s : Session) : Ends a s (runBuild a s) := by
  obtain ⟨hnoted, hloaded⟩ := load_noted a s
  rw [runBuild_eq_load]
  rcases bind_outcome (load a) (fun x => useConfiguration a x.2 x.1) s with
    ⟨f, hf, heq⟩ | ⟨⟨dir, config⟩, hload, heq⟩
  · rw [heq]
    exact .unloaded hf hnoted
  · obtain ⟨hvariant, hinstaller⟩ := hloaded _ hload
    rw [heq]
    cases henvs : a.envs with
    | true =>
      have hsame := congrFun hnoted.undisturbed.takes config.environment
      cases htakes : s.takes config.environment with
      | true =>
        rw [useConfiguration_envs henvs (hsame.trans htakes)]
        exact .envs hload henvs htakes hnoted
      | false =>
        rw [useConfiguration_untaken henvs (hsame.trans htakes)]
        exact .untaken hload henvs htakes hnoted
    | false =>
      cases hwanted : a.overrides.installer with
      | false =>
        obtain ⟨r, hrun⟩ := useConfiguration_disabled dir (load a s).2 henvs
          (hinstaller.trans hwanted)
        rw [hrun]
        exact .disabled hload henvs hwanted (trans_of _ hnoted (.of_note r))
      | true =>
        obtain ⟨before, hrun⟩ := useConfiguration_enabled dir (load a s).2 henvs
          (hinstaller.trans hwanted)
        have hnoted' : s.Noted ((load a s).2.noteAll before) := trans_of _ hnoted ⟨before, rfl⟩
        obtain ⟨after, hbuild⟩ := buildInstaller_eq dir ((load a s).2.noteAll before) hvariant
        rw [hrun, hbuild, hnoted'.undisturbed.temp]
        exact .built hload henvs hwanted hnoted' after

/-- A run that is not asked for a script, or has not what a script is built from. -/
inductive Idle (a : BuildArguments) (s : Session) : Prop
  | envs (h : a.envs = true)
  | disabled (h : a.overrides.installer = false)
  | unloaded {f : Failure} (h : (load a s).1 = .error f)
  | noAppDir {dir : Path} {config : Configuration} (h : (load a s).1 = .ok (dir, config))
    (hdir : s.disk.isDir (appDirOf a dir) ≠ .ok true)

/-- What a run puts out, by what is loaded and by the texts that can be put out. -/
def textOut (a : BuildArguments) (takes : String → Bool) :
    Except Failure (Path × Configuration) → String
  | .ok (_, config) => if a.envs && takes config.environment then config.environment ++ "\n" else ""
  | .error _ => ""

theorem disk_of_idle (h : Idle a s) : ∃ rs, (runBuild a s).2.disk = (s.noteAll rs).disk := by
  have hends := runBuild_ends a s
  generalize runBuild a s = r at hends
  cases hends with
  | unloaded _ hnoted =>
    obtain ⟨rs, rfl⟩ := hnoted
    exact ⟨rs, rfl⟩
  | envs _ _ _ hnoted =>
    obtain ⟨rs, rfl⟩ := hnoted
    exact ⟨rs, rfl⟩
  | untaken _ _ _ hnoted =>
    obtain ⟨rs, rfl⟩ := hnoted
    exact ⟨rs, rfl⟩
  | disabled _ _ _ hnoted =>
    obtain ⟨rs, rfl⟩ := hnoted
    exact ⟨rs, rfl⟩
  | @built dir config s₁ hload henvs hinstaller hnoted after =>
    cases h with
    | envs h => exact absurd (henvs.symm.trans h) nofun
    | disabled h => exact absurd (hinstaller.symm.trans h) nofun
    | unloaded h => exact absurd (hload.symm.trans h) nofun
    | @noAppDir dir' config' h hdir =>
      obtain ⟨rfl, rfl⟩ := Prod.mk.inj (Except.ok.inj (hload.symm.trans h))
      rw [← hnoted.undisturbed.isDir] at hdir
      have hbuild := buildScript_noted config s.temp hdir
      obtain ⟨rs, heq⟩ : s.Noted ((buildScript a dir config s.temp s₁).2.noteAll after) :=
        trans_of _ (trans_of _ hnoted hbuild.1) ⟨after, rfl⟩
      exact ⟨rs, by rw [heq]⟩

theorem output_of_runBuild (a : BuildArguments) (s : Session) :
    (runBuild a s).2.output = s.output ++ textOut a s.takes (load a s).1 := by
  have hends := runBuild_ends a s
  generalize runBuild a s = r at hends
  cases hends with
  | unloaded hload hnoted => simp [hload, textOut, hnoted.undisturbed.output]
  | envs hload henvs htakes hnoted =>
    simp [hload, textOut, henvs, htakes, hnoted.undisturbed.output, String.append_assoc]
  | untaken hload _ htakes hnoted => simp [hload, textOut, htakes, hnoted.undisturbed.output]
  | disabled hload henvs _ hnoted => simp [hload, textOut, henvs, hnoted.undisturbed.output]
  | @built dir config s₁ hload henvs _ hnoted after =>
    obtain ⟨houtput, -⟩ := (buildScript_discreet a dir config s.temp).silent s₁
    have hafter := (Session.undisturbed_noteAll after
      (buildScript a dir config s.temp s₁).2).output
    simp [hload, textOut, henvs, hafter, houtput, hnoted.undisturbed.output]

theorem outcome_of_envs (henvs : a.envs = true) (hload : (load a s).1 = .ok (dir, config)) :
    (runBuild a s).1 =
      if s.takes config.environment then .ok none else .error (.defect .unencodable) := by
  have hends := runBuild_ends a s
  generalize runBuild a s = r at hends
  cases hends with
  | unloaded hfailed => exact absurd (hload.symm.trans hfailed) nofun
  | envs hload' _ htakes | untaken hload' _ htakes =>
    obtain ⟨rfl, rfl⟩ := Prod.mk.inj (Except.ok.inj (hload.symm.trans hload'))
    rw [htakes]
    rfl
  | disabled _ hoff | built _ hoff => exact absurd (henvs.symm.trans hoff) nofun

theorem built_of_not_idle (h : ¬ Idle a s) : ∃ dir config before after,
    (load a s).1 = .ok (dir, config) ∧
      runBuild a s = ((buildScript a dir config s.temp (s.noteAll before)).1.map some,
        (buildScript a dir config s.temp (s.noteAll before)).2.noteAll after) := by
  have hends := runBuild_ends a s
  generalize runBuild a s = r at hends
  cases hends with
  | unloaded hload => exact absurd (.unloaded hload) h
  | envs _ henvs | untaken _ henvs => exact absurd (.envs henvs) h
  | disabled _ _ hinstaller => exact absurd (.disabled hinstaller) h
  | @built dir config s₁ hload henvs hinstaller hnoted after =>
    obtain ⟨before, rfl⟩ := hnoted
    exact ⟨dir, config, before, after, hload, rfl⟩

/-- What was noted before makes no difference to a build, unless a log file is written. -/
theorem buildScript_noteAll (a : BuildArguments) (dir : Path) (config : Configuration)
    (hs : s.Quiet) (temp : Path) (before after : List Record) :
    (buildScript a dir config temp (s.noteAll before)).1 = (buildScript a dir config temp s).1 ∧
      ((buildScript a dir config temp (s.noteAll before)).2.noteAll after).disk =
        (buildScript a dir config temp s).2.disk := by
  obtain ⟨houtcome, hpeers⟩ :=
    (buildScript_discreet a dir config temp _ _ _ _ _ (hs.peers_noteAll before)).outcome
  have hquiet : (buildScript a dir config temp (s.noteAll before)).2.Quiet := by
    intro k hk
    exact hs k (hpeers.right ▸ hk)
  exact ⟨houtcome.symm, (hquiet.noteAll after).trans hpeers.disk.symm⟩

/-- An idle run leaves the disk as it is, but for the lines of a log file, and one that is not idle
does what the build alone does. A run puts out the environment that it is asked for and nothing
else, and fails if that cannot be put out. -/
theorem runBuild_effects (a : BuildArguments) (s : Session) :
    (Idle a s → (∃ rs, (runBuild a s).2.disk = (s.noteAll rs).disk) ∧
      (s.Quiet → (runBuild a s).2.disk = s.disk)) ∧
    (runBuild a s).2.output = s.output ++ textOut a s.takes (load a s).1 ∧
    (a.envs = true → ∀ dir config, (load a s).1 = .ok (dir, config) → (runBuild a s).1 =
      if s.takes config.environment then .ok none else .error (.defect .unencodable)) ∧
    (¬ Idle a s → ∃ dir config before after, (load a s).1 = .ok (dir, config) ∧
      runBuild a s = ((buildScript a dir config s.temp (s.noteAll before)).1.map some,
        (buildScript a dir config s.temp (s.noteAll before)).2.noteAll after) ∧
      (s.Quiet → (runBuild a s).1 = (buildScript a dir config s.temp s).1.map some ∧
        (runBuild a s).2.disk = (buildScript a dir config s.temp s).2.disk)) := by
  refine ⟨fun hidle => ?_, output_of_runBuild a s, fun henvs _ _ => outcome_of_envs henvs,
    fun hidle => ?_⟩
  · obtain ⟨rs, hdisk⟩ := disk_of_idle hidle
    exact ⟨⟨rs, hdisk⟩, fun hs => hdisk.trans (hs.noteAll rs)⟩
  · obtain ⟨dir, config, before, after, hload, hrun⟩ := built_of_not_idle hidle
    refine ⟨dir, config, before, after, hload, hrun, fun hs => ?_⟩
    obtain ⟨houtcome, hdisk⟩ :=
      buildScript_noteAll a dir config hs s.temp before after
    rw [hrun]
    exact ⟨congrArg (Except.map some) houtcome, hdisk⟩

/-- A session on a disk that holds nothing but a descriptor. -/
def plainSession : Session := loggedSession.rewritten ["p"] plain

/-- Arguments that take the root for the application's directory. -/
def rootArguments : BuildArguments :=
  { sampleArguments false false with appDir := some ⟨.root, []⟩ }

theorem load_of_resolve {file : Path} {v : Value} (hfile : s.disk.resolve a.config = .ok file)
    (hread : readDescriptor a.config s.disk = .ok v)
    (hconfig : resolve s.disk v a.overrides file.parent = .ok config) :
    (load a s).1 = .ok (file.parent, config) := by
  rw [load, Work.bind_of_ok (Work.ask_of_ok hfile),
    Work.bind_of_ok (loadConfiguration_of_ok hread hconfig)]
  rfl

theorem runBuild_effects_plain : ∃ config,
    resolve plainSession.disk plainValue .default ⟨.root, []⟩ = .ok config ∧ plainSession.Quiet ∧
      Idle (sampleArguments true false) plainSession ∧
      (runBuild (sampleArguments true false) plainSession).2.disk = plainSession.disk ∧
      (runBuild (sampleArguments true false) plainSession).2.output = config.environment ++ "\n" ∧
      (runBuild (sampleArguments true false) plainSession).1 = .ok none ∧
      ¬ Idle rootArguments plainSession ∧
      (runBuild rootArguments plainSession).1 =
        (buildScript rootArguments ⟨.root, []⟩ config ⟨.root, ["tmp"]⟩
          plainSession).1.map some := by
  obtain ⟨config, hconfig, hencodable⟩ := resolve_plain
  have hquiet : plainSession.Quiet := nofun
  have hfile : plainSession.disk.resolve ⟨.root, ["p"]⟩ = .ok ⟨.root, ["p"]⟩ := rfl
  have hread : readDescriptor ⟨.root, ["p"]⟩ plainSession.disk = .ok plainValue := read_plain
  have hloaded : (load (sampleArguments true false) plainSession).1 = .ok (⟨.root, []⟩, config) :=
    load_of_resolve (a := sampleArguments true false) hfile hread hconfig
  have hload : (load rootArguments plainSession).1 = .ok (⟨.root, []⟩, config) :=
    load_of_resolve (a := rootArguments) hfile hread hconfig
  have hbusy : ¬ Idle rootArguments plainSession := by
    intro h
    cases h with
    | envs h => exact absurd h (by decide)
    | disabled h => exact absurd h (by decide)
    | unloaded h => exact absurd (hload.symm.trans h) nofun
    | noAppDir h hdir =>
      obtain ⟨rfl, -⟩ := Prod.mk.inj (Except.ok.inj (hload.symm.trans h))
      exact hdir rfl
  obtain ⟨hkept, houtput, hended, -⟩ := runBuild_effects (sampleArguments true false) plainSession
  obtain ⟨-, -, -, hbuilt⟩ := runBuild_effects rootArguments plainSession
  obtain ⟨dir, config', _, _, hload', -, hsame⟩ := hbuilt hbusy
  obtain ⟨rfl, rfl⟩ := Prod.mk.inj (Except.ok.inj (hload.symm.trans hload'))
  have hbegin : plainSession.takes = Text.isEncodable := rfl
  have htakes : plainSession.takes config.environment = true := by rw [hbegin, hencodable]
  have hnone : plainSession.output = "" := rfl
  refine ⟨config, hconfig, hquiet, .envs rfl, (hkept (.envs rfl)).2 hquiet, ?_, ?_, hbusy,
    (hsame hquiet).1⟩
  · rw [houtput, hloaded, hnone, String.empty_append, textOut, htakes]
    rfl
  · rw [hended rfl _ _ hloaded, if_pos htakes]

/-! ## Lines of a log file and surrogates -/

def filed : ByteArray := sampleText ", logging: \x7bfile_path: /l\x7d"

def filedValue : Value :=
  .inGraph (sampleGraph [(.text "logging", .place 2)]
    [.map [(.text "file_path", .scalar (.text "/l"))]]) 0

/-- The session once the log is started in a file. -/
def filedSession : Session := (startLog false (loggingOf filedValue) (sessionOn filed)).2

def disabledArguments : BuildArguments :=
  { sampleArguments false false with overrides := { Overrides.default with installer := false } }

def loneSurrogate : ByteArray := sampleText ", version: \"\\udfff\""

def loneSurrogateValue : Value :=
  .inGraph (sampleGraph [(.text "version", .scalar (.text (Text.ofCodes [0xdfff])))] []) 0

theorem load_filed : Yaml.load filed = .ok filedValue := load_of_graph? (by decide +kernel)

theorem load_loneSurrogate : Yaml.load loneSurrogate = .ok loneSurrogateValue :=
  load_of_graph? (by decide +kernel)

theorem resolve_loneSurrogate : ∃ config,
    resolve (sessionOn loneSurrogate).disk loneSurrogateValue .default ⟨.root, []⟩ = .ok config ∧
      config.version = Text.ofCodes [0xdfff] :=
  ⟨_, rfl, rfl⟩

theorem isEncodable_environment_of_version (h : Text.isEncodable config.version = false) :
    Text.isEncodable config.environment = false := by
  rw [Configuration.isEncodable_environment, List.all_eq_false]
  exact ⟨("APP_VERSION", config.version), by simp [Configuration.settings], by simp [h]⟩

/-- A line of a log file is a change to the disk, and an environment with a surrogate in it is not
put out. -/
theorem runBuild_effects_excepted :
    (startLog false (loggingOf filedValue) (sessionOn filed)).1 = .ok () ∧
    readDescriptor ⟨.root, ["p"]⟩ (sessionOn filed).disk = .ok filedValue ∧
    Idle disabledArguments filedSession ∧
    (filedSession.disk.readText ⟨.root, ["l"]⟩).toOption = some "" ∧
    ((runBuild disabledArguments filedSession).2.disk.readText ⟨.root, ["l"]⟩).toOption =
      some "now - innoBundler.cli - INFO - Installer step disabled; no script generated.\n" ∧
    ∃ config, (load (sampleArguments true false) (sessionOn loneSurrogate)).1 =
        .ok (⟨.root, []⟩, config) ∧
      (runBuild (sampleArguments true false) (sessionOn loneSurrogate)).1 =
        .error (.defect .unencodable) ∧
      (runBuild (sampleArguments true false) (sessionOn loneSurrogate)).2.output = "" := by
  obtain ⟨config, hconfig, hversion⟩ := resolve_loneSurrogate
  have hfile : (sessionOn loneSurrogate).disk.resolve ⟨.root, ["p"]⟩ = .ok ⟨.root, ["p"]⟩ := rfl
  have hread : readDescriptor ⟨.root, ["p"]⟩ (sessionOn loneSurrogate).disk =
      .ok loneSurrogateValue := readDescriptor_of_load rfl load_loneSurrogate rfl
  have hload : (load (sampleArguments true false) (sessionOn loneSurrogate)).1 =
      .ok (⟨.root, []⟩, config) :=
    load_of_resolve (a := sampleArguments true false) hfile hread hconfig
  have hbegin : (sessionOn loneSurrogate).takes = Text.isEncodable := rfl
  have hsurrogate : Text.isEncodable config.version = false := by
    rw [hversion]
    decide
  have htakes : (sessionOn loneSurrogate).takes config.environment = false := by
    rw [hbegin, isEncodable_environment_of_version hsurrogate]
  refine ⟨rfl, readDescriptor_of_load rfl load_filed rfl, .disabled rfl, by decide +kernel,
    by decide +kernel, config, hload, ?_, ?_⟩
  · rw [outcome_of_envs rfl hload, htakes]
    rfl
  · rw [output_of_runBuild, hload, textOut, htakes]
    rfl

end Program

end SetupScript
