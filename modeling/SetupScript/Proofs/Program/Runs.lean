import SetupScript.Program.Build
import SetupScript.Proofs.Build.Twins
import SetupScript.Proofs.Configuration.Loading

/-!
# Runs of the tool

What the tool does with a descriptor that can be read: `loadConfiguration_of_ok` for the
configuration, `useConfiguration` for what is done with it, and `main_build` for how the program
ends. Two runs whose descriptors give one configuration stay twins (`runBuild_together`,
`reporting_together`).
-/

namespace SetupScript

open Resolve CommandLine

variable {c : Scene} {s s' : Session}

section Loading

variable {p dir : Path} {o : Overrides} {v v' : Value} {config : Configuration}

/-- What is noted of a license file that is not there. -/
def licenseNote (q : Path) : Record :=
  ⟨resolveLogger, .debug, "License file %s not found; installer has no license page.", [.path q],
    Origin.licenseCheck⟩

/-- A session after a license file was missed, if it was. -/
def Session.noteLicense (s : Session) : Option Path → Session
  | some q => s.note (licenseNote q)
  | none => s

theorem Session.takes_noteLicense (s : Session) : ∀ q, (s.noteLicense q).takes = s.takes
  | some _ => s.takes_note _
  | none => rfl

theorem loadConfiguration_of_ok (hread : readDescriptor p s.disk = .ok v)
    (hconfig : resolve s.disk v o dir = .ok config) :
    loadConfiguration p o (some dir) s =
      (.ok config, s.noteLicense (missingLicense s.disk v o dir)) := by
  have hload : (readDescriptor p s.disk).mapError (explainReading p) = .ok v := by
    rw [hread]
    rfl
  unfold loadConfiguration
  rw [Work.bind_of_ok (Work.get_eq s), Work.bind_of_ok (Work.ofExcept_of_ok hload s)]
  change resolveNoting v o dir s = _
  unfold resolveNoting
  rw [Work.bind_of_ok (Work.get_eq s)]
  cases missingLicense s.disk v o dir with
  | none =>
    change Work.ofExcept (resolve s.disk v o dir) s = _
    rw [hconfig]
    rfl
  | some q =>
    change (_, s.note (licenseNote q)) = _
    rw [hconfig]
    rfl

end Loading

namespace Program

variable {a : BuildArguments} {config : Configuration} {dir project : Path}

def appDirFor (a : BuildArguments) (config : Configuration) (dir : Path) : Path :=
  a.appDir.getD (defaultAppDir config.variant dir)

/-- The builder that a run makes, in a project whose directory is resolved. -/
def builderFor (a : BuildArguments) (config : Configuration) (dir project temp : Path) : Builder :=
  ⟨config, appDirFor a config dir, project, temp, Staging.systemDirs, toolLogger⟩

/-- What comes after a configuration that asks for an installer. -/
def buildInstaller (a : BuildArguments) (config : Configuration) (dir : Path) :
    Work (Option Artifact) := do
  let temp := (← get).temp
  let builder ← Builder.make config (appDirFor a config dir) dir temp Staging.systemDirs toolLogger
  let artifact ← builder.build
  note toolLogger .info "Compile with: %s"
    [.text (" ".intercalate (compilerCommand config artifact.path "ISCC"))] Origin.compileHint
  return some artifact

/-- Two runs give the same, and the script of an artifact is on both disks. -/
def Written (c : Scene) (r : Option Artifact) (s : Session) (r' : Option Artifact) (s' : Session) :
    Prop :=
  (r = r' ∧ s.Twins c s') ∧ ∀ a, r = some a → a.IsOn s ∧ a.IsOn s'

theorem note_together (h : s.Twins c s') (logger : String) (level : Level) (pattern : String)
    (arguments : List Argument) (origin : Origin) :
    Together (Session.Twins c) (Alike (Session.Twins c))
      (note logger level pattern arguments origin) (note logger level pattern arguments origin)
      s s' :=
  Work.note_together h _

theorem buildInstaller_together (h : s.Twins c s') (hproject : s.disk.resolve dir = .ok project)
    (hb : (builderFor a config dir project c.temp).Clear c) :
    Together (Session.Twins c) (Written c) (buildInstaller a config dir)
      (buildInstaller a config dir) s s' := by
  have hproject' : s'.disk.resolve dir = .ok project := h.disk.resolve_eq dir ▸ hproject
  unfold buildInstaller
  refine .after (Work.get_eq s) (Work.get_eq s') ?_
  rw [h.temp.1, h.temp.2]
  refine .after (Builder.make_of_ok hproject) (Builder.make_of_ok hproject') ?_
  refine (Builder.build_together hb h).bind fun artifact s₁ artifact' s₁' hpublished => ?_
  obtain ⟨rfl, -⟩ := hpublished.1
  obtain ⟨-, htwins, hon, hon'⟩ := hpublished.note hb
    ⟨toolLogger, .info, "Compile with: %s",
      [.text (" ".intercalate (compilerCommand config artifact.path "ISCC"))], Origin.compileHint⟩
  refine .of_ok rfl rfl ⟨⟨rfl, htwins⟩, ?_⟩
  rintro _ ⟨⟩
  exact ⟨hon, hon'⟩

/-- What is noted where the application is not built anew. -/
def skipNote (appDir : Path) : Record :=
  ⟨toolLogger, .info, "Application build skipped; using existing output in %s", [.path appDir],
    Origin.applicationSkipped⟩

/-- What a run does with a configuration. -/
def useConfiguration (a : BuildArguments) (config : Configuration) (dir : Path) :
    Work (Option Artifact) := do
  if a.envs then
    Work.put config.environment
    return none
  if !config.installer then
    note toolLogger .info "Installer step disabled; no script generated." []
      Origin.installerDisabled
    return none
  if !config.app then
    note toolLogger .info "Application build skipped; using existing output in %s"
      [.path (appDirFor a config dir)] Origin.applicationSkipped
  buildInstaller a config dir

theorem runBuild_eq (a : BuildArguments) : runBuild a = (do
    let file ← Work.ask (·.resolve a.config)
    let config ← loadConfiguration a.config a.overrides (some file.parent)
    useConfiguration a config file.parent) := rfl

theorem useConfiguration_together (h : s.Twins c s')
    (hproject : s.disk.resolve dir = .ok project)
    (hb : a.envs = false → config.installer = true →
      (builderFor a config dir project c.temp).Clear c) :
    Together (Session.Twins c) (Written c) (useConfiguration a config dir)
      (useConfiguration a config dir) s s' := by
  unfold useConfiguration
  split_ifs with henvs hinstaller happ
  · exact (Work.put_together h _).bind fun _ _ _ _ ⟨_, h₁⟩ => .pure ⟨⟨rfl, h₁⟩, nofun⟩
  · exact (note_together h _ _ _ _ _).bind fun _ _ _ _ ⟨_, h₁⟩ => .pure ⟨⟨rfl, h₁⟩, nofun⟩
  all_goals have hclear := hb (by simpa using henvs) (by simpa using hinstaller)
  · have hskip : ∀ s : Session, note toolLogger .info
        "Application build skipped; using existing output in %s" [.path (appDirFor a config dir)]
        Origin.applicationSkipped s = (.ok (), s.note (skipNote (appDirFor a config dir))) :=
      fun _ => rfl
    have hroot := (Session.resolve_note dir (skipNote (appDirFor a config dir))).trans hproject
    exact .after (hskip s) (hskip s') (buildInstaller_together (h.note _) hroot hclear)
  · exact buildInstaller_together h hproject hclear

theorem useConfiguration_envs (henvs : a.envs = true) (htakes : s.takes config.environment = true) :
    useConfiguration a config dir s =
      (.ok none, { s with output := s.output ++ config.environment ++ "\n" }) := by
  rw [useConfiguration, if_pos henvs, Work.bind_of_ok (Work.put_of_takes htakes)]
  rfl

theorem useConfiguration_untaken (henvs : a.envs = true)
    (htakes : s.takes config.environment = false) :
    useConfiguration a config dir s = (.error (.defect .unencodable), s) := by
  rw [useConfiguration, if_pos henvs, Work.bind_of_error (Work.put_of_not_takes htakes)]

/-- A run that is asked for the environment puts it out, if it can be put out. -/
theorem runBuild_envs {file : Path} {v : Value} (henvs : a.envs = true)
    (hfile : s.disk.resolve a.config = .ok file) (hread : readDescriptor a.config s.disk = .ok v)
    (hconfig : resolve s.disk v a.overrides file.parent = .ok config)
    (htakes : s.takes config.environment = true) : (runBuild a s).1 = .ok none := by
  have hloaded : (s.noteLicense (missingLicense s.disk v a.overrides file.parent)).takes
      config.environment = true := by rwa [Session.takes_noteLicense]
  rw [runBuild_eq, Work.bind_of_ok (Work.ask_of_ok hfile),
    Work.bind_of_ok (loadConfiguration_of_ok hread hconfig), useConfiguration_envs henvs hloaded]

/-- Two runs on one project, whose descriptors are resolved to one configuration. -/
theorem runBuild_together (h : s.Twins c s') {file : Path} {v v' : Value}
    (hfile : s.disk.resolve a.config = .ok file)
    (hproject : s.disk.resolve file.parent = .ok project)
    (hread : readDescriptor a.config s.disk = .ok v)
    (hread' : readDescriptor a.config s'.disk = .ok v')
    (hconfig : resolve s.disk v a.overrides file.parent = .ok config)
    (hconfig' : resolve s'.disk v' a.overrides file.parent = .ok config)
    (hmissing : missingLicense s.disk v a.overrides file.parent =
      missingLicense s'.disk v' a.overrides file.parent)
    (hb : a.envs = false → config.installer = true →
      (builderFor a config file.parent project c.temp).Clear c) :
    Together (Session.Twins c) (Written c) (runBuild a) (runBuild a) s s' := by
  have hfile' : s'.disk.resolve a.config = .ok file := h.disk.resolve_eq a.config ▸ hfile
  rw [runBuild_eq]
  refine .after (Work.ask_of_ok hfile) (Work.ask_of_ok hfile') ?_
  refine .after (loadConfiguration_of_ok hread hconfig) (loadConfiguration_of_ok hread' hconfig') ?_
  rw [hmissing]
  cases missingLicense s'.disk v' a.overrides file.parent with
  | none => exact useConfiguration_together h hproject hb
  | some q =>
    have hroot := (Session.resolve_note file.parent (licenseNote q)).trans hproject
    exact useConfiguration_together (h.note _) hroot hb

/-- Notes a failure that the program has a message for. -/
def reporting (t : Work (Option Artifact)) : Work (Option Artifact) := fun s =>
  let r := t s
  match r.1 with
  | .error f => match f.told? with
    | some t => (r.1, r.2.note
        ⟨toolLogger, .error, "%s", [.error t.kind t.message], Origin.failureReported⟩)
    | none => r
  | .ok _ => r

theorem buildWithLog_eq (a : BuildArguments) : buildWithLog a = (do
    let s ← get
    let fields ← Work.ofExcept (logFields a.config s.disk)
    startLog a.verbose fields
    reporting (runBuild a)) := rfl

theorem reporting_of_ok {t : Work (Option Artifact)} {r : Option Artifact}
    (h : (t s).1 = .ok r) : reporting t s = t s := by
  unfold reporting
  simp only
  rw [h]

theorem reporting_of_error {t : Work (Option Artifact)} {f : Failure}
    (h : (t s).1 = .error f) : reporting t s = match f.told? with
      | some told => (.error f, (t s).2.note ⟨toolLogger, .error, "%s",
          [.error told.kind told.message], Origin.failureReported⟩)
      | none => (.error f, (t s).2) := by
  unfold reporting
  simp only
  rw [h]
  dsimp only
  cases f.told? with
  | none => exact Prod.ext h rfl
  | some told => rfl

theorem reporting_together {t : Work (Option Artifact)}
    (h : Together (Session.Twins c) (Written c) t t s s') :
    Together (Session.Twins c) (Written c) (reporting t) (reporting t) s s' := by
  cases h with
  | ok h h' hP =>
    have hrun := reporting_of_ok h
    have hrun' := reporting_of_ok h'
    exact .ok (hrun ▸ h) (hrun' ▸ h') (by rwa [hrun, hrun'])
  | @error f h h' hR =>
    have hrun := reporting_of_error h
    have hrun' := reporting_of_error h'
    cases htold : f.told? with
    | none =>
      rw [htold] at hrun hrun'
      exact .of_error hrun hrun' hR
    | some told =>
      rw [htold] at hrun hrun'
      exact .of_error hrun hrun' (hR.note _)

/-! ## Endings -/

section Endings

variable {words : List String} {guid : String}

/-- How the program ends after a build. -/
def endingOf : Except Failure (Option Artifact) → Ending
  | .ok _ => .finished
  | .error f => match f.told? with
    | some t => .message t.message
    | none => .failed f

theorem main_build (hcommand : Command.read words = .ok (.build a)) (s : Session) :
    main words guid s = (endingOf (buildWithLog a s).1, (buildWithLog a s).2) := by
  unfold main
  rw [hcommand]
  dsimp only
  generalize buildWithLog a s = r
  obtain ⟨r, s'⟩ := r
  cases r with
  | ok r => rfl
  | error f =>
    dsimp only [endingOf]
    cases f.told? with
    | none => rfl
    | some t => rfl

theorem main_fst (hcommand : Command.read words = .ok (.build a)) (s : Session) :
    (main words guid s).1 = endingOf (buildWithLog a s).1 :=
  congrArg Prod.fst (main_build hcommand s)

theorem main_snd (hcommand : Command.read words = .ok (.build a)) (s : Session) :
    (main words guid s).2 = (buildWithLog a s).2 :=
  congrArg Prod.snd (main_build hcommand s)

end Endings

end Program

end SetupScript
