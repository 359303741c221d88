import SetupScript.Proofs.Configuration.Environment
import SetupScript.Proofs.Configuration.Likeness
import SetupScript.Proofs.Program.LogSettings
import SetupScript.Proofs.Program.Runs

/-!
# Builds with and without a log

A descriptor and the same without its logging block are built alike (`buildWithLog_rewritten`): the
two runs go on side by side, one of them with a log. Where the settings of the block cannot be used
the program fails instead, and nothing reports it (`main_of_unusable`).
-/

namespace SetupScript

open Resolve CommandLine

/-- The session with other bytes in a file. -/
def Session.rewritten (s : Session) (place : Location) (new : ByteArray) :
    Session :=
  { s with disk := { s.disk with tree := s.disk.tree.put place (.file new) } }

namespace Program

variable {c : Scene} {s s' : Session} {a : BuildArguments} {config : Configuration}
  {dir project : Path}

/-- A descriptor and the same without its logging block. -/
structure LoggingRemoved (v v' : Value) : Prop where
  blocks : blocksOf v = .ok (outerOf v, blockOf v)
  same : SameBlocks (outerOf v) (blockOf v) (outerOf v') (blockOf v')
  removed : (blockOf v').field? "logging" = none

/-- The file of a log is not one that a run reads or writes, nor one that it lists. -/
structure LogApart (a : BuildArguments) (block : Fields) (project : Path) (b : Builder) (d : Disk)
    (log : Option Path) : Prop where
  config : d.terrain.Clear (madeFor log d) a.config
  icon : ∀ s, block.field "installer_icon" = .text s →
    d.terrain.Clear (madeFor log d) (project.child s)
  license : ∀ name, licenseName block = .ok name →
    d.terrain.Clear (madeFor log d) (project.child name)
  uses : a.envs = false → b.config.installer = true → ∀ p, b.Uses d.here p →
    d.terrain.Clear (madeFor log d) p
  apart : a.envs = false → b.config.installer = true → ∀ place ∈ madeFor log d,
    place.dropLast ≠ (d.terrain.way b.appDir).goal
  script : a.envs = false → b.config.installer = true → ∀ p, log = some p →
    (d.terrain.way p).goal ≠ (d.terrain.way b.scriptPath).goal

theorem LogApart.of_none {block : Fields} {b : Builder} {d : Disk} :
    LogApart a block project b d none := by
  have hnone : ∀ place, place ∉ madeFor none d := by
    intro place
    rw [madeFor_none]
    exact Set.notMem_empty place
  have hclear : ∀ p, d.terrain.Clear (madeFor none d) p := fun _ place _ => hnone place
  exact ⟨hclear _, fun _ _ => hclear _, fun _ _ => hclear _, fun _ _ p _ => hclear p,
    fun _ _ place hplace => absurd hplace (hnone place), fun _ _ _ h => nomatch h⟩

section TwoRuns

variable {words : List String} {guid : String} {temp file : Path} {d : Disk}
  {place : Location} {bytes new : ByteArray} {v v' : Value}

theorem readDescriptor_congr {d d' : Disk} {p : Path} (h : d'.read p = d.read p) :
    readDescriptor p d' = readDescriptor p d := by
  rw [readDescriptor, readDescriptor, h]

theorem main_of_unusable (hcommand : Command.read words = .ok (.build a))
    (hread : readDescriptor a.config s.disk = .ok v)
    (h : Unusable a.verbose (loggingOf v) s.disk) : ∃ f, (main words guid s).1 = .failed f := by
  obtain ⟨f, hf, htold⟩ := ((startLog_cases a.verbose (loggingOf v) s).resolve_right
    fun hnot => hnot.1 h).2
  have hfields : Work.ofExcept (logFields a.config s.disk) s = (.ok (loggingOf v), s) :=
    Work.ofExcept_of_ok (logFields_of_read hread) s
  have hfailed : (buildWithLog a s).1 = .error f := by
    rw [buildWithLog_eq, Work.bind_of_ok (Work.get_eq s), Work.bind_of_ok hfields,
      Work.bind_of_error (Prod.ext hf rfl)]
  refine ⟨f, ?_⟩
  rw [main_fst hcommand, hfailed, endingOf, htold]

/-- Once their logs are started, two sessions that differ in the bytes of a file are twins. -/
theorem Started.twins_rewritten {fields : Fields} {s₀ s s' : Session} (h : Started fields s₀ s)
    (h' : Started [] (s₀.rewritten place new) s')
    (hfile : s₀.disk.tree.get? place = some (.file bytes)) : ∃ k k',
      k.file = logPath? s₀.disk.here fields ∧ k'.file = none ∧
        s.Twins ⟨s₀.disk.terrain, madeFor (logPath? s₀.disk.here fields) s₀.disk, s₀.temp, some k,
          some k'⟩ s' := by
  obtain ⟨k, hs, hk⟩ := h.session
  obtain ⟨k', hs', hk'⟩ := h'.session
  have hsame : s'.disk = (s₀.rewritten place new).disk := h'.disk
  have hdisk : s.disk.Twins s₀.disk.terrain (madeFor (logPath? s₀.disk.here fields) s₀.disk)
      s'.disk := by
    rw [hsame]
    exact (h.twins.symm.rewrite hfile new).symm
  refine ⟨k, k', hk, hk', ?_⟩
  rw [hs, hs']
  exact ⟨hdisk, ⟨rfl, rfl⟩, rfl, rfl, rfl, rfl, rfl⟩

theorem Started.takes {fields : Fields} (h : Started fields s s') : s'.takes = s.takes := by
  obtain ⟨k, hs, -⟩ := h.session
  rw [hs]

theorem LogApart.sameAnswers {block : Fields} {b : Builder} {log : Option Path} {d₁ d₂ : Disk}
    (h : LogApart a block project b d log) (htwins : d₁.Twins d.terrain (madeFor log d) d₂)
    (hproject : d₂.resolve dir = .ok project) : SameAnswers d₂ d₁ dir block where
  root := (htwins.resolve_eq dir).symm
  icon root s hroot hs := by
    obtain rfl := Except.ok.inj (hproject.symm.trans hroot)
    exact (htwins.isFile_eq (h.icon s hs)).symm
  license root name hroot hname := by
    obtain rfl := Except.ok.inj (hproject.symm.trans hroot)
    exact (htwins.isFile_eq (h.license name hname)).symm

theorem LogApart.clear {block : Fields} {b : Builder} {log : Option Path}
    (h : LogApart a block project b d log) (henvs : a.envs = false)
    (hinstaller : b.config.installer = true) {k k' : Sink} (hk : k.file = log)
    (hk' : k'.file = none) : b.Clear ⟨d.terrain, madeFor log d, temp, some k, some k'⟩ where
  uses := h.uses henvs hinstaller
  apart := h.apart henvs hinstaller
  left := by
    rintro ⟨_, p, ⟨⟩, hp, hgoal⟩
    exact h.script henvs hinstaller p (hk ▸ hp) hgoal.symm
  right := by
    rintro ⟨_, p, ⟨⟩, hp, -⟩
    rw [hk'] at hp
    contradiction

theorem buildWithLog_of_started {s₁ : Session}
    (hread : readDescriptor a.config s.disk = .ok v)
    (hstart : startLog a.verbose (loggingOf v) s = (.ok (), s₁)) :
    buildWithLog a s = reporting (runBuild a) s₁ := by
  have hfields : Work.ofExcept (logFields a.config s.disk) s = (.ok (loggingOf v), s) :=
    Work.ofExcept_of_ok (logFields_of_read hread) s
  rw [buildWithLog_eq, Work.bind_of_ok (Work.get_eq s), Work.bind_of_ok hfields,
    Work.bind_of_ok hstart]

/-- The builds of a descriptor with usable log settings, and without any. -/
theorem buildWithLog_rewritten
    (hentry : s.disk.entry a.config = .ok (place, .file bytes))
    (hread : readDescriptor a.config s.disk = .ok v)
    (hread' : readDescriptor a.config (s.rewritten place new).disk = .ok v')
    (hremoved : LoggingRemoved v v')
    (hfile : (s.rewritten place new).disk.resolve a.config = .ok file)
    (hproject : (s.rewritten place new).disk.resolve file.parent = .ok project)
    (hconfig : resolve (s.rewritten place new).disk v' a.overrides file.parent = .ok config)
    (husable : ¬ Unusable a.verbose (loggingOf v) s.disk)
    (hapart : LogApart a (blockOf v') project (builderFor a config file.parent project s.temp)
      s.disk (logPath? s.disk.here (loggingOf v))) :
    ∃ c, Together (Session.Twins c) (Written c) (buildWithLog a) (buildWithLog a) s
      (s.rewritten place new) := by
  obtain ⟨s₁, hstart, hstarted⟩ :=
    ((startLog_cases a.verbose (loggingOf v) s).resolve_left fun h => husable h.1).2
  have hnone : loggingOf v' = [] := by
    rw [loggingOf, Fields.field, hremoved.removed]
    rfl
  obtain ⟨s₁', hstart', hstarted'⟩ := startLog_nil a.verbose (s.rewritten place new)
  have hsame : s₁'.disk = (s.rewritten place new).disk := hstarted'.disk
  have hplace : s.disk.tree.get? place = some (.file bytes) :=
    ((Disk.entry_arrives hentry).found.resolve_left (by simp)).1.symm
  obtain ⟨k, k', hk, hk', htwins⟩ := hstarted.twins_rewritten hstarted' hplace
  rw [← hsame] at hread' hfile hproject hconfig
  have hreadLog : readDescriptor a.config s₁.disk = .ok v :=
    (readDescriptor_congr (hstarted.read_eq hapart.config)).trans hread
  obtain ⟨hresolved, hmissing⟩ := resolve_like hremoved.same.symm hremoved.blocks
    (hapart.sameAnswers htwins.disk hproject) hconfig
  have hruns := runBuild_together htwins ((htwins.disk.resolve_eq a.config).trans hfile)
    ((htwins.disk.resolve_eq file.parent).trans hproject) hreadLog hread' hresolved hconfig
    hmissing fun henvs hinstaller => hapart.clear henvs hinstaller hk hk'
  exact ⟨_, .congr (buildWithLog_of_started hread hstart)
    (buildWithLog_of_started (hsame ▸ hread') (hnone ▸ hstart')) (reporting_together hruns)⟩

/-- Two runs of the program end alike, put out the same and write the same script. -/
structure SameBuild (words : List String) (guid : String) (a : BuildArguments) (s s' : Session) :
    Prop where
  ending : (main words guid s).1 = (main words guid s').1
  output : (main words guid s).2.output = (main words guid s').2.output
  made : (buildWithLog a s).1 = (buildWithLog a s').1
  script : ∀ artifact, (buildWithLog a s).1 = .ok (some artifact) →
    artifact.IsOn (main words guid s).2 ∧ artifact.IsOn (main words guid s').2

theorem SameBuild.of_together (hcommand : Command.read words = .ok (.build a))
    (h : Together (Session.Twins c) (Written c) (buildWithLog a) (buildWithLog a) s s') :
    SameBuild words guid a s s' := by
  have hmade : (buildWithLog a s).1 = (buildWithLog a s').1 := by
    cases h with
    | ok h h' hwritten => rw [h, h', hwritten.1.1]
    | error h h' => rw [h, h']
  refine ⟨?_, ?_, hmade, fun artifact hartifact => ?_⟩
  · rw [main_fst hcommand, main_fst hcommand, hmade]
  · rw [main_snd hcommand, main_snd hcommand]
    cases h with
    | ok h h' hwritten => exact hwritten.1.2.output
    | error h h' htwins => exact htwins.output
  · rw [main_snd hcommand, main_snd hcommand]
    cases h with
    | ok h h' hwritten => exact hwritten.2 artifact (Except.ok.inj (h.symm.trans hartifact))
    | error h =>
      rw [h] at hartifact
      contradiction

/-- Log settings that cannot be used break every build of a descriptor that is accepted without
them; any others change nothing about it. -/
theorem main_logging (hcommand : Command.read words = .ok (.build a))
    (hentry : s.disk.entry a.config = .ok (place, .file bytes))
    (hread : readDescriptor a.config s.disk = .ok v)
    (hread' : readDescriptor a.config (s.rewritten place new).disk = .ok v')
    (hremoved : LoggingRemoved v v')
    (hfile : (s.rewritten place new).disk.resolve a.config = .ok file)
    (hproject : (s.rewritten place new).disk.resolve file.parent = .ok project)
    (hconfig : resolve (s.rewritten place new).disk v' a.overrides file.parent = .ok config) :
    (Unusable a.verbose (loggingOf v) s.disk → ∃ f, (main words guid s).1 = .failed f) ∧
    (¬ Unusable a.verbose (loggingOf v) s.disk →
      LogApart a (blockOf v') project (builderFor a config file.parent project s.temp) s.disk
        (logPath? s.disk.here (loggingOf v)) →
      SameBuild words guid a s (s.rewritten place new)) := by
  refine ⟨main_of_unusable hcommand hread, fun husable hapart => ?_⟩
  obtain ⟨c, hruns⟩ := buildWithLog_rewritten hentry hread hread' hremoved hfile hproject hconfig
    husable hapart
  exact .of_together hcommand hruns

end TwoRuns

/-! ## A level that names a format -/

section Sample

def graph? : Value → Option (Graph × Nat)
  | .inGraph g n => some (g, n)
  | _ => none

theorem load_of_graph? {bytes : ByteArray} {g : Graph} {n : Nat}
    (h : (Yaml.load bytes).toOption.bind graph? = some (g, n)) :
    Yaml.load bytes = .ok (.inGraph g n) := by
  cases hload : Yaml.load bytes with
  | error e =>
    rw [hload] at h
    contradiction
  | ok v =>
    rw [hload] at h
    cases v with
    | inGraph g' n' =>
      cases h
      rfl
    | scalar | list | pair | set | map => contradiction

/-- The text of a descriptor with something more in its block. -/
def sampleText (more : String) : ByteArray :=
  ("\x7bname: a, version: b, description: c, maintainer: d, inno_bundle: " ++
    "\x7bid: f887d5f0-4690-1e07-8efc-d16ea7711bfb" ++ more ++ "\x7d\x7d").toUTF8

def logged : ByteArray := sampleText ", logging: \x7blevel: BASIC_FORMAT\x7d"

def plain : ByteArray := sampleText ""

def sampleTexts : List (String × String) :=
  [("name", "a"), ("version", "b"), ("description", "c"), ("maintainer", "d")]

/-- What the text means, with something more in its block. -/
def sampleGraph (more : List (Scalar × Link)) (rest : List Collection) : Graph :=
  ⟨.map (sampleTexts.map (fun e => (.text e.1, .scalar (.text e.2))) ++
      [(.text blockName, .place 1)]) ::
    .map ((.text "id", .scalar (.text "f887d5f0-4690-1e07-8efc-d16ea7711bfb")) :: more) :: rest⟩

def loggedValue : Value :=
  .inGraph (sampleGraph [(.text "logging", .place 2)]
    [.map [(.text "level", .scalar (.text "BASIC_FORMAT"))]]) 0

def plainValue : Value := .inGraph (sampleGraph [] []) 0

theorem load_logged : Yaml.load logged = .ok loggedValue := load_of_graph? (by decide +kernel)

theorem load_plain : Yaml.load plain = .ok plainValue := load_of_graph? (by decide +kernel)

theorem loggingRemoved_sample : LoggingRemoved loggedValue plainValue where
  blocks := rfl
  same :=
    { outer := fun key hkey n => by
        let texts : Fields := sampleTexts.map fun e => (.text e.1, .text e.2)
        have hlast : ∀ v, Fields.field? (texts ++ [(.text blockName, v)]) key =
            texts.field? key := fun v => Fields.field?_append_of_ne texts v hkey.symm
        exact congrArg _ ((hlast _).trans (hlast _).symm)
      block := fun key hkey n =>
        congrArg _ (Fields.field?_append_of_ne (blockOf plainValue) _ hkey.symm) }
  removed := rfl

/-- The first session of a program, with a descriptor of this text. -/
def sessionOn (text : ByteArray) : Session :=
  .begin ⟨FileTree.empty.put ["p"] (.file text), []⟩ ⟨.root, ["tmp"]⟩ "now"

def loggedSession : Session := sessionOn logged

theorem entry_logged :
    loggedSession.disk.entry ⟨.root, ["p"]⟩ = .ok (["p"], .file logged) := rfl

theorem readDescriptor_of_load {p : Path} {d : Disk} {bytes : ByteArray} {v : Value}
    (hread : d.read p = .ok bytes) (hload : Yaml.load bytes = .ok v) (hv : v.isNothing = false) :
    readDescriptor p d = .ok v := by
  rw [readDescriptor, hread]
  dsimp only
  rw [hload]
  dsimp only
  rw [hv, if_neg Bool.false_ne_true]

theorem read_logged : readDescriptor ⟨.root, ["p"]⟩ loggedSession.disk = .ok loggedValue :=
  readDescriptor_of_load rfl load_logged rfl

theorem read_plain :
    readDescriptor ⟨.root, ["p"]⟩ (loggedSession.rewritten ["p"] plain).disk = .ok plainValue :=
  readDescriptor_of_load rfl load_plain rfl

theorem resolve_plain : ∃ config, resolve (loggedSession.rewritten ["p"] plain).disk plainValue
    .default ⟨.root, []⟩ = .ok config ∧ Text.isEncodable config.environment = true :=
  ⟨_, rfl, (Configuration.isEncodable_environment_iff (by decide)).2 (by decide)⟩

def sampleArguments (envs verbose : Bool) : BuildArguments :=
  ⟨⟨.root, ["p"]⟩, none, .default, envs, verbose⟩

theorem read_verbose : Command.read ["build", "--config", "/p", "--verbose"] =
    .ok (.build (sampleArguments false true)) := rfl

theorem read_envs : Command.read ["build", "--config", "/p", "--envs"] =
    .ok (.build (sampleArguments true false)) := rfl

theorem main_logging_verbose : ∃ config,
    Command.read ["build", "--config", "/p", "--verbose"] =
      .ok (.build (sampleArguments false true)) ∧
    loggedSession.disk.entry ⟨.root, ["p"]⟩ = .ok (["p"], .file logged) ∧
    readDescriptor ⟨.root, ["p"]⟩ loggedSession.disk = .ok loggedValue ∧
    readDescriptor ⟨.root, ["p"]⟩ (loggedSession.rewritten ["p"] plain).disk = .ok plainValue ∧
    LoggingRemoved loggedValue plainValue ∧
    resolve (loggedSession.rewritten ["p"] plain).disk plainValue .default ⟨.root, []⟩ =
      .ok config ∧
    ¬ Unusable true (loggingOf loggedValue) loggedSession.disk ∧
    SameBuild ["build", "--config", "/p", "--verbose"] "" (sampleArguments false true)
      loggedSession (loggedSession.rewritten ["p"] plain) := by
  obtain ⟨config, hconfig, -⟩ := resolve_plain
  have husable : ¬ Unusable true (loggingOf loggedValue) loggedSession.disk :=
    not_unusable_of_ok rfl
  exact ⟨config, read_verbose, entry_logged, read_logged, read_plain, loggingRemoved_sample,
    hconfig, husable, (main_logging read_verbose entry_logged read_logged read_plain
      loggingRemoved_sample rfl rfl hconfig).2 husable .of_none⟩

/-- A level that is the name of a format fails a build that goes well without the logging block. -/
theorem main_logging_levelName :
    readDescriptor ⟨.root, ["p"]⟩ loggedSession.disk = .ok loggedValue ∧
    readDescriptor ⟨.root, ["p"]⟩ (loggedSession.rewritten ["p"] plain).disk = .ok plainValue ∧
    LoggingRemoved loggedValue plainValue ∧
    (∃ f, (main ["build", "--config", "/p", "--envs"] "" loggedSession).1 = .failed f) ∧
    (main ["build", "--config", "/p", "--envs"] "" (loggedSession.rewritten ["p"] plain)).1 =
      .finished := by
  refine ⟨read_logged, read_plain, loggingRemoved_sample,
    main_of_unusable read_envs read_logged (.levelName rfl rfl (.inl (by decide))), ?_⟩
  obtain ⟨config, hconfig, hencodable⟩ := resolve_plain
  have hnone : loggingOf plainValue = [] := rfl
  have hresolved : (loggedSession.rewritten ["p"] plain).disk.resolve ⟨.root, ["p"]⟩ =
      .ok ⟨.root, ["p"]⟩ := rfl
  obtain ⟨s', hstart, hstarted⟩ := startLog_nil false (loggedSession.rewritten ["p"] plain)
  have hdisk : s'.disk = (loggedSession.rewritten ["p"] plain).disk := hstarted.disk
  have hbegin : (loggedSession.rewritten ["p"] plain).takes = Text.isEncodable := rfl
  have htakes : s'.takes config.environment = true := by
    rw [hstarted.takes, hbegin, hencodable]
  have hstart' : startLog (sampleArguments true false).verbose (loggingOf plainValue)
      (loggedSession.rewritten ["p"] plain) = (.ok (), s') := hnone ▸ hstart
  have hread : readDescriptor (sampleArguments true false).config
      (loggedSession.rewritten ["p"] plain).disk = .ok plainValue := read_plain
  have hfinished : (runBuild (sampleArguments true false) s').1 = .ok none :=
    runBuild_envs rfl (hdisk ▸ hresolved) (hdisk ▸ read_plain) (hdisk ▸ hconfig) htakes
  rw [main_fst read_envs, buildWithLog_of_started hread hstart', reporting_of_ok hfinished,
    hfinished, endingOf]

end Sample

end Program

end SetupScript
