import SetupScript.Proofs.Build.Encodable

/-!
# Runs of builds

In a run of builds on one disk a script is only ever replaced as a whole, by a build that succeeds.
A single build does so to its own script and to no other (`build_fileAt?`), since no staged file has
the name of a script. By induction over the run each script is the text of the last build that
succeeded for it (`buildAll_fileAt?`).
-/

namespace SetupScript.Builder

/-- One build after the other, each on the disk that the one before left, failed or not. -/
def buildAll : List Builder → Session → List (Builder × Except Failure Artifact) × Session
  | [], s => ([], s)
  | b :: bs, s =>
    let r := b.build s
    let rest := buildAll bs r.2
    ((b, r.1) :: rest.1, rest.2)

/-- The text that a successful build writes to a place. -/
def textFor? (here place : Location) : Builder × Except Failure Artifact → Option String
  | (b, .ok artifact) => if b.scriptPlace here = place then some artifact.text else none
  | (_, .error _) => none

/-- The text of the last successful build of a run whose script belongs to a place. -/
def lastText? (here place : Location) (outcomes : List (Builder × Except Failure Artifact)) :
    Option String :=
  (outcomes.filterMap (textFor? here place)).getLast?

variable {here place : Location} {s : Session}

theorem lastText?_cons (x : Builder × Except Failure Artifact)
    (xs : List (Builder × Except Failure Artifact)) :
    lastText? here place (x :: xs) = (lastText? here place xs).or (textFor? here place x) := by
  unfold lastText?
  rw [List.filterMap_cons]
  cases textFor? here place x with
  | none => simp
  | some text => rw [List.getLast?_cons]; cases (List.getLast? _) <;> rfl

/-- No staged file has the name of a script. -/
theorem scriptPlace_notMem_stagedFiles (b owner : Builder) :
    owner.scriptPlace here ∉ b.stagedFiles here := by
  have hscript : (owner.scriptPlace here).getLast? = some scriptName :=
    Path.getLast?_place_descend (by decide)
  rintro (h | ⟨name, hname, h⟩)
  · rw [h, Path.getLast?_place_descend Staging.isPlain_iconName] at hscript
    exact absurd hscript (by decide)
  · rw [h, Path.getLast?_place_descend (Staging.isPlain_of_mem_libraryNames name hname),
      Option.some.injEq] at hscript
    rw [hscript] at hname
    exact absurd hname (by decide)

section Step

variable (b owner : Builder) (ht : s.disk.tree.LinkFree)
  (hlog : owner.scriptPlace s.disk.here ∉ s.logPlaces)
  (hcut : (b.build s).1 ≠ .error (.defect .unencodable))

include ht hlog hcut

theorem build_fileAt? :
    (b.build s).2.disk.tree.fileAt? (owner.scriptPlace s.disk.here) =
      ((textFor? s.disk.here (owner.scriptPlace s.disk.here) (b, (b.build s).1)).map
        Text.toBytes).or (s.disk.tree.fileAt? (owner.scriptPlace s.disk.here)) := by
  have hside : owner.scriptPlace s.disk.here ∉ b.sideFiles s :=
    fun h => h.elim (scriptPlace_notMem_stagedFiles b owner) hlog
  have hends := b.build_ends ht
  generalize b.build s = r at hends hcut ⊢
  cases hends with
  | failed h => exact h.disk.tree.fileAt?_eq hside
  | cut => exact absurd rfl hcut
  | written h _ hfile =>
    rw [textFor?]
    split_ifs with heq
    · rw [heq] at hfile
      exact hfile hlog
    · exact h.disk.tree.fileAt?_eq fun hin => hin.elim (fun e => heq e.symm) hside

/-- A build that fails leaves every script as it was. -/
theorem build_fileAt?_of_error {e : Failure} (h : (b.build s).1 = .error e) :
    (b.build s).2.disk.tree.fileAt? (owner.scriptPlace s.disk.here) =
      s.disk.tree.fileAt? (owner.scriptPlace s.disk.here) := by
  rw [build_fileAt? b owner ht hlog hcut, h]
  rfl

end Step

/-- A build gives no text for which there are no bytes. -/
theorem isEncodable_of_build {b : Builder} (ht : s.disk.tree.LinkFree) {artifact : Artifact}
    (h : (b.build s).1 = .ok artifact) : Text.isEncodable artifact.text = true := by
  have hends := b.build_ends ht
  generalize b.build s = r at hends h
  cases hends with
  | failed => contradiction
  | cut => contradiction
  | written _ hencodable =>
    obtain rfl := Except.ok.inj h
    exact hencodable

/-- No build of a run was cut off while its script was written. -/
def Completes (outcomes : List (Builder × Except Failure Artifact)) : Prop :=
  ∀ x ∈ outcomes, x.2 ≠ .error (.defect .unencodable)

theorem buildAll_fileAt? (owner : Builder) : ∀ (bs : List Builder) (s : Session),
    s.disk.tree.LinkFree → owner.scriptPlace s.disk.here ∉ s.logPlaces →
      Completes (buildAll bs s).1 →
      (buildAll bs s).2.disk.tree.fileAt? (owner.scriptPlace s.disk.here) =
        ((lastText? s.disk.here (owner.scriptPlace s.disk.here) (buildAll bs s).1).map
          Text.toBytes).or (s.disk.tree.fileAt? (owner.scriptPlace s.disk.here))
  | [], _, _, _, _ => rfl
  | b :: bs, s, ht, hlog, hcompletes => by
    obtain ⟨hcut, hrest⟩ := List.forall_mem_cons.1 hcompletes
    have hgrows := b.build_grows ht
    have ih := buildAll_fileAt? owner bs (b.build s).2 (hgrows.disk.tree.linkFree ht)
      (hgrows.disk.here.symm ▸ hgrows.logPlaces.symm ▸ hlog) hrest
    rw [hgrows.disk.here, build_fileAt? b owner ht hlog hcut] at ih
    rw [buildAll, lastText?_cons, Option.map_or, Option.or_assoc]
    exact ih

theorem isEncodable_of_lastText? : ∀ (bs : List Builder) (s : Session), s.disk.tree.LinkFree →
    ∀ text, lastText? here place (buildAll bs s).1 = some text → Text.isEncodable text = true
  | [], _, _, _, h => by contradiction
  | b :: bs, s, ht, text, h => by
    have hgrows := b.build_grows ht
    rw [buildAll, lastText?_cons, Option.or_eq_some_iff] at h
    rcases h with h | ⟨-, h⟩
    · exact isEncodable_of_lastText? bs _ (hgrows.disk.tree.linkFree ht) text h
    · cases hbuild : (b.build s).1 with
      | error e =>
        rw [hbuild] at h
        contradiction
      | ok artifact =>
        rw [hbuild, textFor?] at h
        split_ifs at h
        obtain rfl := Option.some.inj h
        exact isEncodable_of_build ht hbuild

/-- After any run in which no writing was cut off, each script that is not the log file is the text
of the last build that succeeded for it, or what it was before the run where there is none; a build
that fails otherwise leaves all of them as they were. -/
theorem buildAll_scripts (bs : List Builder) (s : Session) (owner : Builder)
    (ht : s.disk.tree.LinkFree) (hlog : owner.scriptPlace s.disk.here ∉ s.logPlaces) :
    (Completes (buildAll bs s).1 →
      match lastText? s.disk.here (owner.scriptPlace s.disk.here) (buildAll bs s).1 with
      | some text => Text.isEncodable text = true ∧
        (buildAll bs s).2.disk.tree.fileAt? (owner.scriptPlace s.disk.here) =
          some (Text.toBytes text)
      | none => (buildAll bs s).2.disk.tree.fileAt? (owner.scriptPlace s.disk.here) =
          s.disk.tree.fileAt? (owner.scriptPlace s.disk.here)) ∧
    ∀ (b : Builder) (e : Failure), (b.build s).1 = .error e → e ≠ .defect .unencodable →
      (b.build s).2.disk.tree.fileAt? (owner.scriptPlace s.disk.here) =
        s.disk.tree.fileAt? (owner.scriptPlace s.disk.here) := by
  refine ⟨fun hcompletes => ?_, fun b e h he => ?_⟩
  · rw [buildAll_fileAt? owner bs s ht hlog hcompletes]
    cases hlast : lastText? s.disk.here (owner.scriptPlace s.disk.here) (buildAll bs s).1 with
    | none => rfl
    | some text => exact ⟨isEncodable_of_lastText? bs s ht text hlast, rfl⟩
  · refine build_fileAt?_of_error b owner ht hlog (fun hcut => he ?_) h
    exact Except.error.inj (h.symm.trans hcut)

/-- Two builds with one script, of which the second one misses its application. -/
def mixedBuilders (c : Configuration) : List Builder :=
  let b : Builder := ⟨c, ⟨.root, ["app"]⟩, ⟨.root, ["project"]⟩, ⟨.root, ["tmp"]⟩, [], "log"⟩
  [b, { b with appDir := ⟨.root, ["missing"]⟩ }]

def appSession : Session :=
  .begin ⟨FileTree.empty.put ["app"] .dir, []⟩ ⟨.root, []⟩ "now"

theorem buildAll_scripts_mixed : ∃ c owner text,
    resolve ⟨.empty, []⟩ wordyDescriptor .default ⟨.root, []⟩ = .ok c ∧
      owner ∈ mixedBuilders c ∧
      appSession.disk.tree.LinkFree ∧ owner.scriptPlace [] ∉ appSession.logPlaces ∧
      Completes (buildAll (mixedBuilders c) appSession).1 ∧
      (buildAll (mixedBuilders c) appSession).1.map (·.2.toOption.isSome) = [true, false] ∧
      lastText? [] (owner.scriptPlace []) (buildAll (mixedBuilders c) appSession).1 = some text ∧
      Text.isEncodable text = true ∧
      (buildAll (mixedBuilders c) appSession).2.disk.tree.fileAt? (owner.scriptPlace []) =
        some (Text.toBytes text) := by
  have ht : appSession.disk.tree.LinkFree :=
    (FileTree.grows_put_dir rfl).linkFree FileTree.linkFree_empty
  have hlog : ∀ place, place ∉ appSession.logPlaces := by
    rintro place ⟨k, -, hk, -⟩
    contradiction
  obtain ⟨c, hc⟩ : ∃ c, resolve ⟨.empty, []⟩ wordyDescriptor .default ⟨.root, []⟩ = .ok c :=
    ⟨_, rfl⟩
  let b : Builder := ⟨c, ⟨.root, ["app"]⟩, ⟨.root, ["project"]⟩, ⟨.root, ["tmp"]⟩, [], "log"⟩
  let missing : Builder := { b with appDir := ⟨.root, ["missing"]⟩ }
  have hb : b.Unmarked [] := by
    cases hc
    constructor <;> decide +kernel
  have hdraft : (b.draft? appSession).map (fun s => (s.disk.isDir missing.appDir).toOption) =
      some (some false) := by
    cases hc
    decide +kernel
  obtain ⟨s₁, hs₁, habsent⟩ := Option.map_eq_some_iff.1 hdraft
  obtain ⟨artifact, hfirst⟩ := build_of_draft? hb ht hs₁
  have hsecond : (missing.build s₁).1 = .error (.script (.noAppDir missing.appDir)) := by
    rw [build_fst, toOption_eq_some.1 habsent]
  have houtcomes : (buildAll (mixedBuilders c) appSession).1 =
      [(b, .ok artifact), (missing, .error (.script (.noAppDir missing.appDir)))] := by
    change [(b, (b.build appSession).1), (missing, (missing.build (b.build appSession).2).1)] = _
    rw [hfirst, hsecond]
  have hcompletes : Completes (buildAll (mixedBuilders c) appSession).1 := by
    rw [houtcomes]
    simp [Completes]
  have hlast : lastText? [] (b.scriptPlace []) (buildAll (mixedBuilders c) appSession).1 =
      some artifact.text := by
    have hmissed : lastText? [] (b.scriptPlace [])
        [(missing, .error (.script (.noAppDir missing.appDir)))] = none := rfl
    rw [houtcomes, lastText?_cons, hmissed, Option.none_or, textFor?, if_pos rfl]
  have hscript := (buildAll_scripts (mixedBuilders c) appSession b ht (hlog _)).1 hcompletes
  have hlastText : lastText? appSession.disk.here (b.scriptPlace appSession.disk.here)
      (buildAll (mixedBuilders c) appSession).1 = some artifact.text := hlast
  rw [hlastText] at hscript
  exact ⟨c, b, artifact.text, hc, List.mem_cons_self, ht, hlog _, hcompletes,
    by rw [houtcomes]; rfl, hlast, hscript.1, hscript.2⟩

end SetupScript.Builder
