import SetupScript.Build
import SetupScript.Proofs.Build.Staging
import SetupScript.Proofs.Configuration.Identity
import SetupScript.Proofs.Text.Words

/-!
# What a build changes

Before the script is written, a build makes directories and stages files; `prepare_grows` says
where. `build_ends` puts the writing behind it: a build that fails keeps to the staged files, and
one that succeeds writes its script besides. The directory that files are staged in lies directly in
the one for temporary files (`stagingDir_eq`), since no accepted name has a slash in its joined
form.
-/

namespace SetupScript

theorem Names.notMem_of_acceptsName {c : Char} (hc : isReserved c = true) (hfeed : c ≠ '\n')
    {s : String} (h : acceptsName s = true) : c ∉ s.toList := by
  have hfree : ∀ cs ∈ fileName.language, c ∉ cs := fun cs hcs hm =>
    absurd hc (by simp [(mem_fileName.1 hcs).2.1 c hm])
  rcases fillsLine_iff.1 h with hs | ⟨cs, hcs, hs⟩
  · exact hfree _ hs
  · rw [hs, List.mem_append, not_or]
    exact ⟨hfree cs hcs, by simpa using hfeed⟩

/-- A character that no file name can hold is not in a joined name either, unless it is the upper
form of another. -/
theorem Configuration.notMem_joinedName {d : Disk} {v : Value} {o : Overrides} {dir : Path}
    {config : Configuration} (hconfig : resolve d v o dir = .ok config) {c : Char}
    (hc : Names.isReserved c = true) (hfeed : c ≠ '\n') (hupper : Text.NoUpperForm (· == c)) :
    c ∉ config.joinedName.toList := by
  obtain ⟨-, -, -, -, -, -, hname⟩ := resolve_id_name hconfig
  exact hupper.notMem_joinedWords (Names.notMem_of_acceptsName hc hfeed hname)

namespace Builder

variable (b : Builder) {dirs files : Set Location} {here : Location} {s : Session}

/-- Where the libraries are staged. -/
def variantDir (here : Location) : Path :=
  (b.stagingDir here).descend [b.config.variant.dirName]

/-- The directories that a build may make, with those above them as their paths are written. -/
def madeDirs (here : Location) : Set Location :=
  (b.variantDir here).placesUp here ∪ b.outputDir.placesUp here

def stagedFiles (here : Location) : Set Location :=
  {place | place = ((b.stagingDir here).descend [Staging.iconName]).place here ∨
    ∃ name ∈ Staging.libraryNames, place = ((b.variantDir here).descend [name]).place here}

def scriptPlace (here : Location) : Location := b.scriptPath.place here

theorem isRelative_stagingDir : (b.stagingDir here).isRelative = false := by
  rw [stagingDir, Path.isRelative_absolute]

theorem isRelative_variantDir : (b.variantDir here).isRelative = false := by
  rw [variantDir, Path.isRelative_descend, isRelative_stagingDir]

theorem note_grows (hs : s.Ready here files) (level : Level) (pattern : String)
    (arguments : List Argument) (origin : Origin) :
    Keeps (Session.Grows dirs files) (b.note level pattern arguments origin) s :=
  Work.note_grows hs _

theorem icon_grows (hs : s.Ready here files) (hdirs : b.madeDirs here ⊆ dirs)
    (hfiles : b.stagedFiles here ⊆ files) :
    Keeps (Session.Grows dirs files) b.icon s := by
  have hdir : (b.stagingDir here).placesUp here ⊆ dirs :=
    (Path.placesUp_subset_descend _).trans (Set.subset_union_left.trans hdirs)
  have hicon : (((b.stagingDir here).descend [Staging.iconName]).absolute here).place here ∈
      files := by
    rw [Path.absolute_descend b.isRelative_stagingDir]
    exact hfiles (.inl rfl)
  unfold icon
  split_ifs
  · exact .pure trivial
  · refine Leads.get.bind fun s' s₁ h₁ hget => ?_
    rw [hget, hs.here]
    exact (Staging.writeIcon_grows (h₁.ready hs) hdir hicon).bind fun _ _ _ _ => .pure trivial

theorem entry_grows (hs : s.Ready here files) (name : String) :
    Keeps (Session.Grows dirs files) (b.entry name) s := by
  unfold entry
  refine Work.ask_grows.bind fun _ s₁ h₁ _ => Leads.get.bind fun _ s₂ h₂ _ => ?_
  simp only
  split_ifs
  · exact (b.note_grows (h₂.ready (h₁.ready hs)) ..).bind fun _ _ _ _ => .pure trivial
  · exact .pure trivial

theorem render_grows (hs : s.Ready here files) (icon : String) (libraries : List Path) :
    Keeps (Session.Grows dirs files) (b.render icon libraries) s := by
  have hentries : ∀ {s : Session}, s.Ready here files →
      Keeps (Session.Grows dirs files) b.entries s := fun hs =>
    Work.ask_grows.bind fun _ _ h _ => Leads.mapM fun name _ _ h' =>
      b.entry_grows (h'.ready (h.ready hs)) name
  unfold render
  split_ifs
  · exact .throw _
  · exact (hentries hs).bind fun _ _ _ _ => .pure trivial

theorem prepare_grows (hs : s.Ready here files) (hdirs : b.madeDirs here ⊆ dirs)
    (hfiles : b.stagedFiles here ⊆ files) :
    Keeps (Session.Grows dirs files) b.prepare s := by
  have hlibraries : ∀ name ∈ Staging.libraryNames,
      (((b.variantDir here).descend [name]).absolute here).place here ∈ files := by
    intro name hname
    rw [Path.absolute_descend b.isRelative_variantDir]
    exact hfiles (.inr ⟨name, hname, rfl⟩)
  unfold prepare
  refine (b.icon_grows hs hdirs hfiles).bind fun icon s₁ h₁ _ => ?_
  have hs₁ := h₁.ready hs
  refine Leads.get.bind fun s' s₂ h₂ hget => ?_
  have hs₂ := h₂.ready hs₁
  rw [hget, hs₁.here]
  refine (Staging.stageLibraries_grows hs₂ (Set.subset_union_left.trans hdirs) hlibraries).bind
    fun libraries s₃ h₃ _ => ?_
  have hs₃ := h₃.ready hs₂
  refine (b.render_grows hs₃ icon libraries).bind fun text s₄ h₄ _ => ?_
  have hs₄ := h₄.ready hs₃
  have hout : Keeps (Session.Grows dirs files) (Work.onDisk (DiskWork.ensureDirs b.outputDir)) s₄ :=
    Work.onDisk_grows (DiskWork.ensureDirs_grows hs₄.linkFree
      (hs₄.here.symm ▸ Set.subset_union_right.trans hdirs))
  exact hout.bind fun _ _ _ _ => .pure trivial

/-- Where a build of a session may write files, apart from its script. -/
def sideFiles (s : Session) : Set Location := b.stagedFiles s.disk.here ∪ s.logPlaces

/-- How a build can end: it leaves the session grown by what it staged, and where it succeeds its
script is the file of the text that it gives. The writing of the script is cut off where there are
no bytes for its text. -/
inductive Ends (s : Session) : Except Failure Artifact × Session → Prop
  | failed {e : Failure} {s' : Session}
      (h : s.Grows (b.madeDirs s.disk.here) (b.sideFiles s) s') : Ends s (.error e, s')
  | cut {s' : Session}
      (h : s.Grows (b.madeDirs s.disk.here) (insert (b.scriptPlace s.disk.here) (b.sideFiles s))
        s') : Ends s (.error (.defect .unencodable), s')
  | written {text : String} {s' : Session}
      (h : s.Grows (b.madeDirs s.disk.here) (insert (b.scriptPlace s.disk.here) (b.sideFiles s)) s')
      (hencodable : Text.isEncodable text = true)
      (hfile : b.scriptPlace s.disk.here ∉ s.logPlaces →
        s'.disk.tree.fileAt? (b.scriptPlace s.disk.here) = some (Text.toBytes text)) :
      Ends s (.ok ⟨b.scriptPath, text⟩, s')

section Ends

variable {b} {α : Type} {r : Except Failure Artifact × Session}

/-- What goes before may only stage files. -/
theorem Ends.after {s₁ : Session} (hr : b.Ends s₁ r)
    (h : s.Grows (b.madeDirs s.disk.here) (b.sideFiles s) s₁) : b.Ends s r := by
  have hside : b.sideFiles s₁ = b.sideFiles s := by
    rw [sideFiles, sideFiles, h.disk.here, h.logPlaces]
  cases hr with
  | failed h' =>
    rw [h.disk.here, hside] at h'
    exact .failed (trans_of _ h h')
  | cut h' =>
    rw [h.disk.here, hside] at h'
    exact .cut (trans_of _ (h.mono subset_rfl (Set.subset_insert _ _)) h')
  | written h' hencodable hfile =>
    rw [h.disk.here, hside] at h'
    rw [h.disk.here, h.logPlaces] at hfile
    exact .written (trans_of _ (h.mono subset_rfl (Set.subset_insert _ _)) h') hencodable hfile

theorem Ends.bind {t : Work α} {f : α → Work Artifact} {P : α → Prop}
    (ht : Leads (Session.Grows (b.madeDirs s.disk.here) (b.sideFiles s)) t P s)
    (hf : ∀ a s', s.Grows (b.madeDirs s.disk.here) (b.sideFiles s) s' → b.Ends s' (f a s')) :
    b.Ends s ((t >>= f) s) := by
  rcases bind_outcome t f s with ⟨e, -, heq⟩ | ⟨a, -, heq⟩
  · rw [heq]
    exact .failed ht.1
  · rw [heq]
    exact (hf a _ ht.1).after ht.1

theorem Ends.reported {t : Work Artifact} (ht : b.Ends s (t s)) :
    b.Ends s (Work.onFailure t report s) := by
  unfold Work.onFailure
  generalize t s = r at ht ⊢
  cases ht with
  | failed h => exact .failed h
  | cut h => exact .cut h
  | written h hencodable hfile => exact .written h hencodable hfile

/-- A record at the end only goes to the log. -/
theorem Ends.noted {t : Work Artifact} (hs : s.disk.tree.LinkFree) (ht : b.Ends s (t s))
    (record : Record) :
    b.Ends s ((t >>= fun artifact => Work.note record >>= fun _ => pure artifact) s) := by
  generalize hr : t s = r at ht
  cases ht with
  | failed h =>
    rw [Work.bind_of_error hr]
    exact .failed h
  | cut h =>
    rw [Work.bind_of_error hr]
    exact .cut h
  | @written text s' h hencodable hfile =>
    rw [Work.bind_of_ok hr]
    have hready : s'.Ready s'.disk.here s'.logPlaces :=
      ⟨rfl, h.disk.tree.linkFree hs, subset_rfl⟩
    have hnote : s'.Grows ∅ s.logPlaces (s'.note record) :=
      h.logPlaces ▸ Session.note_grows hready record
    refine .written (trans_of _ h (hnote.mono (Set.empty_subset _) ?_)) hencodable fun hlog => ?_
    · exact Set.subset_union_right.trans (Set.subset_insert _ _)
    · rw [hnote.disk.tree.fileAt?_eq hlog]
      exact hfile hlog

end Ends

theorem publish_of_error {text : String} {e : DiskError}
    (h : s.disk.writeFile b.scriptPath (Text.toBytes text) = .error e) :
    b.publish text s = (.error (.disk e), s) :=
  Work.bind_of_error (by simp only [Work.onDisk, DiskWork.write, DiskWork.change, h]; rfl) _

/-- The script is written whether there are bytes for its text or not. -/
theorem publish_of_ok {text : String} {d : Disk}
    (h : s.disk.writeFile b.scriptPath (Text.toBytes text) = .ok d) :
    b.publish text s = (if Text.isEncodable text then .ok ⟨b.scriptPath, text⟩
      else .error (.defect .unencodable), { s with disk := d }) := by
  have hwritten : Work.onDisk (DiskWork.write b.scriptPath (Text.toBytes text)) s =
      (.ok (), { s with disk := d }) := by
    simp only [Work.onDisk, DiskWork.write, DiskWork.change, h]
    rfl
  rw [publish, Work.bind_of_ok hwritten]
  split_ifs <;> rfl

theorem publish_ends (ht : s.disk.tree.LinkFree) (text : String) :
    b.Ends s (b.publish text s) := by
  cases hwrite : s.disk.writeFile b.scriptPath (Text.toBytes text) with
  | error e =>
    rw [b.publish_of_error hwrite]
    exact .failed (refl_of _ s)
  | ok d =>
    rw [b.publish_of_ok hwrite]
    have hscript : b.scriptPath.place s.disk.here ∈
        insert (b.scriptPlace s.disk.here) (b.sideFiles s) := Set.mem_insert _ _
    obtain ⟨hgrows, hfile⟩ := Disk.writeFile_grows ht hwrite hscript
    split_ifs with hencodable
    · exact .written ⟨rfl, hgrows⟩ hencodable fun _ => hfile
    · exact .cut ⟨rfl, hgrows⟩

theorem build_ends (ht : s.disk.tree.LinkFree) : b.Ends s (b.build s) := by
  have hready : ∀ {s' : Session}, s'.disk.tree.LinkFree →
      s'.Ready s'.disk.here (b.sideFiles s') := fun ht' => ⟨rfl, ht', Set.subset_union_right⟩
  have hsteps : ∀ {s' : Session}, s'.disk.tree.LinkFree → b.Ends s' (b.steps s') := fun ht' =>
    .bind (b.prepare_grows (hready ht') subset_rfl Set.subset_union_left) fun text s'' h =>
      b.publish_ends (h.disk.tree.linkFree ht') text
  unfold build
  refine .bind (b.note_grows (hready ht) ..) fun _ s₁ h₁ => ?_
  have ht₁ := h₁.disk.tree.linkFree ht
  refine .bind Work.ask_grows fun isDir s₂ h₂ => ?_
  cases isDir with
  | false => exact .failed (refl_of _ s₂)
  | true =>
    have ht₂ := h₂.disk.tree.linkFree ht₁
    exact ((hsteps ht₂).reported).noted ht₂ _

theorem build_grows (ht : s.disk.tree.LinkFree) :
    s.Grows (b.madeDirs s.disk.here) (insert (b.scriptPlace s.disk.here) (b.sideFiles s))
      (b.build s).2 := by
  have hends := b.build_ends ht
  generalize b.build s = r at hends ⊢
  cases hends with
  | failed h => exact h.mono subset_rfl (Set.subset_insert _ _)
  | cut h => exact h
  | written h => exact h

theorem stagingDir_eq {d : Disk} {v : Value} {o : Overrides} {dir : Path}
    (hc : resolve d v o dir = .ok b.config) (here : Location) :
    b.stagingDir here =
        (b.tempDir.absolute here).descend [b.config.joinedName ++ "Installer"] ∧
      (b.stagingDir here).place here =
        (b.tempDir.absolute here).place here ++ [b.config.joinedName ++ "Installer"] := by
  have hslash : '/' ∉ (b.config.joinedName ++ "Installer").toList := by
    rw [String.toList_append, List.mem_append, not_or]
    exact ⟨Configuration.notMem_joinedName hc (by decide) (by decide) Text.noUpperForm_slash,
      by decide⟩
  have hplain : IsPlain (b.config.joinedName ++ "Installer") := by
    have hlength : 9 ≤ (b.config.joinedName ++ "Installer").length := by
      rw [String.length_append]
      exact Nat.le_add_left 9 _
    refine ⟨fun h => ?_, fun h => ?_, fun h => ?_⟩ <;>
      · rw [h] at hlength
        exact absurd hlength (by decide)
  have hpath : b.stagingDir here =
      (b.tempDir.absolute here).descend [b.config.joinedName ++ "Installer"] := by
    rw [stagingDir, Path.child_eq hplain hslash, Path.descend_absolute]
  refine ⟨hpath, ?_⟩
  rw [hpath, Path.place_descend (by simpa using hplain)]

/-- Whether a build succeeds or fails, nothing is removed, directories are made only on the way to
the two that it stages and writes to, and files are written only under the names that belong to it,
apart from the log's. -/
theorem build_confined {d : Disk} {v : Value} {o : Overrides} {dir : Path} (b : Builder)
    (s : Session) (hc : resolve d v o dir = .ok b.config) (ht : s.disk.tree.LinkFree) :
    (b.stagingDir s.disk.here =
        (b.tempDir.absolute s.disk.here).descend [b.config.joinedName ++ "Installer"] ∧
      (b.stagingDir s.disk.here).place s.disk.here =
        (b.tempDir.absolute s.disk.here).place s.disk.here ++
          [b.config.joinedName ++ "Installer"]) ∧
    (∀ place, s.disk.tree.get? place ≠ none → (b.build s).2.disk.tree.get? place ≠ none) ∧
    s.disk.tree.Grows (b.madeDirs s.disk.here)
      (insert (b.scriptPlace s.disk.here) (b.sideFiles s)) (b.build s).2.disk.tree := by
  have htree := (b.build_grows ht).disk.tree
  exact ⟨b.stagingDir_eq hc s.disk.here, fun place => (htree place).ne_none, htree⟩

def wordyDescriptor : Value :=
  .map [(.text "name", .text "my-tool"), (.text "version", .text "1"),
    (.text "description", .text "d"), (.text "maintainer", .text "m"),
    (.text "inno_bundle", .map [(.text "id", .text "f887d5f0-4690-1e07-8efc-d16ea7711bfb"),
      (.text "name", .text "my wordy_tool")])]

theorem build_confined_wordy : ∃ c,
    resolve ⟨.empty, []⟩ wordyDescriptor .default ⟨.root, []⟩ = .ok c ∧
      let b : Builder := ⟨c, ⟨.root, ["app"]⟩, ⟨.root, ["project"]⟩, ⟨.relative, [".."]⟩, [], "log"⟩
      let s := Session.begin ⟨FileTree.empty.put ["app"] .dir, ["app"]⟩ ⟨.root, []⟩ "now"
      s.disk.tree.LinkFree ∧
      b.stagingDir ["app"] = ⟨.root, ["app", "..", "MyWordyToolInstaller"]⟩ ∧
      s.disk.tree.Grows (b.madeDirs ["app"]) (insert (b.scriptPlace ["app"]) (b.sideFiles s))
        (b.build s).2.disk.tree := by
  refine ⟨_, rfl, ?_⟩
  intro b s
  have ht : s.disk.tree.LinkFree := (FileTree.grows_put_dir rfl).linkFree FileTree.linkFree_empty
  have hc : resolve ⟨.empty, []⟩ wordyDescriptor .default ⟨.root, []⟩ = .ok b.config := rfl
  obtain ⟨⟨hstaging, -⟩, -, hgrows⟩ := build_confined b s hc ht
  have hname : Text.joinedWords "my wordy_tool" = "MyWordyTool" := by decide +kernel
  refine ⟨ht, hstaging.trans ?_, hgrows⟩
  change Path.mk .root ["app", "..", Text.joinedWords "my wordy_tool" ++ "Installer"] = _
  rw [hname]
  rfl

end Builder

end SetupScript
