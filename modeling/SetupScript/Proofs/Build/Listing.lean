import SetupScript.Build
import SetupScript.Proofs.Outcome
import SetupScript.Proofs.Script.FileRows
import SetupScript.Proofs.Script.ReadBack
import SetupScript.Proofs.TwinSessions
import SetupScript.Proofs.Work

/-!
# Listing the application's build

The names that a directory gives are brought into one order before the disk is asked what each of
them is, so the order in which they come does not matter (`mergeSort_eq_of_perm`). Noting a renamed
file changes no answer of the disk, so the answers are those of the disk at the start
(`mapM_entry_of_ok`), and each name has its line in the files section (`files_lists_each`).
-/

namespace SetupScript.Builder

open Script

variable {b : Builder} {s : Session} {names : List String}

/-- The entries for names in any order. -/
def entriesOf (b : Builder) (names : List String) : Work (List AppEntry) :=
  (names.mergeSort fun m n => decide (m ≤ n)).mapM b.entry

theorem entries_eq (b : Builder) : b.entries = Work.ask (·.names b.appDir) >>= b.entriesOf := rfl

/-! ## Order -/

theorem mergeSort_pairwise (names : List String) :
    (names.mergeSort fun m n => decide (m ≤ n)).Pairwise (· ≤ ·) := by
  have htrans : ∀ l m n : String, decide (l ≤ m) = true → decide (m ≤ n) = true →
      decide (l ≤ n) = true := fun _ _ _ h h' =>
    decide_eq_true (String.le_trans (of_decide_eq_true h) (of_decide_eq_true h'))
  have htotal : ∀ m n : String, (decide (m ≤ n) || decide (n ≤ m)) = true :=
    fun m n => by simpa using String.le_total m n
  exact (List.pairwise_mergeSort htrans htotal names).imp of_decide_eq_true

theorem mergeSort_eq_of_perm {others : List String} (h : others.Perm names) :
    (others.mergeSort fun m n => decide (m ≤ n)) = names.mergeSort fun m n => decide (m ≤ n) := by
  have hperm := (List.mergeSort_perm others fun m n => decide (m ≤ n)).trans
    (h.trans (List.mergeSort_perm names fun m n => decide (m ≤ n)).symm)
  exact hperm.eq_of_pairwise (fun _ _ _ _ => String.le_antisymm) (mergeSort_pairwise others)
    (mergeSort_pairwise names)

/-! ## Asking for each name -/

/-- Where the child of the application's build with a name lies. -/
def child (b : Builder) (name : String) : Path := b.appDir.descend [name]

def sourceOf (b : Builder) (here : Location) (name : String) : String :=
  ((b.child name).absolute here).text

/-- Two sessions in which every question about a directory has the same answer. -/
def Agree (s s' : Session) : Prop :=
  s'.disk.here = s.disk.here ∧ ∀ p, s'.disk.isDir p = s.disk.isDir p

theorem agree_note (s : Session) (r : Record) : Agree s (s.note r) := by
  refine ⟨?_, fun p => s.isDir_note p r⟩
  obtain ⟨log, disk, hnote, rfl | ⟨k, p, line, -, -, rfl⟩⟩ := s.note_cases r
  · rw [hnote]
  · rw [hnote]
    unfold Disk.append
    split <;> rfl

theorem entry_of_ok {name : String} {isDir : Bool} (h : s.disk.isDir (b.child name) = .ok isDir) :
    ∃ s', b.entry name s = (.ok ⟨name, b.sourceOf s.disk.here name, isDir⟩, s') ∧ Agree s s' := by
  unfold entry
  rw [Work.bind_of_ok (Work.ask_of_ok h), Work.bind_of_ok (Work.get_eq s)]
  dsimp only
  split_ifs
  · exact ⟨_, rfl, agree_note s _⟩
  · exact ⟨s, rfl, rfl, fun _ => rfl⟩

theorem entry_of_error {name : String} {e : DiskError}
    (h : s.disk.isDir (b.child name) = .error e) : b.entry name s = (.error (.disk e), s) :=
  Work.bind_of_error (Work.ask_of_error h) _

theorem mapM_entry_of_ok {isDir : String → Bool} : ∀ {names : List String} {s : Session},
    (∀ name ∈ names, s.disk.isDir (b.child name) = .ok (isDir name)) →
      (names.mapM b.entry s).1 =
        .ok (names.map fun name => ⟨name, b.sourceOf s.disk.here name, isDir name⟩)
  | [], _, _ => rfl
  | name :: names, s, h => by
    obtain ⟨hname, hnames⟩ := List.forall_mem_cons.1 h
    obtain ⟨s', hentry, hhere, hsame⟩ := entry_of_ok hname
    have ih := mapM_entry_of_ok (s := s') fun n hn => (hsame _).trans (hnames n hn)
    rw [List.mapM_cons, Work.bind_of_ok hentry, Work.bind_of_ok (Prod.ext ih rfl), hhere]
    rfl

theorem mapM_entry_of_error : ∀ {names : List String} {s : Session},
    (∃ name ∈ names, ∃ e, s.disk.isDir (b.child name) = .error e) →
      ∃ name ∈ names, ∃ e, s.disk.isDir (b.child name) = .error e ∧
        (names.mapM b.entry s).1 = .error (.disk e)
  | name :: names, s, h => by
    rw [List.mapM_cons]
    cases hname : s.disk.isDir (b.child name) with
    | error e =>
      rw [Work.bind_of_error (entry_of_error hname)]
      exact ⟨name, List.mem_cons_self, e, hname, rfl⟩
    | ok isDir =>
      obtain ⟨s', hentry, -, hsame⟩ := entry_of_ok hname
      simp only [List.exists_mem_cons_iff, hname, reduceCtorEq, exists_false, false_or] at h
      simp only [← hsame] at h
      obtain ⟨n, hn, e, he, hrest⟩ := mapM_entry_of_error h
      rw [Work.bind_of_ok hentry, Work.bind_of_error (Prod.ext hrest rfl)]
      exact ⟨n, List.mem_cons_of_mem name hn, e, (hsame _).symm.trans he, rfl⟩

/-- A run over distinct names gives an entry for each of them, in increasing order, or fails where
the disk does not answer what one of them is. -/
theorem entriesOf_outcome (hnames : names.Nodup) :
    (∃ name ∈ names, ∃ e, s.disk.isDir (b.child name) = .error e ∧
        (b.entriesOf names s).1 = .error (.disk e)) ∨
      ∃ (isDir : String → Bool) (sorted : List String),
        (∀ name ∈ names, s.disk.isDir (b.child name) = .ok (isDir name)) ∧
          sorted.Perm names ∧ sorted.Pairwise (· < ·) ∧
          (b.entriesOf names s).1 =
            .ok (sorted.map fun name => ⟨name, b.sourceOf s.disk.here name, isDir name⟩) := by
  have hperm := List.mergeSort_perm names fun m n => decide (m ≤ n)
  by_cases herror : ∃ name ∈ names, ∃ e, s.disk.isDir (b.child name) = .error e
  · obtain ⟨name, hname, herror⟩ := herror
    obtain ⟨n, hn, e, he, hrun⟩ :=
      mapM_entry_of_error (b := b) ⟨name, hperm.mem_iff.2 hname, herror⟩
    exact .inl ⟨n, hperm.mem_iff.1 hn, e, he, hrun⟩
  · have hanswer : ∀ name, ∃ isDir, name ∈ names → s.disk.isDir (b.child name) = .ok isDir := by
      intro name
      cases h : s.disk.isDir (b.child name) with
      | ok isDir => exact ⟨isDir, fun _ => rfl⟩
      | error e => exact ⟨false, fun hname => absurd ⟨name, hname, e, h⟩ herror⟩
    choose isDir hisDir using hanswer
    have hstrict : (names.mergeSort fun m n => decide (m ≤ n)).Pairwise (· < ·) := by
      refine ((mergeSort_pairwise names).and (hperm.nodup_iff.2 hnames)).imp fun h => ?_
      exact String.not_le.1 fun hle => h.2 (String.le_antisymm h.1 hle)
    exact .inr ⟨isDir, _, hisDir, hperm, hstrict,
      mapM_entry_of_ok fun name hname => hisDir name (hperm.mem_iff.1 hname)⟩

/-- What the disk gives is a listing of distinct names. -/
theorem entries_of_names (h : s.disk.names b.appDir = .ok names) :
    names.Nodup ∧ b.entries s = b.entriesOf names s := by
  refine ⟨?_, Work.bind_of_ok (Work.ask_of_ok h) _⟩
  have hordered : ∀ place, (s.disk.tree.children place).Nodup :=
    fun place => (s.disk.tree.children_pairwise place).imp String.ne_of_lt
  unfold Disk.names at h
  split at h
  · exact Except.ok.inj h ▸ hordered _
  · contradiction
  · contradiction

/-- Entries that are listed have distinct names, those that the disk gives, and are what it says. -/
theorem entries_eq_ok {entries : List AppEntry} (h : (b.entries s).1 = .ok entries) :
    (entries.map AppEntry.name).Nodup ∧ (∀ e ∈ entries,
      e.source = b.sourceOf s.disk.here e.name ∧ s.disk.isDir (b.child e.name) = .ok e.isDir) ∧
      ∃ names, s.disk.names b.appDir = .ok names ∧ (entries.map AppEntry.name).Perm names := by
  have hrun : b.entries s = (.ok entries, (b.entries s).2) := Prod.ext h rfl
  rw [entries_eq] at hrun
  obtain ⟨names, s₁, hask, -⟩ := bind_run_eq_ok.1 hrun
  have hnames : s.disk.names b.appDir = .ok names := mapError_eq_ok.1 (congrArg Prod.fst hask)
  obtain ⟨hnodup, heq⟩ := entries_of_names hnames
  rw [heq] at h
  rcases entriesOf_outcome (b := b) (s := s) hnodup with
    ⟨-, -, e, -, herror⟩ | ⟨isDir, sorted, hisDir, hperm, -, hok⟩
  · exact nomatch h.symm.trans herror
  · obtain rfl := Except.ok.inj (h.symm.trans hok)
    have hlisted : ((sorted.map fun name => (⟨name, b.sourceOf s.disk.here name, isDir name⟩ :
        AppEntry)).map AppEntry.name).Perm names := by
      simpa [Function.comp_def] using hperm
    refine ⟨hlisted.nodup_iff.2 hnodup, ?_, names, hnames, hlisted⟩
    exact List.forall_mem_map.2 fun name hname => ⟨rfl, hisDir name (hperm.mem_iff.1 hname)⟩

/-- Names that are in order already are asked for one after the other. -/
theorem entries_of_sorted (isDir : String → Bool) (hnames : s.disk.names b.appDir = .ok names)
    (hlt : names.Pairwise (· < ·))
    (hdir : ∀ name ∈ names, s.disk.isDir (b.child name) = .ok (isDir name)) :
    (b.entries s).1 =
      .ok (names.map fun name => ⟨name, b.sourceOf s.disk.here name, isDir name⟩) := by
  have hsort : (names.mergeSort fun m n => decide (m ≤ n)) = names :=
    List.mergeSort_of_pairwise
      (hlt.imp fun h => decide_eq_true (String.not_lt.1 (String.lt_asymm h)))
  rw [(entries_of_names hnames).2, entriesOf, hsort]
  exact mapM_entry_of_ok hdir

/-! ## The section -/

/-- From names in any order, the section has a line for each of them, in increasing order, and then
one for each library; it is missing only where the disk does not answer what one of them is. -/
theorem files_lists_each (b : Builder) (s : Session) (hnames : names.Nodup)
    (libraries : List String) :
    (s.disk.names b.appDir = .ok names → b.entries s = b.entriesOf names s) ∧
      (∀ others, others.Perm names → b.entriesOf others = b.entriesOf names) ∧
      ((∃ name ∈ names, ∃ e, s.disk.isDir (b.child name) = .error e ∧
          (b.entriesOf names s).1 = .error (.disk e)) ∨
        ∃ (isDir : String → Bool) (sorted : List String) (entries : List AppEntry),
          (∀ name ∈ names, s.disk.isDir (b.child name) = .ok (isDir name)) ∧
            sorted.Perm names ∧ sorted.Pairwise (· < ·) ∧
            (b.entriesOf names s).1 = .ok entries ∧
            files b.config entries libraries = ⟨"Files",
              sorted.map (fun name => (FileRow.ofChild b.config name
                (b.sourceOf s.disk.here name) (isDir name)).text) ++
              libraries.map fun library => (FileRow.verbatim library).text⟩) := by
  refine ⟨fun h => (entries_of_names h).2,
    fun others hperm => congrArg (List.mapM b.entry) (mergeSort_eq_of_perm hperm), ?_⟩
  rcases entriesOf_outcome (b := b) (s := s) hnames with
    herror | ⟨isDir, sorted, hisDir, hperm, hlt, hrun⟩
  · exact .inl herror
  · refine .inr ⟨isDir, sorted, _, hisDir, hperm, hlt, hrun, ?_⟩
    rw [files_eq, fileRows, List.map_append, List.map_map, List.map_map, List.map_map]
    rfl

def renamed : Builder :=
  { sample with config := { sample.config with declaredName := "my-tool" } }

def shelf : Session :=
  let dirs := (FileTree.empty.put ["app"] .dir).put ["app", "tool.exe"] .dir
  .begin ⟨dirs.put ["app", "my-tool.exe"] (.file .empty), []⟩ ⟨.root, []⟩ "now"

/-- A directory under the name that the executable file gets stays a directory. -/
theorem files_lists_each_shelf : ∃ entries,
    (renamed.entriesOf ["tool.exe", "my-tool.exe"] shelf).1 = .ok entries ∧
      files renamed.config entries ["/tmp/a.dll"] = ⟨"Files",
        ["Source: \"/app/my-tool.exe\"; DestDir: \"\x7bapp\x7d\"; DestName: \"tool.exe\"; " ++
            "Flags: ignoreversion",
          "Source: \"/app/tool.exe\\*\"; DestDir: \"\x7bapp\x7d\\tool.exe\"; " ++
            "Flags: ignoreversion recursesubdirs createallsubdirs",
          "Source: \"/tmp/a.dll\"; DestDir: \"\x7bapp\x7d\"; Flags: ignoreversion"]⟩ := by
  have hfile : shelf.disk.isDir (renamed.child "my-tool.exe") = .ok false := rfl
  have hdir : shelf.disk.isDir (renamed.child "tool.exe") = .ok true := rfl
  have hnodup : ["tool.exe", "my-tool.exe"].Nodup := by decide
  obtain ⟨-, -, ⟨name, hname, e, he, -⟩ |
      ⟨isDir, sorted, entries, hisDir, hperm, hlt, hrun, hfiles⟩⟩ :=
    files_lists_each renamed shelf hnodup ["/tmp/a.dll"]
  · simp only [List.mem_cons, List.not_mem_nil, or_false] at hname
    rcases hname with rfl | rfl
    · exact nomatch hdir.symm.trans he
    · exact nomatch hfile.symm.trans he
  · have hsorted : sorted = ["my-tool.exe", "tool.exe"] :=
      (hperm.trans (.swap _ _ _)).eq_of_pairwise
        (fun _ _ _ _ h h' => absurd h (String.lt_asymm h')) hlt (by decide)
    have htool : isDir "tool.exe" = true :=
      Except.ok.inj ((hisDir _ (by decide)).symm.trans hdir)
    have hmine : isDir "my-tool.exe" = false :=
      Except.ok.inj ((hisDir _ (by decide)).symm.trans hfile)
    refine ⟨entries, hrun, hfiles.trans ?_⟩
    rw [hsorted, List.map_cons, List.map_singleton, htool, hmine]
    refine congrArg (Section.mk "Files") ?_
    decide +kernel

end SetupScript.Builder
