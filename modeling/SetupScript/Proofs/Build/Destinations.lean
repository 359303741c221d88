import SetupScript.Proofs.Build.Confinement
import SetupScript.Proofs.Build.Listing
import SetupScript.Proofs.Script.Launching

/-!
# Where files are installed

A row of one file installs it under its own name or under the one that the row gives
(`FileRow.destination`). The section is made of what the application's build holds, with the
executable file under its new name, and of the libraries. So two rows have one destination exactly
where a file of the build is named like a staged library, or where one has the new name of the
executable file already (`nodup_destinations_iff`).
-/

namespace SetupScript

/-! ## Names of sources -/

/-- What a written path holds after its last slash. -/
def lastName (source : String) : String := (slashPieces source).getLast?.getD ""

theorem toList_intercalate_concat (name : String) : ∀ names : List String,
    ∃ above, '/' :: ("/".intercalate (names ++ [name])).toList = above ++ '/' :: name.toList
  | [] => ⟨[], by simp⟩
  | first :: names => by
    obtain ⟨above, ih⟩ := toList_intercalate_concat name names
    obtain ⟨next, rest, hrest⟩ := List.exists_cons_of_ne_nil
      (List.append_ne_nil_of_right_ne_nil names (List.cons_ne_nil name []))
    rw [hrest] at ih
    refine ⟨'/' :: first.toList ++ above, ?_⟩
    rw [List.cons_append, hrest, String.intercalate_cons_cons, List.append_assoc, ← ih]
    simp

theorem Path.text_descend {p : Path} (h : p.isRelative = false) (name : String) :
    ∃ above, (p.descend [name]).text.toList = above ++ '/' :: name.toList := by
  obtain ⟨anchor, parts⟩ := p
  obtain ⟨above, habove⟩ := toList_intercalate_concat name parts
  cases anchor with
  | relative => contradiction
  | root => exact ⟨above, by simp [text, descend, anchorText, ← habove]⟩
  | doubleRoot => exact ⟨'/' :: above, by simp [text, descend, anchorText, ← habove]⟩

theorem lastName_text {p : Path} (h : p.isRelative = false) {name : String}
    (hname : '/' ∉ name.toList) : lastName (p.descend [name]).text = name := by
  obtain ⟨above, htext⟩ := Path.text_descend h name
  have hpiece := Text.splitAll_eq_singleton (Text.beq_eq_false_of_notMem hname)
  rw [lastName, slashPieces, htext, Text.splitAll_append_cons (by rfl), hpiece]
  simp

/-! ## Staged libraries -/

namespace Staging

variable {logger : String} {dirs : List Path} {target : Path}

/-- A copy is named like its source, in the text that stands for it too. -/
theorem lastNames_of_copyAll {sources copies : List Path} {s s' : Session}
    (hnames : ∀ p ∈ sources, p.name ∈ libraryNames)
    (h : copyAll logger target sources s = (.ok copies, s')) :
    (copies.map fun p => lastName p.text) = sources.map Path.name := by
  refine map_of_copyAll (fun source hsource here => ?_) h
  have hslash := noSlash_of_mem_libraryNames _ (hnames source hsource)
  rw [Path.descend_absolute, lastName_text Path.isRelative_absolute hslash]

theorem lastNames_of_stageLibraries {libraries : List Path} {s s' : Session}
    (h : stageLibraries logger dirs target s = (.ok libraries, s')) :
    (libraries.map fun p => lastName p.text).Sublist libraryNames := by
  obtain ⟨-, s₁, -, h⟩ := bind_run_eq_ok.1 h
  obtain ⟨sources, s₂, hask, hcopy⟩ := bind_run_eq_ok.1 h
  have hfound : findLibraries dirs s₁.disk libraryNames = .ok sources :=
    mapError_eq_ok.1 (congrArg Prod.fst hask)
  rw [lastNames_of_copyAll (name_mem_of_findLibraries (fun _ h => h) hfound) hcopy]
  exact map_name_sublist_of_findLibraries (fun _ h => h) hfound

end Staging

/-! ## Rows of one file -/

namespace Script

variable {c : Configuration} {entries : List AppEntry} {libraries : List String}

/-- Where a row of one file puts it. -/
def FileRow.destination (r : FileRow) : String := inApp (r.destName?.getD (lastName r.source))

def singleRows (c : Configuration) (entries : List AppEntry) (libraries : List String) :
    List FileRow :=
  (fileRows c entries libraries).filter fun r => !r.recursive

/-- The name that a file of the application's build is installed under. -/
def installedName (c : Configuration) (name : String) : String :=
  if name = c.declaredExeName ∧ c.name ≠ c.declaredName then c.exeName else name

/-- The files of the application's build, without its directories. -/
def plainFiles (entries : List AppEntry) : List AppEntry := entries.filter fun e => !e.isDir

theorem mem_plainFiles {e : AppEntry} : e ∈ plainFiles entries ↔ e ∈ entries ∧ e.isDir = false := by
  simp [plainFiles]

theorem recursive_ofChild (name source : String) (isDir : Bool) :
    (FileRow.ofChild c name source isDir).recursive = isDir := by
  unfold FileRow.ofChild
  cases isDir with
  | true => rfl
  | false =>
    rw [if_neg Bool.false_ne_true]
    split <;> rfl

theorem source_ofChild (name source : String) :
    (FileRow.ofChild c name source false).source = source := by
  rw [FileRow.ofChild, if_neg Bool.false_ne_true]
  split <;> rfl

theorem singleRows_eq : singleRows c entries libraries =
    (plainFiles entries).map (fun e => FileRow.ofChild c e.name e.source false) ++
      libraries.map FileRow.verbatim := by
  have hrows : (entries.map fun e => FileRow.ofChild c e.name e.source e.isDir).filter
        (fun r => !r.recursive) =
      (plainFiles entries).map fun e => FileRow.ofChild c e.name e.source false := by
    rw [List.filter_map, plainFiles]
    simp only [Function.comp_def, recursive_ofChild]
    refine List.map_congr_left fun e he => ?_
    rw [(mem_plainFiles.1 he).2]
  have hlibraries : (libraries.map FileRow.verbatim).filter (fun r => !r.recursive) =
      libraries.map FileRow.verbatim :=
    List.filter_eq_self.2 (List.forall_mem_map.2 fun _ _ => rfl)
  rw [singleRows, fileRows, List.filter_append, hrows, hlibraries]

theorem inApp_inj {a b : String} : inApp a = inApp b ↔ a = b := by
  simp [inApp]

theorem exeName_eq_declared : c.exeName = c.declaredExeName ↔ c.name = c.declaredName := by
  simp [Configuration.exeName, Configuration.declaredExeName]

theorem destination_ofChild {e : AppEntry} (h : lastName e.source = e.name) :
    (FileRow.ofChild c e.name e.source false).destination = inApp (installedName c e.name) := by
  rw [FileRow.ofChild, if_neg Bool.false_ne_true, installedName, Configuration.declaredExeName]
  split_ifs
  · rfl
  · rw [FileRow.destination, FileRow.verbatim, Option.getD_none, h]

theorem map_destination (h : ∀ e ∈ entries, lastName e.source = e.name) :
    (singleRows c entries libraries).map FileRow.destination =
      ((plainFiles entries).map (fun e => installedName c e.name) ++
        libraries.map lastName).map inApp := by
  rw [singleRows_eq, List.map_append, List.map_append, List.map_map, List.map_map, List.map_map,
    List.map_map]
  refine congrArg₂ _ (List.map_congr_left fun e he => ?_) rfl
  exact destination_ofChild (h e (mem_plainFiles.1 he).1)

theorem append_exe_notMem (s : String) : s ++ ".exe" ∉ Staging.libraryNames := by
  have hlast : ∀ name ∈ Staging.libraryNames, name.toList.getLast? = some 'l' := by decide
  intro hm
  have := hlast _ hm
  simp at this

theorem installedName_eq_exeName {name : String} : installedName c name = c.exeName ↔
    name = c.declaredExeName ∨ name = c.exeName := by
  unfold installedName
  split_ifs with h
  · simp [h.1]
  · refine ⟨.inr, ?_⟩
    rintro (hname | hname)
    · rw [hname]
      exact (exeName_eq_declared.2 (not_not.1 fun hne => h ⟨hname, hne⟩)).symm
    · exact hname

theorem installedName_eq_of_mem {name library : String} (h : library ∈ Staging.libraryNames) :
    installedName c name = library ↔ name = library := by
  unfold installedName
  split_ifs with hrenamed
  · rw [hrenamed.1]
    exact iff_of_false (fun he => append_exe_notMem _ (he ▸ h))
      (fun he => append_exe_notMem _ (he ▸ h))
  · rfl

/-- Two names become one only as the declared executable file and one that has its new name. -/
theorem installedName_inj {m n : String} (hne : m ≠ n) : installedName c m = installedName c n ↔
    c.name ≠ c.declaredName ∧
      (m = c.declaredExeName ∧ n = c.exeName ∨ n = c.declaredExeName ∧ m = c.exeName) := by
  unfold installedName
  split_ifs with hm hn hn
  · exact absurd (hm.1.trans hn.1.symm) hne
  · constructor
    · exact fun h => ⟨hm.2, .inl ⟨hm.1, h.symm⟩⟩
    · rintro ⟨-, h | h⟩
      · exact h.2.symm
      · exact absurd (hm.1.trans h.1.symm) hne
  · constructor
    · exact fun h => ⟨hn.2, .inr ⟨hn.1, h⟩⟩
    · rintro ⟨-, h | h⟩
      · exact absurd (h.1.trans hn.1.symm) hne
      · exact h.2
  · refine iff_of_false hne ?_
    rintro ⟨hname, h | h⟩
    · exact hm ⟨h.1, hname⟩
    · exact hn ⟨h.1, hname⟩

/-! ## Destinations -/

/-- Whether two files of the application's build would both be installed as the executable file. -/
def SharesExeName (c : Configuration) (entries : List AppEntry) : Prop :=
  c.name ≠ c.declaredName ∧ ∃ e ∈ plainFiles entries, ∃ e' ∈ plainFiles entries,
    e.name = c.declaredExeName ∧ e'.name = c.exeName

theorem nodup_plainFiles (hnames : (entries.map AppEntry.name).Nodup) :
    (plainFiles entries).Nodup :=
  (List.Nodup.of_map _ hnames).filter _

theorem nodup_installedName_iff (hnames : (entries.map AppEntry.name).Nodup) :
    ((plainFiles entries).map fun e => installedName c e.name).Nodup ↔
      ¬ SharesExeName c entries := by
  have hinj : ∀ e ∈ plainFiles entries, ∀ e' ∈ plainFiles entries, e.name = e'.name → e = e' :=
    fun e he e' he' =>
      List.inj_on_of_nodup_map hnames (mem_plainFiles.1 he).1 (mem_plainFiles.1 he').1
  rw [List.nodup_map_iff_inj_on (nodup_plainFiles hnames)]
  constructor
  · rintro h ⟨hname, e, he, e', he', hdeclared, hexe⟩
    have hne : e.name ≠ e'.name := by
      rw [hdeclared, hexe]
      exact fun heq => hname (exeName_eq_declared.1 heq.symm)
    have hsame := (installedName_inj hne).2 ⟨hname, .inl ⟨hdeclared, hexe⟩⟩
    exact hne (congrArg _ (h e he e' he' hsame))
  · intro h e he e' he' heq
    refine hinj e he e' he' (not_not.1 fun hne => h ?_)
    obtain ⟨hname, hshared | hshared⟩ := (installedName_inj hne).1 heq
    · exact ⟨hname, e, he, e', he', hshared⟩
    · exact ⟨hname, e', he', e, he, hshared⟩

/-- Destinations are distinct unless a file of the build is named like a library, or two would be
the executable file. -/
theorem nodup_destinations_iff (hnames : (entries.map AppEntry.name).Nodup)
    (hsources : ∀ e ∈ entries, lastName e.source = e.name)
    (hlibraries : (libraries.map lastName).Sublist Staging.libraryNames) :
    ((singleRows c entries libraries).map FileRow.destination).Nodup ↔
      (∀ e ∈ plainFiles entries, e.name ∉ libraries.map lastName) ∧ ¬ SharesExeName c entries := by
  have hinApp : Function.Injective inApp := fun _ _ => inApp_inj.1
  have hstaged : (libraries.map lastName).Nodup := hlibraries.nodup (by decide)
  have hlibrary : ∀ e : AppEntry, (∀ l ∈ libraries.map lastName, installedName c e.name ≠ l) ↔
      e.name ∉ libraries.map lastName := by
    intro e
    constructor
    · exact fun h hm => h _ hm ((installedName_eq_of_mem (hlibraries.subset hm)).2 rfl)
    · rintro h l hl heq
      exact h ((installedName_eq_of_mem (hlibraries.subset hl)).1 heq ▸ hl)
  rw [map_destination hsources, List.nodup_map_iff hinApp, List.nodup_append,
    nodup_installedName_iff hnames, List.forall_mem_map]
  simp only [hlibrary, hstaged, true_and]
  exact and_comm

/-- The rows that install the executable file are those of the two names that it can have. -/
theorem sources_of_exe (hsources : ∀ e ∈ entries, lastName e.source = e.name)
    (hlibraries : ∀ l ∈ libraries, lastName l ∈ Staging.libraryNames) :
    ((singleRows c entries libraries).filter
        fun r => r.destination = inApp c.exeName).map FileRow.source =
      ((plainFiles entries).filter
        fun e => e.name = c.declaredExeName ∨ e.name = c.exeName).map AppEntry.source := by
  have hlibrary : (libraries.map FileRow.verbatim).filter
      (fun r => r.destination = inApp c.exeName) = [] := by
    refine List.filter_eq_nil_iff.2 (List.forall_mem_map.2 fun l hl heq => ?_)
    have hname : lastName l = c.name ++ ".exe" := inApp_inj.1 (of_decide_eq_true heq)
    exact append_exe_notMem c.name (hname ▸ hlibraries l hl)
  have hchild : ∀ e ∈ plainFiles entries,
      decide ((FileRow.ofChild c e.name e.source false).destination = inApp c.exeName) =
        decide (e.name = c.declaredExeName ∨ e.name = c.exeName) := by
    intro e he
    rw [destination_ofChild (hsources e (mem_plainFiles.1 he).1)]
    exact decide_eq_decide.2 (inApp_inj.trans installedName_eq_exeName)
  rw [singleRows_eq, List.filter_append, hlibrary, List.append_nil, List.filter_map, List.map_map,
    ← List.filter_congr hchild]
  exact List.map_congr_left fun e _ => source_ofChild e.name e.source

/-- The declared executable file alone is installed as the executable file unless another file has
that name already. -/
theorem sources_of_exe_iff (hnames : (entries.map AppEntry.name).Nodup)
    (hsources : ∀ e ∈ entries, lastName e.source = e.name)
    (hlibraries : ∀ l ∈ libraries, lastName l ∈ Staging.libraryNames) {e : AppEntry}
    (he : e ∈ plainFiles entries) (hdeclared : e.name = c.declaredExeName) :
    ((singleRows c entries libraries).filter
        fun r => r.destination = inApp c.exeName).map FileRow.source = [e.source] ↔
      ∀ e' ∈ plainFiles entries, e'.name = c.exeName → e' = e := by
  rw [sources_of_exe hsources hlibraries]
  have hmem : e ∈ (plainFiles entries).filter
      fun e => e.name = c.declaredExeName ∨ e.name = c.exeName := by
    simp [he, hdeclared]
  constructor
  · intro h e' he' hexe
    obtain ⟨x, hx, -⟩ := List.map_eq_singleton_iff.1 h
    have hmem' : e' ∈ (plainFiles entries).filter
        fun e => e.name = c.declaredExeName ∨ e.name = c.exeName := by
      simp [he', hexe]
    rw [hx, List.mem_singleton] at hmem hmem'
    rw [hmem, hmem']
  · intro h
    have hall : ∀ e' ∈ plainFiles entries,
        e'.name = c.declaredExeName ∨ e'.name = c.exeName → e' = e := by
      rintro e' he' (hname | hname)
      · exact List.inj_on_of_nodup_map hnames (mem_plainFiles.1 he').1 (mem_plainFiles.1 he).1
          (hname.trans hdeclared.symm)
      · exact h e' he' hname
    have hsame : (plainFiles entries).filter
        (fun e => e.name = c.declaredExeName ∨ e.name = c.exeName) = [e] := by
      refine List.perm_singleton.1 ((List.perm_ext_iff_of_nodup
        ((nodup_plainFiles hnames).filter _) (List.nodup_singleton e)).2 fun e' => ?_)
      rw [List.mem_singleton]
      constructor
      · intro he'
        obtain ⟨hm, hname⟩ := List.mem_filter.1 he'
        exact hall e' hm (of_decide_eq_true hname)
      · rintro rfl
        exact hmem
    rw [hsame, List.map_singleton]

end Script

namespace Builder

open Script

theorem lastName_source {b : Builder} {s : Session} {entries : List AppEntry}
    (h : (b.entries s).1 = .ok entries) (hslash : ∀ e ∈ entries, '/' ∉ e.name.toList) :
    ∀ e ∈ entries, lastName e.source = e.name := by
  intro e he
  rw [((entries_eq_ok h).2.1 e he).1, sourceOf, child, Path.descend_absolute]
  exact lastName_text Path.isRelative_absolute (hslash e he)

/-- Two rows of one file have the same destination only where the application's build holds a file
that is named like a library or like the executable file after its renaming. Where it does not,
the declared executable file is the one that everything in the script starts. -/
theorem files_destinations {d : Disk} {v : Value} {o : Overrides} {dir : Path} {b : Builder}
    (hc : resolve d v o dir = .ok b.config) {s s' t t' : Session} {entries : List AppEntry}
    (hentries : b.entries s = (.ok entries, s')) (hslash : ∀ e ∈ entries, '/' ∉ e.name.toList)
    {logger : String} {dirs : List Path} {target : Path} {paths : List Path}
    (hpaths : Staging.stageLibraries logger dirs target t = (.ok paths, t')) :
    let c := b.config
    let libraries := paths.map Path.text
    files c entries libraries = ⟨"Files", (fileRows c entries libraries).map FileRow.text⟩ ∧
      (((singleRows c entries libraries).map FileRow.destination).Nodup ↔
        (∀ e ∈ plainFiles entries, e.name ∉ libraries.map lastName) ∧
          ¬ SharesExeName c entries) ∧
      (∀ e ∈ plainFiles entries, e.name = c.declaredExeName →
        (((singleRows c entries libraries).filter
            fun r => r.destination = inApp c.exeName).map FileRow.source = [e.source] ↔
          ∀ e' ∈ plainFiles entries, e'.name = c.exeName → e' = e)) ∧
      (∀ outputDir icon, "UninstallDisplayIcon=" ++ inApp c.exeName ∈
        (setup c outputDir icon).lines) ∧
      ∀ l ∈ (icons c).lines ++ (run c).lines,
        (parameters? l).bind (·.lookup "Filename") = some (inApp c.exeName) := by
  intro c libraries
  obtain ⟨-, -, -, -, -, -, hname⟩ := resolve_id_name hc
  have hquote : '"' ∉ c.name.toList := Names.notMem_of_acceptsName (by decide) (by decide) hname
  have hrun : (b.entries s).1 = .ok entries := congrArg Prod.fst hentries
  have hnames := (entries_eq_ok hrun).1
  have hsources := lastName_source hrun hslash
  have hlibraries : (libraries.map lastName).Sublist Staging.libraryNames := by
    rw [List.map_map]
    exact Staging.lastNames_of_stageLibraries hpaths
  refine ⟨files_eq c entries libraries, nodup_destinations_iff hnames hsources hlibraries, ?_,
    fun _ _ => by simp [setup], filename_of_mem_starts hquote⟩
  exact fun e he hdeclared => sources_of_exe_iff hnames hsources
    (fun l hl => hlibraries.subset (List.mem_map_of_mem hl)) he hdeclared

/-- An application's build with some files, and a machine with one library. -/
def packedSession (files : List String) : Session :=
  let sys := (FileTree.empty.put ["sys"] .dir).put ["sys", "msvcp140.dll"] (.file .empty)
  .begin ⟨files.foldl (fun t name => t.put ["app", name] (.file .empty)) (sys.put ["app"] .dir), []⟩
    ⟨.root, []⟩ "now"

def tidy : List String := ["my-tool.exe"]

/-- A build that comes with a runtime library and with a file of the new name. -/
def crowded : List String := ["msvcp140.dll", "my wordy_tool.exe", "my-tool.exe"]

def packed (c : Configuration) : Builder :=
  ⟨c, ⟨.root, ["app"]⟩, ⟨.root, ["project"]⟩, ⟨.root, ["tmp"]⟩, [⟨.root, ["sys"]⟩], "log"⟩

def packedEntries (files : List String) : List AppEntry :=
  files.map fun name => ⟨name, "/app/" ++ name, false⟩

def packedLibraries : List Path := [⟨.root, ["tmp", "msvcp140.dll"]⟩]

theorem isDir_packed : ∀ files ∈ [tidy, crowded], ∀ name ∈ files,
    ((packedSession files).disk.isDir ⟨.root, ["app", name]⟩).toOption = some false := by
  decide +kernel

theorem entries_packed (c : Configuration) (files : List String) (h : files ∈ [tidy, crowded]) :
    ∃ s', (packed c).entries (packedSession files) = (.ok (packedEntries files), s') := by
  have hdir : ∀ name ∈ files,
      (packedSession files).disk.isDir ((packed c).child name) = .ok false :=
    fun name hname => toOption_eq_some.1 (isDir_packed files h name hname)
  have hok : ((packed c).entries (packedSession files)).1 = .ok (packedEntries files) := by
    simp only [List.mem_cons, List.not_mem_nil, or_false] at h
    rcases h with rfl | rfl
    · exact entries_of_sorted (fun _ => false) rfl (by decide) hdir
    · exact entries_of_sorted (fun _ => false) rfl (by decide) hdir
  exact ⟨_, Prod.ext hok rfl⟩

theorem stageLibraries_packed (files : List String) (h : files ∈ [tidy, crowded]) : ∃ t',
    Staging.stageLibraries "log" [⟨.root, ["sys"]⟩] ⟨.root, ["tmp"]⟩ (packedSession files) =
      (.ok packedLibraries, t') := by
  have hok : (Staging.stageLibraries "log" [⟨.root, ["sys"]⟩] ⟨.root, ["tmp"]⟩
      (packedSession files)).1 = .ok packedLibraries := by
    simp only [List.mem_cons, List.not_mem_nil, or_false] at h
    rcases h with rfl | rfl
    · rfl
    · rfl
  exact ⟨_, Prod.ext hok rfl⟩

theorem files_destinations_packed : ∃ c s' t',
    resolve ⟨.empty, []⟩ wordyDescriptor .default ⟨.root, []⟩ = .ok c ∧
      let entries := packedEntries tidy
      let rows := singleRows c entries (packedLibraries.map Path.text)
      (packed c).entries (packedSession tidy) = (.ok entries, s') ∧
      Staging.stageLibraries "log" [⟨.root, ["sys"]⟩] ⟨.root, ["tmp"]⟩
        (packedSession tidy) = (.ok packedLibraries, t') ∧
      (rows.map FileRow.destination).Nodup ∧
      (rows.filter fun r => r.destination = inApp c.exeName).map FileRow.source =
        ["/app/my-tool.exe"] := by
  obtain ⟨c, hc⟩ : ∃ c, resolve ⟨.empty, []⟩ wordyDescriptor .default ⟨.root, []⟩ = .ok c :=
    ⟨_, rfl⟩
  obtain ⟨s', hentries⟩ := entries_packed c tidy (by simp)
  obtain ⟨t', hpaths⟩ := stageLibraries_packed tidy (by simp)
  have hslash : ∀ e ∈ packedEntries tidy, '/' ∉ e.name.toList := by decide
  have hnames : c.name = "my wordy_tool" ∧ c.declaredName = "my-tool" := by
    cases hc
    exact ⟨rfl, rfl⟩
  have hfiles : plainFiles (packedEntries tidy) = [⟨"my-tool.exe", "/app/my-tool.exe", false⟩] := by
    decide
  obtain ⟨-, hnodup, hexe, -⟩ := files_destinations (b := packed c) hc hentries hslash hpaths
  refine ⟨c, s', t', hc, hentries, hpaths, hnodup.2 ⟨by decide +kernel, ?_⟩, ?_⟩
  · rintro ⟨-, -, -, e, he, -, hexe⟩
    rw [hfiles, List.mem_singleton] at he
    have hname : "my-tool.exe" = c.name ++ ".exe" := (congrArg AppEntry.name he).symm.trans hexe
    rw [hnames.1] at hname
    exact absurd hname (by decide)
  · have hdeclared : "my-tool.exe" = (packed c).config.declaredExeName := by
      change _ = c.declaredExeName
      rw [Configuration.declaredExeName, hnames.2]
      decide
    refine (hexe _ (hfiles ▸ List.mem_singleton_self _) hdeclared).2 fun e he _ => ?_
    rwa [hfiles, List.mem_singleton] at he

/-- Both kinds of files that share a destination, in one build of the application. -/
theorem not_nodup_destinations_packed : ∃ c s' t',
    resolve ⟨.empty, []⟩ wordyDescriptor .default ⟨.root, []⟩ = .ok c ∧
      let rows := singleRows c (packedEntries crowded) (packedLibraries.map Path.text)
      (packed c).entries (packedSession crowded) = (.ok (packedEntries crowded), s') ∧
      Staging.stageLibraries "log" [⟨.root, ["sys"]⟩] ⟨.root, ["tmp"]⟩ (packedSession crowded) =
        (.ok packedLibraries, t') ∧
      ¬ (rows.map FileRow.destination).Nodup ∧
      (rows.filter fun r => r.destination = inApp c.exeName).map FileRow.source =
        ["/app/my wordy_tool.exe", "/app/my-tool.exe"] ∧
      (rows.filter fun r => r.destination = inApp "msvcp140.dll").map FileRow.source =
        ["/app/msvcp140.dll", "/tmp/msvcp140.dll"] := by
  obtain ⟨c, hc⟩ : ∃ c, resolve ⟨.empty, []⟩ wordyDescriptor .default ⟨.root, []⟩ = .ok c :=
    ⟨_, rfl⟩
  obtain ⟨s', hentries⟩ := entries_packed c crowded (by simp)
  obtain ⟨t', hpaths⟩ := stageLibraries_packed crowded (by simp)
  refine ⟨c, s', t', hc, hentries, hpaths, ?_, ?_, ?_⟩ <;>
  · cases hc
    decide +kernel

end Builder

end SetupScript
