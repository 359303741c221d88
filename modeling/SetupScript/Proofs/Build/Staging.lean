import SetupScript.Proofs.Session
import SetupScript.Staging

/-!
# What staging writes

The icon and the libraries are written below the directories that they are staged in, each under
its own name: a library that is found keeps the name that it was looked for, whichever directory it
comes from (`name_mem_of_findLibraries`).
-/

namespace SetupScript.Staging

variable {dirs files : Set Location} {here : Location} {s : Session} {logger : String}
  {dir target : Path}

theorem isPlain_iconName : IsPlain iconName := by decide

theorem isPlain_of_mem_libraryNames : ∀ name ∈ libraryNames, IsPlain name := by decide

theorem noSlash_of_mem_libraryNames : ∀ name ∈ libraryNames, '/' ∉ name.toList := by decide

section Search

variable {d : Disk} {name : String} {dirs : List Path}

theorem findIn_eq_ok {found : Option Path} : findIn d name (dir :: dirs) = .ok found ↔
    d.isFile (dir.child name) = .ok true ∧ found = some (dir.child name) ∨
      d.isFile (dir.child name) = .ok false ∧ findIn d name dirs = .ok found := by
  rw [findIn, bind_eq_ok]
  cases d.isFile (dir.child name) with
  | error e => simp
  | ok isFile =>
    cases isFile with
    | true =>
      simp only [Except.ok.injEq, exists_eq_left', if_true, pure_eq_ok, Bool.true_eq_false,
        false_and, or_false, true_and]
      exact eq_comm
    | false => simp

theorem name_of_findIn (hname : IsPlain name) (hslash : '/' ∉ name.toList) {p : Path} :
    ∀ {dirs : List Path}, findIn d name dirs = .ok (some p) → p.name = name
  | [], h => by simp [findIn] at h
  | dir :: dirs, h => by
    rcases findIn_eq_ok.1 h with ⟨-, hp⟩ | ⟨-, hrest⟩
    · rw [Option.some.inj hp, Path.child_eq hname hslash]
      simp [Path.name, Path.descend]
    · exact name_of_findIn hname hslash hrest

theorem findLibraries_eq_ok {name : String} {names : List String} {paths : List Path} :
    findLibraries dirs d (name :: names) = .ok paths ↔
      ∃ found others, findIn d name dirs = .ok found ∧ findLibraries dirs d names = .ok others ∧
        paths = found.toList ++ others := by
  simp only [findLibraries, bind_eq_ok, pure_eq_ok]
  constructor
  · rintro ⟨found, hfound, others, hothers, rfl⟩
    exact ⟨found, others, hfound, hothers, rfl⟩
  · rintro ⟨found, others, hfound, hothers, rfl⟩
    exact ⟨found, hfound, others, hothers, rfl⟩

/-- The libraries that are found are named as they were looked for, in that order. -/
theorem map_name_sublist_of_findLibraries : ∀ {names : List String} {paths : List Path},
    (∀ name ∈ names, name ∈ libraryNames) → findLibraries dirs d names = .ok paths →
      (paths.map Path.name).Sublist names
  | [], paths, _, h => by
    obtain rfl := Except.ok.inj h
    exact List.Sublist.refl []
  | name :: names, paths, hnames, h => by
    obtain ⟨hname, hrest⟩ := List.forall_mem_cons.1 hnames
    obtain ⟨found, others, hfound, hothers, rfl⟩ := findLibraries_eq_ok.1 h
    have hsub := map_name_sublist_of_findLibraries hrest hothers
    cases found with
    | none => exact hsub.cons name
    | some p =>
      have hp : p.name = name := name_of_findIn (isPlain_of_mem_libraryNames name hname)
        (noSlash_of_mem_libraryNames name hname) hfound
      rw [Option.toList_some, List.singleton_append, List.map_cons, hp]
      exact hsub.cons_cons name

theorem name_mem_of_findLibraries {names : List String}
    (hnames : ∀ name ∈ names, name ∈ libraryNames) {paths : List Path}
    (h : findLibraries dirs d names = .ok paths) : ∀ p ∈ paths, p.name ∈ libraryNames :=
  fun p hp => hnames p.name
    ((map_name_sublist_of_findLibraries hnames h).subset (List.mem_map_of_mem hp))

end Search

theorem writeIcon_grows (hs : s.Ready here files) (hdirs : dir.placesUp here ⊆ dirs)
    (hicon : ((dir.descend [iconName]).absolute here).place here ∈ files) :
    Keeps (Session.Grows dirs files) (writeIcon logger dir) s := by
  unfold writeIcon
  refine (Work.onDisk_grows (DiskWork.ensureDirs_grows hs.linkFree (hs.here ▸ hdirs))).bind
    fun _ s₁ h₁ _ => ?_
  have hs₁ := h₁.ready hs
  refine Leads.get.bind fun s' s₂ h₂ hget => ?_
  have hs₂ := h₂.ready hs₁
  rw [hget, hs₁.here]
  refine (Work.onDisk_grows (DiskWork.write_grows hs₂.linkFree (hs₂.here.symm ▸ hicon))).bind
    fun _ s₃ h₃ _ => ?_
  exact (Work.note_grows (h₃.ready hs₂) _).bind fun _ _ _ _ => .pure trivial

theorem copyAll_grows : ∀ {sources : List Path} {s : Session}, s.Ready here files →
    (∀ p ∈ sources, ((target.descend [p.name]).absolute here).place here ∈ files) →
      Keeps (Session.Grows dirs files) (copyAll logger target sources) s
  | [], _, _, _ => .pure trivial
  | source :: sources, s, hs, hfiles => by
    obtain ⟨hfile, hrest⟩ := List.forall_mem_cons.1 hfiles
    unfold copyAll
    refine Leads.get.bind fun s' s₁ h₁ hget => ?_
    have hs₁ := h₁.ready hs
    rw [hget, hs.here]
    refine (Work.onDisk_grows (DiskWork.copy_grows hs₁.linkFree (hs₁.here.symm ▸ hfile))).bind
      fun _ s₂ h₂ _ => ?_
    have hs₂ := h₂.ready hs₁
    refine (Work.note_grows hs₂ _).bind fun _ s₃ h₃ _ => ?_
    exact (copyAll_grows (h₃.ready hs₂) hrest).bind fun _ _ _ _ => .pure trivial

theorem stageLibraries_grows {searched : List Path} (hs : s.Ready here files)
    (hdirs : target.placesUp here ⊆ dirs)
    (hfiles : ∀ name ∈ libraryNames, ((target.descend [name]).absolute here).place here ∈ files) :
    Keeps (Session.Grows dirs files) (stageLibraries logger searched target) s := by
  unfold stageLibraries
  refine (Work.onDisk_grows (DiskWork.ensureDirs_grows hs.linkFree (hs.here ▸ hdirs))).bind
    fun _ s₁ h₁ _ => ?_
  have hs₁ := h₁.ready hs
  refine Work.ask_grows.bind fun sources s₂ h₂ hfound => ?_
  have hnames := name_mem_of_findLibraries (fun _ h => h) hfound
  exact copyAll_grows (h₂.ready hs₁) fun p hp => hfiles p.name (hnames p hp)

section Copies

variable {β : Type} {target : Path} {f g : Path → β}

/-- Copies are paths that their sources give the names of. -/
theorem map_of_copyAll : ∀ {sources copies : List Path} {s s' : Session},
    (∀ source ∈ sources, ∀ here, f ((target.descend [source.name]).absolute here) = g source) →
      copyAll logger target sources s = (.ok copies, s') → copies.map f = sources.map g
  | [], copies, s, s', _, h => by
    obtain rfl := Except.ok.inj (congrArg Prod.fst h)
    rfl
  | source :: sources, copies, s, s', hf, h => by
    obtain ⟨hsource, hf⟩ := List.forall_mem_cons.1 hf
    unfold copyAll at h
    obtain ⟨here, s₁, -, h⟩ := bind_run_eq_ok.1 h
    obtain ⟨-, s₂, -, h⟩ := bind_run_eq_ok.1 h
    obtain ⟨-, s₃, -, h⟩ := bind_run_eq_ok.1 h
    obtain ⟨others, s₄, hothers, h⟩ := bind_run_eq_ok.1 h
    obtain rfl := Except.ok.inj (congrArg Prod.fst h)
    rw [List.map_cons, List.map_cons, map_of_copyAll hf hothers, hsource]

theorem paths_of_copyAll {sources copies : List Path} {s s' : Session}
    (htarget : target.isRelative = false)
    (h : copyAll logger target sources s = (.ok copies, s')) :
    copies = sources.map fun source => target.descend [source.name] := by
  have hpaths := map_of_copyAll (f := id) (fun source _ here =>
    Path.absolute_descend htarget [source.name]) h
  rwa [List.map_id] at hpaths

end Copies

end SetupScript.Staging
