import SetupScript.Proofs.Files.Growth

/-!
# Growth of a session

The disk of a session changes by the work on it and by the lines that are added to the log file.
`Session.Grows dirs files` is `Disk.Grows` for a session whose log stays where it is written. The
lemmas about work ask for a session that is `Ready`, and growing leaves it so (`Grows.ready`).
-/

namespace SetupScript

theorem Disk.append_grows {dirs files : Set Location} {d : Disk} {p : Path} {s : String}
    (ht : d.tree.LinkFree) (hp : p.place d.here ∈ files) : d.Grows dirs files (d.append p s) := by
  unfold append
  split
  · rename_i place bytes hfind
    obtain ⟨rfl, hget⟩ := find_ok ht hfind
    have hold : d.tree.get? (p.place d.here) = some (.file bytes) :=
      (hget.resolve_left (by simp)).symm
    have hput := (FileTree.grows_put_file (bytes ++ Text.toBytes s) (.inr ⟨bytes, hold⟩)).1
    exact ⟨rfl, hput.mono (Set.empty_subset _) (Set.singleton_subset_iff.2 hp)⟩
  · exact refl_of _ d

namespace Session

variable {dirs files : Set Location} {here : Location} {s s' : Session}

/-- The place of the log file, if there is one. -/
def logPlaces (s : Session) : Set Location :=
  {place | ∃ k p, s.sink = some k ∧ k.file = some p ∧ place = p.place s.disk.here}

structure Grows (dirs files : Set Location) (s s' : Session) : Prop where
  sink : s'.sink = s.sink
  disk : s.disk.Grows dirs files s'.disk

instance : IsPreorder Session (Grows dirs files) where
  refl s := ⟨rfl, refl_of _ s.disk⟩
  trans _ _ _ h h' := ⟨h'.sink.trans h.sink, trans_of _ h.disk h'.disk⟩

theorem Grows.mono {dirs' files' : Set Location} (h : s.Grows dirs files s') (hdirs : dirs ⊆ dirs')
    (hfiles : files ⊆ files') : s.Grows dirs' files' s' :=
  ⟨h.sink, h.disk.mono hdirs hfiles⟩

/-- A session on a disk without links, whose log file is among the files that may be written. -/
structure Ready (here : Location) (files : Set Location) (s : Session) : Prop where
  here : s.disk.here = here
  linkFree : s.disk.tree.LinkFree
  log : s.logPlaces ⊆ files

theorem Grows.logPlaces (h : s.Grows dirs files s') : s'.logPlaces = s.logPlaces := by
  unfold Session.logPlaces
  rw [h.sink, h.disk.here]

theorem Grows.ready (h : s.Grows dirs files s') (hs : s.Ready here files) :
    s'.Ready here files where
  here := h.disk.here.trans hs.here
  linkFree := h.disk.tree.linkFree hs.linkFree
  log := h.logPlaces ▸ hs.log

theorem writeLine_grows (hs : s.Ready here files) {k : Sink} (hk : s.sink = some k)
    (line : String) : s.Grows dirs files (s.writeLine k line) := by
  refine ⟨rfl, ?_⟩
  unfold writeLine
  simp only
  cases hfile : k.file with
  | none => exact refl_of _ s.disk
  | some p => exact Disk.append_grows hs.linkFree (hs.log ⟨k, p, hk, hfile, rfl⟩)

theorem note_grows (hs : s.Ready here files) (r : Record) : s.Grows dirs files (s.note r) := by
  have hkept : s.Grows dirs files { s with records := s.records ++ [r] } :=
    ⟨rfl, refl_of _ s.disk⟩
  unfold note
  simp only
  split
  · exact hkept
  · rename_i k hk
    split_ifs
    · exact hkept
    · split
      · exact trans_of _ hkept (writeLine_grows (hkept.ready hs) hk _)
      · exact hkept

end Session

namespace Work

variable {α : Type} {dirs files : Set Location} {here : Location} {s : Session} {P : α → Prop}

theorem note_grows (hs : s.Ready here files) (r : Record) :
    Keeps (Session.Grows dirs files) (Work.note r) s :=
  .of_step (Session.note_grows hs r)

theorem onDisk_grows {t : DiskWork α} (h : Leads (Disk.Grows dirs files) t P s.disk) :
    Leads (Session.Grows dirs files) (Work.onDisk t) P s :=
  ⟨⟨rfl, h.1⟩, fun a ha => h.2 a (mapError_eq_ok.1 ha)⟩

theorem ask_grows {question : Disk → Except DiskError α} :
    Leads (Session.Grows dirs files) (Work.ask question) (fun a => question s.disk = .ok a) s :=
  onDisk_grows DiskWork.ask_leads

end Work

end SetupScript
