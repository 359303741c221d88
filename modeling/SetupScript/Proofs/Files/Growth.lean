import Mathlib.Data.Set.Insert
import SetupScript.Proofs.Files.NoLinks
import SetupScript.Proofs.Work

/-!
# Growth of a disk

`FileTree.Grows dirs files` relates a tree to one in which directories were made at places of `dirs`
where nothing was and files were written at places of `files` where nothing or a file was. All other
entries are the same (`Becomes`), so nothing is removed and no entry changes its kind. Every piece
of work on a disk without links keeps to it, with the places of the paths that it is given:
`ensureDirs_grows`, `write_grows`, `copy_grows`.
-/

namespace SetupScript

def Entry.bytes? : Entry → Option ByteArray
  | .file bytes => some bytes
  | _ => none

/-- What can become of an entry where directories may be made if `dir` holds and files may be
written if `file` holds. -/
inductive Becomes (dir file : Prop) : Option Entry → Option Entry → Prop
  | same (e : Option Entry) : Becomes dir file e e
  | made (h : dir) : Becomes dir file none (some .dir)
  | written (h : file) (bytes : ByteArray) : Becomes dir file none (some (.file bytes))
  | rewritten (h : file) (old new : ByteArray) :
      Becomes dir file (some (.file old)) (some (.file new))

namespace Becomes

variable {dir file dir' file' : Prop} {a b c : Option Entry}

theorem trans (h : Becomes dir file a b) (h' : Becomes dir file b c) : Becomes dir file a c := by
  cases h with
  | same => exact h'
  | made hdir =>
    cases h' with
    | same => exact .made hdir
  | written hfile bytes =>
    cases h' with
    | same => exact .written hfile bytes
    | rewritten _ _ new => exact .written hfile new
  | rewritten hfile old new =>
    cases h' with
    | same => exact .rewritten hfile old new
    | rewritten _ _ newer => exact .rewritten hfile old newer

theorem ne_none (h : Becomes dir file a b) (ha : a ≠ none) : b ≠ none := by
  cases h with
  | same => exact ha
  | made => exact absurd rfl ha
  | written => exact absurd rfl ha
  | rewritten => simp

theorem mono (hdir : dir → dir') (hfile : file → file') (h : Becomes dir file a b) :
    Becomes dir' file' a b := by
  cases h with
  | same => exact .same a
  | made h => exact .made (hdir h)
  | written h bytes => exact .written (hfile h) bytes
  | rewritten h old new => exact .rewritten (hfile h) old new

theorem bytes?_eq (h : Becomes dir file a b) (hfile : ¬ file) :
    b.bind Entry.bytes? = a.bind Entry.bytes? := by
  cases h with
  | same => rfl
  | made => rfl
  | written h => exact absurd h hfile
  | rewritten h => exact absurd h hfile

end Becomes

namespace FileTree

variable {dirs dirs' files files' : Set Location} {t u : FileTree} {place : Location}

def Grows (dirs files : Set Location) (t u : FileTree) : Prop :=
  ∀ place, Becomes (place ∈ dirs) (place ∈ files) (t.get? place) (u.get? place)

theorem Grows.mono (h : t.Grows dirs files u) (hdirs : dirs ⊆ dirs') (hfiles : files ⊆ files') :
    t.Grows dirs' files' u :=
  fun place => (h place).mono (@hdirs place) (@hfiles place)

theorem Grows.linkFree (h : t.Grows dirs files u) (ht : t.LinkFree) : u.LinkFree := by
  intro place target hu
  have hplace := h place
  rw [hu] at hplace
  cases hget : t.get? place with
  | none =>
    rw [hget] at hplace
    cases hplace
  | some e =>
    rw [hget] at hplace
    cases hplace
    exact ht place target hget

/-- The bytes of the file at a place. -/
def fileAt? (t : FileTree) (place : Location) : Option ByteArray :=
  (t.get? place).bind Entry.bytes?

theorem Grows.fileAt?_eq (h : t.Grows dirs files u) (hplace : place ∉ files) :
    u.fileAt? place = t.fileAt? place :=
  (h place).bytes?_eq hplace

theorem grows_put_dir (h : t.get? place = none) : t.Grows {place} ∅ (t.put place .dir) := by
  have hne : place ≠ [] := by
    rintro rfl
    simp at h
  intro other
  rw [get?_put t hne]
  by_cases ho : other = place
  · rw [if_pos ho, ho, h]
    exact .made rfl
  · rw [if_neg ho]
    exact .same _

theorem grows_put_file (bytes : ByteArray)
    (h : t.get? place = none ∨ ∃ old, t.get? place = some (.file old)) :
    t.Grows ∅ {place} (t.put place (.file bytes)) ∧
      (t.put place (.file bytes)).fileAt? place = some bytes := by
  have hne : place ≠ [] := by
    rintro rfl
    simp at h
  refine ⟨fun other => ?_, by simp [fileAt?, get?_put t hne, Entry.bytes?]⟩
  rw [get?_put t hne]
  by_cases ho : other = place
  · rw [if_pos ho, ho]
    rcases h with h | ⟨old, h⟩ <;> rw [h]
    · exact .written rfl bytes
    · exact .rewritten rfl old bytes
  · rw [if_neg ho]
    exact .same _

end FileTree

namespace Disk

variable {dirs dirs' files files' : Set Location} {d d' : Disk} {p : Path} {bytes : ByteArray}

/-- The working directory stays where it is. -/
structure Grows (dirs files : Set Location) (d d' : Disk) : Prop where
  here : d'.here = d.here
  tree : d.tree.Grows dirs files d'.tree

instance : IsPreorder Disk (Grows dirs files) where
  refl _ := ⟨rfl, fun _ => .same _⟩
  trans _ _ _ h h' := ⟨h'.here.trans h.here, fun place => (h.tree place).trans (h'.tree place)⟩

theorem Grows.mono (h : d.Grows dirs files d') (hdirs : dirs ⊆ dirs') (hfiles : files ⊆ files') :
    d.Grows dirs' files' d' :=
  ⟨h.here, h.tree.mono hdirs hfiles⟩

/-- What a walk finds at its end, where it finds no directory. -/
theorem get?_of_find (ht : d.tree.LinkFree) {last : Last} {place : Location} {e : Option Entry}
    (h : d.find last p = .ok (place, e)) (he : e ≠ some .dir) :
    place = p.place d.here ∧
      (d.tree.get? place = none ∧ e = none ∨ ∃ old, d.tree.get? place = some (.file old)) := by
  obtain ⟨hplace, hget⟩ := find_ok ht h
  obtain rfl := hget.resolve_left he
  refine ⟨hplace, ?_⟩
  cases hget : d.tree.get? place with
  | none => exact .inl ⟨rfl, rfl⟩
  | some e =>
    cases e with
    | file old => exact .inr ⟨old, rfl⟩
    | dir => exact absurd hget he
    | link target => exact absurd hget (ht place target)

theorem makeDir_grows (ht : d.tree.LinkFree) (h : d.makeDir p = .ok d')
    (hp : p.place d.here ∈ dirs) : d.Grows dirs files d' := by
  unfold makeDir at h
  split at h
  · contradiction
  · rename_i place hfind
    obtain rfl := Except.ok.inj h
    obtain ⟨rfl, ⟨hnone, -⟩ | ⟨old, hold⟩⟩ := get?_of_find ht hfind (by simp)
    · exact ⟨rfl, (FileTree.grows_put_dir hnone).mono (Set.singleton_subset_iff.2 hp)
        (Set.empty_subset _)⟩
    · obtain ⟨-, hget | hget⟩ := find_ok ht hfind
      · contradiction
      · rw [hold] at hget
        contradiction
  · contradiction

theorem writeFile_grows (ht : d.tree.LinkFree) (h : d.writeFile p bytes = .ok d')
    (hp : p.place d.here ∈ files) :
    d.Grows dirs files d' ∧ d'.tree.fileAt? (p.place d.here) = some bytes := by
  unfold writeFile at h
  split at h
  · contradiction
  · contradiction
  · rename_i place e hdir hfind
    obtain rfl := Except.ok.inj h
    have he : e ≠ some .dir := fun he => hdir he
    obtain ⟨rfl, hget⟩ := get?_of_find ht hfind he
    obtain ⟨hgrows, hfile⟩ := FileTree.grows_put_file bytes (hget.imp_left And.left)
    exact ⟨⟨rfl, hgrows.mono (Set.empty_subset _) (Set.singleton_subset_iff.2 hp)⟩, hfile⟩

end Disk

namespace DiskWork

variable {dirs files : Set Location} {d : Disk} {p source target : Path} {bytes : ByteArray}
  {anchor : Anchor}

section Steps

variable {R : Disk → Disk → Prop} [IsPreorder Disk R]

theorem ask_leads {α : Type} {question : Disk → Except DiskError α} :
    Leads R (ask question) (fun a => question d = .ok a) d :=
  ⟨refl_of R d, fun _ h => h⟩

theorem change_keeps {step : Disk → Except DiskError Disk} (h : ∀ d', step d = .ok d' → R d d') :
    Keeps R (change step) d := by
  refine Keeps.of_step ?_
  unfold change
  cases hstep : step d with
  | error e => exact refl_of R d
  | ok d' => exact h d' hstep

theorem settleFor_keeps {e : DiskError} : Keeps R (settleFor p e) d := by
  unfold settleFor
  split_ifs
  · refine ask_leads.bind fun isDir _ _ _ => ?_
    cases isDir with
    | true => exact .pure trivial
    | false => exact .throw e
  · exact .throw e

end Steps

theorem ensureDir_grows (ht : d.tree.LinkFree) (hp : p.place d.here ∈ dirs) :
    Keeps (Disk.Grows dirs files) (ensureDir p) d := by
  refine Keeps.of_step ?_
  unfold ensureDir
  split
  · rename_i d' hmake
    exact Disk.makeDir_grows ht hmake hp
  · exact refl_of _ d
  · exact settleFor_keeps.1

/-- By induction on the names from the last one up: the directory of a name is tried first, and once
more after those above it were made. -/
theorem ensureUp_grows : ∀ {names : List String} {d : Disk}, d.tree.LinkFree →
    Path.placesUp d.here ⟨anchor, names.reverse⟩ ⊆ dirs →
      Keeps (Disk.Grows dirs files) (ensureUp anchor names) d
  | [], _, ht, hdirs => ensureDir_grows ht (hdirs Path.place_mem_placesUp)
  | name :: above, d, ht, hdirs => by
    have habove : Path.placesUp d.here ⟨anchor, above.reverse⟩ ⊆ dirs :=
      (Path.placesUp_mono (by simp)).trans hdirs
    have hown : Path.place d.here ⟨anchor, (name :: above).reverse⟩ ∈ dirs :=
      hdirs Path.place_mem_placesUp
    have htwice : Keeps (Disk.Grows dirs files)
        (ensureUp anchor above >>= fun _ => ensureDir ⟨anchor, (name :: above).reverse⟩) d :=
      (ensureUp_grows ht habove).bind fun _ d' hd' _ =>
        ensureDir_grows (hd'.tree.linkFree ht) (hd'.here ▸ hown)
    refine Keeps.of_step ?_
    unfold ensureUp
    simp only
    split
    · rename_i d' hmake
      exact Disk.makeDir_grows ht hmake hown
    · exact htwice.1
    · exact settleFor_keeps.1

theorem ensureDirs_grows (ht : d.tree.LinkFree) (hdirs : p.placesUp d.here ⊆ dirs) :
    Keeps (Disk.Grows dirs files) (ensureDirs p) d :=
  ensureUp_grows ht (by rwa [List.reverse_reverse])

theorem writeInPlace_grows (ht : d.tree.LinkFree) (hp : p.place d.here ∈ files) :
    Keeps (Disk.Grows dirs files) (writeInPlace p bytes) d := by
  refine Keeps.of_step ?_
  unfold writeInPlace
  split
  · rename_i d' _ hwrite
    exact (Disk.writeFile_grows ht hwrite hp).1
  · exact refl_of _ d
  · exact refl_of _ d

theorem write_grows (ht : d.tree.LinkFree) (hp : p.place d.here ∈ files) :
    Keeps (Disk.Grows dirs files) (write p bytes) d :=
  change_keeps fun _ h => (Disk.writeFile_grows ht h hp).1

theorem copy_grows (ht : d.tree.LinkFree) (hp : target.place d.here ∈ files) :
    Keeps (Disk.Grows dirs files) (copy source target) d := by
  unfold copy
  split_ifs
  · exact .throw _
  · refine Leads.get.bind fun _ d₁ h₁ _ => ?_
    split_ifs
    · exact .throw _
    · refine ask_leads.bind fun bytes d₂ h₂ _ => ?_
      have h : d.Grows dirs files d₂ := trans_of _ h₁ h₂
      exact writeInPlace_grows (h.tree.linkFree ht) (h.here ▸ hp)

end DiskWork

end SetupScript
