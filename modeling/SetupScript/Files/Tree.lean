import SetupScript.Files.Path

/-!
# File trees

A file tree lists its entries by their place, each place once and in order, so that two trees
with the same entries are equal. The root is a directory that is not listed. `get?_put` says that
`put` changes one place only.
-/

namespace SetupScript

inductive Entry where
  | file (bytes : ByteArray)
  | dir
  | link (target : String)
deriving BEq

namespace Entry

def isFile : Entry → Bool
  | .file _ => true
  | _ => false

def isDir : Entry → Bool
  | .dir => true
  | _ => false

theorem isFile_iff {e : Entry} : e.isFile = true ↔ ∃ bytes, e = .file bytes := by
  cases e <;> simp [isFile]

theorem isDir_iff {e : Entry} : e.isDir = true ↔ e = .dir := by
  cases e <;> simp [isDir]

end Entry

abbrev Listing := List (Location × Entry)

namespace Listing

def Ordered (es : Listing) : Prop := es.Pairwise fun a b => a.1 < b.1

def get? (es : Listing) (place : Location) : Option Entry :=
  (es.find? fun x => x.1 == place).map (·.2)

def insert (place : Location) (e : Entry) : Listing → Listing
  | [] => [(place, e)]
  | x :: xs =>
    if place < x.1 then (place, e) :: x :: xs
    else if x.1 < place then x :: insert place e xs
    else (place, e) :: xs

variable {place other : Location} {e : Entry} {es fs : Listing}

theorem place_eq_of_not_lt (h : ¬ place < other) (h' : ¬ other < place) : place = other :=
  List.le_antisymm (List.not_lt.1 h') (List.not_lt.1 h)

theorem mem_insert {y : Location × Entry} :
    ∀ {es : Listing}, y ∈ insert place e es → y = (place, e) ∨ y ∈ es
  | [], h => by simp [insert] at h; exact Or.inl h
  | x :: xs, h => by
    unfold insert at h
    split at h
    · simpa using h
    · split at h
      · rcases List.mem_cons.1 h with rfl | h
        · simp
        · rcases mem_insert h with h | h <;> simp [h]
      · rcases List.mem_cons.1 h with rfl | h <;> simp [*]

theorem ordered_insert : ∀ {es : Listing}, Ordered es → Ordered (insert place e es)
  | [], _ => List.pairwise_singleton _ _
  | x :: xs, h => by
    obtain ⟨hx, hs⟩ := List.pairwise_cons.1 h
    unfold insert
    split
    · rename_i hlt
      refine List.pairwise_cons.2 ⟨fun y hy => ?_, h⟩
      rcases List.mem_cons.1 hy with rfl | hy
      · exact hlt
      · exact List.lt_trans hlt (hx y hy)
    · split
      · rename_i hlt
        refine List.pairwise_cons.2 ⟨fun y hy => ?_, ordered_insert hs⟩
        rcases mem_insert hy with rfl | hy
        · exact hlt
        · exact hx y hy
      · rename_i h1 h2
        have heq : place = x.1 := place_eq_of_not_lt h1 h2
        exact List.pairwise_cons.2 ⟨fun y hy => by simpa [heq] using hx y hy, hs⟩

theorem get?_cons (x : Location × Entry) :
    get? (x :: es) other = if other = x.1 then some x.2 else get? es other := by
  by_cases h : other = x.1
  · simp [get?, h]
  · simp [get?, beq_eq_false_iff_ne.2 (Ne.symm h), h]

theorem get?_insert (es : Listing) :
    get? (insert place e es) other = if other = place then some e else get? es other := by
  induction es with
  | nil => simp only [insert, get?_cons]
  | cons x xs ih =>
    unfold insert
    split
    · rw [get?_cons]
    · split
      · rename_i _ hlt
        rw [get?_cons, get?_cons, ih]
        by_cases hx : other = x.1
        · have : other ≠ place :=
            fun h => List.lt_irrefl place (by rw [← hx, h] at hlt; exact hlt)
          rw [if_pos hx, if_neg this, if_pos hx]
        · simp [hx]
      · rename_i h1 h2
        have heq : place = x.1 := place_eq_of_not_lt h1 h2
        rw [get?_cons, get?_cons, ← heq]
        by_cases h : other = place <;> simp [h]

end Listing

structure FileTree where
  entries : Listing
  ordered : entries.Ordered

namespace FileTree

def empty : FileTree := ⟨[], List.Pairwise.nil⟩

instance : Inhabited FileTree := ⟨empty⟩

def get? (t : FileTree) (place : Location) : Option Entry :=
  if place = [] then some .dir else t.entries.get? place

/-- The root stays what it is. -/
def put (t : FileTree) (place : Location) (e : Entry) : FileTree :=
  if place = [] then t else ⟨t.entries.insert place e, Listing.ordered_insert t.ordered⟩

/-- Removes a place with all places below it. -/
def remove (t : FileTree) (place : Location) : FileTree :=
  ⟨t.entries.filter fun x => !(place.isPrefixOf x.1), t.ordered.filter _⟩

/-- The names of the entries directly inside a place. -/
def children (t : FileTree) (place : Location) : List String :=
  t.entries.filterMap fun x => if x.1.dropLast = place then x.1.getLast? else none

@[simp]
theorem get?_root (t : FileTree) : t.get? [] = some .dir := rfl

theorem get?_put (t : FileTree) {place other : Location} {e : Entry} (h : place ≠ []) :
    (t.put place e).get? other = if other = place then some e else t.get? other := by
  unfold put get?
  rw [if_neg h]
  by_cases ho : other = []
  · simp [ho, Ne.symm h]
  · simp only [ho, if_false]
    exact Listing.get?_insert _

end FileTree

end SetupScript
