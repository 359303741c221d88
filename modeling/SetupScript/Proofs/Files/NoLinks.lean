import Mathlib.Data.Set.Basic
import SetupScript.Files.Disk
import SetupScript.Proofs.Outcome
import SetupScript.Proofs.Text.Pieces

/-!
# Trees without links

Where no entry is a symbolic link, the names of a path alone decide where it leads: `Path.place` is
that place, and `Disk.find` finds it (`find_ok`). A plain name at the end of a path is the last name
of the place too.
-/

namespace SetupScript

/-- A name that is looked up, rather than skipped or taken back. -/
def IsPlain (name : String) : Prop := name ≠ "" ∧ name ≠ "." ∧ name ≠ ".."

instance (name : String) : Decidable (IsPlain name) := inferInstanceAs (Decidable (_ ∧ _))

namespace Path

variable {here : Location} {p : Path}

/-- Where a path leads when there are no links on the way. -/
def place (here : Location) (p : Path) : Location :=
  withoutDots (if p.isRelative then here else []) p.parts

theorem withoutDots_append : ∀ (before : Location) (ps qs : List String),
    withoutDots before (ps ++ qs) = withoutDots (withoutDots before ps) qs
  | _, [], _ => rfl
  | before, p :: ps, qs => by
    simp only [List.cons_append, withoutDots]
    split_ifs
    · exact withoutDots_append before.dropLast ps qs
    · exact withoutDots_append before ps qs
    · exact withoutDots_append (before ++ [p]) ps qs

theorem withoutDots_of_isPlain : ∀ {names : List String} (before : Location),
    (∀ name ∈ names, IsPlain name) → withoutDots before names = before ++ names
  | [], before, _ => (List.append_nil before).symm
  | name :: names, before, h => by
    obtain ⟨hempty, hdot, hdots⟩ := h name List.mem_cons_self
    have ih := withoutDots_of_isPlain (before ++ [name]) fun n hn => h n (List.mem_cons_of_mem _ hn)
    simp [withoutDots, hempty, hdot, hdots, ih]

theorem place_descend {names : List String} (h : ∀ name ∈ names, IsPlain name) :
    (p.descend names).place here = p.place here ++ names := by
  rw [place, descend, withoutDots_append, withoutDots_of_isPlain _ h]
  rfl

theorem absolute_of_not_isRelative (h : p.isRelative = false) : p.absolute here = p := by
  simp [absolute, h]

@[simp]
theorem isRelative_descend (names : List String) : (p.descend names).isRelative = p.isRelative :=
  rfl

theorem absolute_descend (h : p.isRelative = false) (names : List String) :
    (p.descend names).absolute here = p.descend names :=
  absolute_of_not_isRelative h

theorem descend_absolute (names : List String) :
    (p.descend names).absolute here = (p.absolute here).descend names := by
  unfold absolute
  rw [isRelative_descend]
  split_ifs
  · rw [descend, descend, List.append_assoc]
  · rfl

theorem isRelative_absolute : (p.absolute here).isRelative = false := by
  unfold absolute
  cases h : p.isRelative with
  | true => rfl
  | false => exact h

theorem parse_eq {s : String} (hs : IsPlain s) (hslash : '/' ∉ s.toList) :
    parse s = ⟨.relative, [s]⟩ := by
  have hfree : ∀ c ∈ s.toList, (c == '/') = false := Text.beq_eq_false_of_notMem hslash
  have hanchor : anchorOf s.toList = .relative := by
    unfold anchorOf
    cases hl : s.toList with
    | nil => rfl
    | cons c cs =>
      have hc : (c == '/') = false := hfree c (hl ▸ List.mem_cons_self)
      rw [List.takeWhile_cons_of_neg (by simp [hc])]
      rfl
  have hpieces : slashPieces s = [s] := by
    rw [slashPieces, Text.splitAll_eq_singleton hfree, List.map_singleton, String.ofList_toList]
  rw [parse, hanchor, hpieces]
  simp [hs.1, hs.2.1]

/-- A name without slashes is looked up in the path itself. -/
theorem child_eq {s : String} (hs : IsPlain s) (hslash : '/' ∉ s.toList) :
    p.child s = p.descend [s] := by
  rw [child, parse_eq hs hslash]
  rfl

theorem getLast?_place_descend {name : String} (h : IsPlain name) :
    ((p.descend [name]).place here).getLast? = some name := by
  rw [place_descend (List.forall_mem_singleton.2 h), List.getLast?_concat]

/-- The places of a path and of those above it, as it is written. -/
def placesUp (here : Location) (p : Path) : Set Location :=
  {l | ∃ ps, ps <+: p.parts ∧ l = place here ⟨p.anchor, ps⟩}

theorem place_mem_placesUp : p.place here ∈ p.placesUp here := ⟨p.parts, List.prefix_rfl, rfl⟩

theorem placesUp_mono {anchor : Anchor} {ps qs : List String} (h : ps <+: qs) :
    placesUp here ⟨anchor, ps⟩ ⊆ placesUp here ⟨anchor, qs⟩ := by
  rintro _ ⟨rs, hrs, rfl⟩
  exact ⟨rs, hrs.trans h, rfl⟩

theorem placesUp_subset_descend (names : List String) :
    p.placesUp here ⊆ (p.descend names).placesUp here :=
  placesUp_mono (List.prefix_append p.parts names)

end Path

namespace FileTree

def LinkFree (t : FileTree) : Prop := ∀ place target, t.get? place ≠ some (.link target)

theorem linkFree_empty : empty.LinkFree := by
  intro place target h
  unfold get? at h
  split_ifs at h
  · simp at h
  · simp [empty, Listing.get?] at h

variable {t : FileTree} {last : Last}
  {onLink : Location → String → List String → Except FaultCode Spot}

/-- A walk ends at the place that the names alone lead to. What it takes for a directory need not
be listed as one: that is where it started or what a double dot led back to. -/
theorem advance_ok (ht : t.LinkFree) : ∀ {names : List String} {here place : Location}
    {e : Option Entry}, t.advance last onLink here names = .ok (place, e) →
      place = Path.withoutDots here names ∧ (e = some .dir ∨ e = t.get? place)
  | [], here, place, e, h => by
    simp only [advance, Except.ok.injEq, Prod.mk.injEq] at h
    exact ⟨h.1.symm, .inl h.2.symm⟩
  | name :: rest, here, place, e, h => by
    rw [advance] at h
    rw [Path.withoutDots]
    by_cases hskip : (name == "" || name == ".") = true
    · have hne : ¬ (name == "..") = true := by
        rcases Bool.or_eq_true _ _ ▸ hskip with hn | hn <;> rw [beq_iff_eq.1 hn] <;> decide
      rw [if_pos hskip] at h
      rw [if_neg hne, if_pos hskip]
      exact advance_ok ht h
    · rw [if_neg hskip] at h
      by_cases hback : (name == "..") = true
      · rw [if_pos hback] at h
        rw [if_pos hback]
        exact advance_ok ht h
      · rw [if_neg hback] at h
        rw [if_neg hback, if_neg hskip]
        by_cases hlong : nameLimit < Text.nameSize name
        · rw [if_pos hlong] at h
          contradiction
        · rw [if_neg hlong] at h
          simp only at h
          cases hget : t.get? (here ++ [name]) with
          | none =>
            rw [hget, ite_error_eq_ok, List.isEmpty_iff, Prod.mk.injEq] at h
            obtain ⟨rfl, rfl, rfl⟩ := h
            exact ⟨rfl, .inr hget.symm⟩
          | some f =>
            rw [hget] at h
            cases f with
            | dir => exact advance_ok ht h
            | file bytes =>
              rw [ite_error_eq_ok, List.isEmpty_iff, Prod.mk.injEq] at h
              obtain ⟨rfl, rfl, rfl⟩ := h
              exact ⟨rfl, .inr hget.symm⟩
            | link target => exact absurd hget (ht _ target)

end FileTree

namespace Disk

variable {d : Disk} {last : Last} {p : Path} {place : Location} {e : Option Entry}

theorem find_ok (ht : d.tree.LinkFree) (h : d.find last p = .ok (place, e)) :
    place = p.place d.here ∧ (e = some .dir ∨ e = d.tree.get? place) := by
  unfold find at h
  split_ifs at h
  split at h
  · rename_i spot hwalk
    obtain rfl := Except.ok.inj h
    exact FileTree.advance_ok ht hwalk
  · contradiction

end Disk

end SetupScript
