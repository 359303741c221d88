import SetupScript.Files.Disk

/-!
# When a question has no answer

A path that leads nowhere answers a question about a file: there is none. Only a name or a path that
is too long leaves it open (`leadsTo_eq_error`). Reading fails for any fault on the way, and for a
path that the system cannot be asked about (`read_eq_error`).
-/

namespace SetupScript

namespace FileTree

/-- What can stop a walk that is not to make a file. -/
def walkCodes : List FaultCode := [.absent, .notDirectory, .nameTooLong, .linkLoop]

variable {t : FileTree} {last : Last} {code : FaultCode}

theorem advance_error {onLink : Location → String → List String → Except FaultCode Spot}
    (hlink : ∀ {here target rest code}, onLink here target rest = .error code → code ∈ walkCodes) :
    ∀ {names : List String} {here : Location},
      t.advance last onLink here names = .error code → code ∈ walkCodes
  | [], _, h => by simp [advance] at h
  | name :: rest, here, h => by
    rw [advance] at h
    split at h
    · exact advance_error hlink h
    · split at h
      · exact advance_error hlink h
      · split at h
        · obtain rfl := Except.error.inj h
          decide
        · simp only at h
          split at h
          · split at h
            · contradiction
            · obtain rfl := Except.error.inj h
              decide
          · exact advance_error hlink h
          · split at h
            · contradiction
            · obtain rfl := Except.error.inj h
              decide
          · split at h
            · contradiction
            · exact hlink h

theorem walk_error (hlast : last ≠ .make) : ∀ {links : Nat} {start : Location}
    {names : List String} {code : FaultCode},
      t.walk links last start names = .error code → code ∈ walkCodes
  | 0, _, _, _, h => by
    refine advance_error (fun h' => ?_) h
    obtain rfl := Except.error.inj h'
    decide
  | links + 1, _, _, _, h => by
    refine advance_error (fun h' => ?_) h
    simp only [beq_eq_false_iff_ne.2 hlast, Bool.false_and, Bool.false_eq_true, if_false] at h'
    exact walk_error hlast h'

end FileTree

namespace Disk

variable {d : Disk} {p : Path} {e : DiskError} {kind : Entry → Bool}

theorem find_error {last : Last} (hlast : last ≠ .make) (h : d.find last p = .error e) :
    p.isNameable = false ∧ e = .unnameable ∨
      ∃ code ∈ FileTree.walkCodes, e = .fault ⟨code, p.text⟩ := by
  unfold find at h
  split at h
  · rename_i hname
    exact .inl ⟨by simpa using hname, (Except.error.inj h).symm⟩
  · right
    split at h
    · exact ⟨.nameTooLong, by decide, (Except.error.inj h).symm⟩
    · split at h
      · contradiction
      · rename_i code hwalk
        exact ⟨code, FileTree.walk_error hlast hwalk, (Except.error.inj h).symm⟩

theorem entry_error (h : d.entry p = .error e) :
    p.isNameable = false ∧ e = .unnameable ∨
      ∃ code ∈ FileTree.walkCodes, e = .fault ⟨code, p.text⟩ := by
  unfold entry at h
  split at h
  · rename_i hfind
    obtain rfl := Except.error.inj h
    exact find_error (by decide) hfind
  · exact .inr ⟨.absent, by decide, (Except.error.inj h).symm⟩
  · contradiction

/-- A path that is too long, or that has a name in it that is, leaves the question open. -/
theorem lookup?_eq_error (h : d.lookup? p = .error e) : e = .fault ⟨.nameTooLong, p.text⟩ := by
  unfold lookup? at h
  split at h
  · contradiction
  · rename_i e' hentry
    by_cases hnothing : e'.meansNothingThere = true
    · simp [hnothing] at h
    · simp only [hnothing, Bool.false_eq_true, if_false, Except.error.injEq] at h
      rw [← h]
      rcases entry_error hentry with ⟨-, rfl⟩ | ⟨code, hcode, rfl⟩
      · exact absurd rfl hnothing
      · simp only [FileTree.walkCodes, List.mem_cons, List.not_mem_nil, or_false] at hcode
        rcases hcode with rfl | rfl | rfl | rfl
        · exact absurd rfl hnothing
        · exact absurd rfl hnothing
        · rfl
        · exact absurd rfl hnothing

theorem lookup?_of_leadsTo_error (h : d.leadsTo kind p = .error e) : d.lookup? p = .error e := by
  cases hentry : d.lookup? p with
  | error e' =>
    rw [leadsTo, hentry] at h
    rw [Except.error.inj h]
  | ok found =>
    rw [leadsTo, hentry] at h
    contradiction

theorem lookup?_of_leadsTo {isKind : Bool} (h : d.leadsTo kind p = .ok isKind) :
    ∃ found, d.lookup? p = .ok found ∧ found.any kind = isKind := by
  cases hentry : d.lookup? p with
  | error e =>
    rw [leadsTo, hentry] at h
    contradiction
  | ok found =>
    rw [leadsTo, hentry] at h
    exact ⟨found, rfl, Except.ok.inj h⟩

theorem leadsTo_eq_true : d.leadsTo kind p = .ok true ↔
    ∃ place found, d.entry p = .ok (place, found) ∧ kind found = true := by
  constructor
  · intro h
    obtain ⟨found, hfound, hkind⟩ := lookup?_of_leadsTo h
    unfold lookup? at hfound
    split at hfound
    · rename_i place there hentry
      obtain rfl := Except.ok.inj hfound
      exact ⟨place, there, hentry, hkind⟩
    · split at hfound
      · obtain rfl := Except.ok.inj hfound
        contradiction
      · contradiction
  · rintro ⟨place, found, hentry, hkind⟩
    rw [leadsTo, lookup?, hentry]
    exact congrArg Except.ok hkind

theorem leadsTo_eq_error (h : d.leadsTo kind p = .error e) :
    e = .fault ⟨.nameTooLong, p.text⟩ :=
  lookup?_eq_error (lookup?_of_leadsTo_error h)

theorem read_eq_error (h : d.read p = .error e) :
    p.isNameable = false ∧ e = .unnameable ∨ ∃ code, e = .fault ⟨code, p.text⟩ := by
  unfold read at h
  split at h
  · contradiction
  · exact .inr ⟨_, (Except.error.inj h).symm⟩
  · rename_i hentry
    obtain rfl := Except.error.inj h
    exact (entry_error hentry).imp_right fun ⟨code, _, he⟩ => ⟨code, he⟩

theorem lookup?_of_not_isNameable (h : p.isNameable = false) : d.lookup? p = .ok none := by
  simp [lookup?, entry, find, h, DiskError.meansNothingThere]

theorem leadsTo_of_not_isNameable (h : p.isNameable = false) : d.leadsTo kind p = .ok false := by
  rw [leadsTo, lookup?_of_not_isNameable h]
  rfl

theorem isNameable_of_leadsTo (h : d.leadsTo kind p = .ok true) : p.isNameable = true := by
  rw [← Bool.not_eq_false]
  intro hname
  rw [leadsTo_of_not_isNameable hname] at h
  exact Bool.false_ne_true (Except.ok.inj h)

theorem read_of_not_isNameable (h : p.isNameable = false) : d.read p = .error .unnameable := by
  simp [read, entry, find, h]

end Disk

end SetupScript
