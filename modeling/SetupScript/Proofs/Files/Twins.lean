import SetupScript.Proofs.Files.Walks
import SetupScript.Proofs.SideBySide

/-!
# Twin trees

Two trees are twins when they list entries of the same kinds at the same places, whatever the bytes
of their files are, but for places of `out`, at which either has a file or nothing. Walks in them
end alike unless their way passes such a place (`Walks.twins`), and then neither goes round in
circles.
-/

namespace SetupScript

/-- The same entry, up to the bytes of a file. -/
inductive SameKind : Option Entry → Option Entry → Prop
  | same (e : Option Entry) : SameKind e e
  | files (bytes bytes' : ByteArray) : SameKind (some (.file bytes)) (some (.file bytes'))

def SameSpot (s s' : Spot) : Prop := s.1 = s'.1 ∧ SameKind s.2 s'.2

section SameKind

variable {e e' f : Option Entry}

theorem SameKind.symm (h : SameKind e e') : SameKind e' e := by
  cases h with
  | same => exact .same e
  | files bytes bytes' => exact .files bytes' bytes

theorem SameKind.trans (h : SameKind e e') (h' : SameKind e' f) : SameKind e f := by
  cases h with
  | same => exact h'
  | files bytes bytes' =>
    cases h' with
    | same => exact .files bytes bytes'
    | files _ bytes'' => exact .files bytes bytes''

theorem SameKind.isBare (h : SameKind e e') (he : IsBare e) : IsBare e' := by
  cases h with
  | same => exact he
  | files _ bytes' => exact .file bytes'

theorem SameKind.eq_link {target : String} (h : SameKind (some (.link target)) e) :
    e = some (.link target) := by
  cases h
  rfl

theorem SameKind.blockedBy_eq (h : SameKind e e') : blockedBy e = blockedBy e' := by
  cases h <;> rfl

end SameKind

/-- How two walks along a way end: in the same way, or the way passes a place of `out` and neither
walk goes round in circles. -/
def SameEnd (out : Set Location) (w : Way) (r r' : Except FaultCode Spot) : Prop :=
  Matched SameSpot r r' ∨
    (∃ place ∈ w.passed, place ∈ out) ∧ r ≠ .error .linkLoop ∧ r' ≠ .error .linkLoop

section SameEnd

variable {out : Set Location} {w w' : Way} {r r' : Except FaultCode Spot}

theorem SameEnd.mono (h : SameEnd out w r r') (hw : w.passed ⊆ w'.passed) :
    SameEnd out w' r r' :=
  h.imp_right fun ⟨⟨place, hplace, hout⟩, hr⟩ => ⟨⟨place, hw hplace, hout⟩, hr⟩

theorem SameEnd.over (h : SameEnd out w r r') (before : Location) :
    SameEnd out (w.over before) r r' :=
  h.mono (List.subset_cons_self before w.passed)

theorem SameEnd.refuse (h : SameEnd out w r r') : SameEnd out w (refused r) (refused r') := by
  rcases h with h | ⟨hout, hr, hr'⟩
  · cases h with
    | ok => exact .inl (.error FaultCode.isDirectory)
    | error code => exact .inl (.error code)
  · have hne : ∀ {r : Except FaultCode Spot}, r ≠ .error .linkLoop →
        refused r ≠ .error .linkLoop := by
      intro r hr
      cases r with
      | ok => nofun
      | error code => exact hr
    exact .inr ⟨hout, hne hr, hne hr'⟩

end SameEnd

namespace FileTree

structure Twins (out : Set Location) (t t' : FileTree) : Prop where
  kinds : ∀ place, place ∉ out → SameKind (t.get? place) (t'.get? place)
  bare : ∀ place ∈ out, IsBare (t.get? place) ∧ IsBare (t'.get? place)

variable {out : Set Location} {t t' : FileTree} {place : Location}

theorem Twins.symm (h : Twins out t t') : Twins out t' t :=
  ⟨fun place hplace => (h.kinds place hplace).symm, fun place hplace => (h.bare place hplace).symm⟩

theorem Twins.get?_eq (h : Twins out t t') (he : ¬ IsBare (t.get? place)) :
    t'.get? place = t.get? place := by
  have hkind := h.kinds place fun hout => he (h.bare place hout).1
  generalize t.get? place = e, t'.get? place = e' at he hkind
  cases hkind with
  | same => rfl
  | files bytes => exact absurd (.file bytes) he

theorem Twins.dir_eq (h : Twins out t t') (hdir : t.get? place = some .dir) :
    t'.get? place = some .dir := by
  rw [h.get?_eq (by rw [hdir]; nofun), hdir]

theorem Twins.link_eq (h : Twins out t t') {target : String}
    (hlink : t.get? place = some (.link target)) : t'.get? place = some (.link target) := by
  rw [h.get?_eq (by rw [hlink]; nofun), hlink]

theorem Twins.links_eq (h : Twins out t t') : t.links = t'.links := by
  funext place
  by_cases hout : place ∈ out
  · rw [links_of_bare (h.bare place hout).1, links_of_bare (h.bare place hout).2]
  · have hkind := h.kinds place hout
    unfold links
    generalize t.get? place = e, t'.get? place = e' at hkind
    cases hkind <;> rfl

theorem Walks.twins (ht : Twins out t t') {last : Last} {n : Nat} {here : Location}
    {names : List String} {r : Except FaultCode Spot} (h : Walks t last n here names r) :
    SameEnd out (t.links.way n here names) r (t'.walk n last here names) := by
  induction h with
  | done =>
    rw [Walks.done.eq]
    exact .inl (.ok ⟨rfl, .same _⟩)
  | skip hname _ ih =>
    rw [(Walks.skip hname (walk_walks t' ..)).eq, Links.way_skip hname]
    exact ih
  | back _ ih =>
    rw [(Walks.back (walk_walks t' ..)).eq, Links.way_back]
    exact ih
  | tooLong hname hlong =>
    rw [(Walks.tooLong hname hlong).eq]
    exact .inl (.error _)
  | @arrive _ _ here name e hname hshort he hbare =>
    by_cases hout : here ++ [name] ∈ out
    · rw [(Walks.arrive hname hshort rfl (ht.bare _ hout).2).eq]
      exact .inr ⟨⟨_, Links.mem_passed_way hname, hout⟩, nofun, nofun⟩
    · have hkind := he ▸ ht.kinds _ hout
      rw [(Walks.arrive hname hshort rfl (hkind.isBare hbare)).eq]
      exact .inl (.ok ⟨rfl, hkind⟩)
  | @blocked _ _ here name rest e hname hshort hrest he hbare =>
    by_cases hout : here ++ [name] ∈ out
    · rw [(Walks.blocked hname hshort hrest rfl (ht.bare _ hout).2).eq]
      have hcode : ∀ e, (.error (blockedBy e) : Except FaultCode Spot) ≠ .error .linkLoop := by
        intro e
        cases e <;> nofun
      exact .inr ⟨⟨_, Links.mem_passed_way hname, hout⟩, hcode _, hcode _⟩
    · have hkind := he ▸ ht.kinds _ hout
      rw [(Walks.blocked hname hshort hrest rfl (hkind.isBare hbare)).eq, hkind.blockedBy_eq]
      exact .inl (.error _)
  | enter hname hshort hdir _ ih =>
    rw [(Walks.enter hname hshort (ht.dir_eq hdir) (walk_walks t' ..)).eq,
      Links.way_enter hname (links_of_dir hdir)]
    exact ih.over _
  | stay hname hshort hlink =>
    rw [(Walks.stay hname hshort (ht.link_eq hlink)).eq]
    exact .inl (.ok ⟨rfl, .same _⟩)
  | loop hname hshort hlink hgo =>
    rw [(Walks.loop hname hshort (ht.link_eq hlink) hgo).eq]
    exact .inl (.error _)
  | follow hname hshort hlink hgo htarget _ ih =>
    rw [(Walks.follow hname hshort (ht.link_eq hlink) hgo htarget (walk_walks t' ..)).eq,
      Links.way_follow hname (links_of_link hlink)]
    exact ih.over _
  | @refuse _ _ _ _ rest target _ hname hshort hlink hgo htarget _ ih =>
    rw [(Walks.refuse hname hshort (ht.link_eq hlink) hgo htarget (walk_walks t' ..)).eq,
      Links.way_follow hname (links_of_link hlink)]
    have hpieces : trimmedPieces target <+: slashPieces target ++ rest :=
      (Text.trimRight_isPrefix _).trans (List.prefix_append _ rest)
    exact (ih.refuse.mono (Links.way_prefix hpieces)).over _

/-! ## Listings -/

theorem lt_of_concat_lt : ∀ {place : Location} {m n : String}, place ++ [m] < place ++ [n] → m < n
  | [], m, n, h => by simpa [List.cons_lt_cons_iff] using h
  | p :: place, m, n, h => by
    rw [List.cons_append, List.cons_append, List.cons_lt_cons_iff] at h
    rcases h with h | ⟨-, h⟩
    · exact absurd h (String.lt_irrefl p)
    · exact lt_of_concat_lt h

theorem child_eq_some {x : Location × Entry} {name : String} :
    (if x.1.dropLast = place then x.1.getLast? else none) = some name ↔ x.1 = place ++ [name] := by
  constructor
  · intro h
    split_ifs at h with hx
    rw [← List.dropLast_append_getLast? name h, hx]
  · intro h
    rw [h, List.dropLast_concat, if_pos rfl, List.getLast?_concat]

theorem mem_children {name : String} :
    name ∈ t.children place ↔ t.get? (place ++ [name]) ≠ none := by
  simp only [children, List.mem_filterMap, child_eq_some]
  constructor
  · rintro ⟨⟨_, e⟩, hmem, rfl⟩
    intro hnone
    rw [get?, if_neg (by simp), Listing.get?, Option.map_eq_none_iff, List.find?_eq_none] at hnone
    exact hnone _ hmem (beq_self_eq_true _)
  · intro h
    obtain ⟨e, he⟩ := Option.ne_none_iff_exists'.1 h
    exact ⟨_, mem_of_get? (by simp) he, rfl⟩

theorem children_pairwise (t : FileTree) (place : Location) :
    (t.children place).Pairwise (· < ·) := by
  rw [children, List.pairwise_filterMap]
  refine t.ordered.imp fun h m hm n hn => ?_
  rw [child_eq_some.1 hm, child_eq_some.1 hn] at h
  exact lt_of_concat_lt h

/-- A directory lists the same where entries come and go in pairs. -/
theorem children_congr
    (h : ∀ name, t.get? (place ++ [name]) = none ↔ t'.get? (place ++ [name]) = none) :
    t.children place = t'.children place := by
  have hnodup : ∀ t : FileTree, (t.children place).Nodup :=
    fun t => (children_pairwise t place).imp fun h => String.ne_of_lt h
  refine List.Perm.eq_of_pairwise (fun _ _ _ _ h h' => absurd h' (String.lt_asymm h))
    (children_pairwise t place) (children_pairwise t' place) ?_
  rw [List.perm_ext_iff_of_nodup (hnodup t) (hnodup t')]
  intro name
  rw [mem_children, mem_children]
  exact not_congr (h name)

theorem Twins.children_eq (h : Twins out t t') (hplace : ∀ other ∈ out, other.dropLast ≠ place) :
    t.children place = t'.children place := by
  refine children_congr fun name => ?_
  have hkind := h.kinds (place ++ [name]) fun hout => hplace _ hout List.dropLast_concat
  generalize t.get? (place ++ [name]) = e, t'.get? (place ++ [name]) = e' at hkind
  cases hkind with
  | same => rfl
  | files => simp

/-! ## Changes -/

theorem links_put {e : Entry} (hplace : t.links place = none) (he : ∀ target, e ≠ .link target) :
    (t.put place e).links = t.links := by
  funext other
  by_cases hroot : place = []
  · rw [put, if_pos hroot]
  · by_cases hother : other = place
    · rw [hother, hplace, links, get?_put t hroot, if_pos rfl]
      cases e with
      | link target => exact absurd rfl (he target)
      | file | dir => rfl
    · rw [links, links, get?_put t hroot, if_neg hother]

/-- Twins stay twins when both get an entry of one kind at a place outside of `out`. -/
theorem Twins.put (h : Twins out t t') (hplace : place ∉ out) {e e' : Entry}
    (he : SameKind (some e) (some e')) : Twins out (t.put place e) (t'.put place e') := by
  by_cases hroot : place = []
  · rwa [FileTree.put, FileTree.put, if_pos hroot, if_pos hroot]
  · refine ⟨fun other hother => ?_, fun other hother => ?_⟩
    · rw [get?_put t hroot, get?_put t' hroot]
      split_ifs
      · exact he
      · exact h.kinds other hother
    · have hne : other ≠ place := fun heq => hplace (heq ▸ hother)
      rw [get?_put t hroot, get?_put t' hroot, if_neg hne, if_neg hne]
      exact h.bare other hother

/-- A file may be rewritten on one side alone, wherever it is. -/
theorem Twins.rewrite (h : Twins out t t') {bytes new : ByteArray}
    (hfile : t.get? place = some (.file bytes)) : Twins out (t.put place (.file new)) t' := by
  have hroot : place ≠ [] := by
    rintro rfl
    simp at hfile
  refine ⟨fun other hother => ?_, fun other hother => ?_⟩
  · rw [get?_put t hroot]
    split_ifs with heq
    · rw [heq] at hother ⊢
      exact (SameKind.files new bytes).trans (hfile ▸ h.kinds place hother)
    · exact h.kinds other hother
  · rw [get?_put t hroot]
    split_ifs
    · exact ⟨.file new, (h.bare other hother).2⟩
    · exact h.bare other hother

end FileTree

end SetupScript
