import SetupScript.Proofs.Configuration.Resolved
import SetupScript.Proofs.Text.Language

/-!
# Well-formed ids and names

The patterns of `Names` match exactly the texts of the shapes that they stand for (`mem_uuid`,
`mem_fileName`). The checks of resolving leave out a line feed at the very end of a text, so an
accepted id or name has its shape exactly when it does not end in one.
-/

namespace SetupScript.Names

open Text Text.Pattern

def AreDigits (n : ℕ) (cs : List Char) : Prop := cs.length = n ∧ ∀ c ∈ cs, isHexDigit c = true

/-- Groups of 8, 4, 4, 4 and 12 hexadecimal digits with hyphens between them, and nothing else. -/
def HasIdShape (cs : List Char) : Prop :=
  ∃ a b c d e, AreDigits 8 a ∧ AreDigits 4 b ∧ AreDigits 4 c ∧ AreDigits 4 d ∧ AreDigits 12 e ∧
    cs = a ++ '-' :: (b ++ '-' :: (c ++ '-' :: (d ++ '-' :: e)))

/-- At least one character, none of them reserved, and neither a dot nor a space at the end. -/
def HasNameShape (cs : List Char) : Prop :=
  cs ≠ [] ∧ (∀ c ∈ cs, isReserved c = false) ∧ cs.getLast? ≠ some '.' ∧ cs.getLast? ≠ some ' '

theorem mem_language_char {c : Char} {cs : List Char} : cs ∈ (char c).language ↔ cs = [c] := by
  simp [char, mem_language_one]

theorem mem_hexDigits : ∀ {n : ℕ} {cs : List Char}, cs ∈ (hexDigits n).language ↔ AreDigits n cs
  | 0, cs => by
    cases cs <;> simp [hexDigits, inTurn, language, AreDigits]
  | n + 1, cs => by
    have hsucc : hexDigits (n + 1) = inOrder (one isHexDigit) (hexDigits n) := rfl
    rw [hsucc, language_inOrder]
    cases cs with
    | nil => simp [Language.mem_mul, mem_language_one, AreDigits]
    | cons c cs =>
      simp only [cons_mem_mul, mem_language_one, mem_hexDigits]
      simp [and_left_comm, AreDigits]

theorem mem_uuid {cs : List Char} : cs ∈ uuid.language ↔ HasIdShape cs := by
  simp only [uuid, language_inTurn, List.map_cons, List.map_nil, List.prod_cons, List.prod_nil,
    mul_one, Language.mem_mul, mem_language_char, mem_hexDigits, exists_eq_left,
    List.singleton_append]
  constructor
  · rintro ⟨a, ha, _, ⟨_, ⟨b, hb, _, ⟨_, ⟨c, hc, _, ⟨_, ⟨d, hd, _, ⟨e, he, rfl⟩, rfl⟩, rfl⟩, rfl⟩,
      rfl⟩, rfl⟩, rfl⟩, rfl⟩
    exact ⟨a, b, c, d, e, ha, hb, hc, hd, he, rfl⟩
  · rintro ⟨a, b, c, d, e, ha, hb, hc, hd, he, rfl⟩
    exact ⟨a, ha, _, ⟨_, ⟨b, hb, _, ⟨_, ⟨c, hc, _, ⟨_, ⟨d, hd, _, ⟨e, he, rfl⟩, rfl⟩, rfl⟩, rfl⟩,
      rfl⟩, rfl⟩, rfl⟩, rfl⟩

theorem HasIdShape.length {cs : List Char} (h : HasIdShape cs) : cs.length = 36 := by
  obtain ⟨a, b, c, d, e, ha, hb, hc, hd, he, rfl⟩ := h
  simp [ha.1, hb.1, hc.1, hd.1, he.1]

theorem HasIdShape.isHexDigit_or {cs : List Char} (h : HasIdShape cs) :
    ∀ x ∈ cs, isHexDigit x = true ∨ x = '-' := by
  obtain ⟨a, b, c, d, e, ha, hb, hc, hd, he, rfl⟩ := h
  intro x hx
  simp only [List.mem_append, List.mem_cons] at hx
  rcases hx with hx | rfl | hx | rfl | hx | rfl | hx | rfl | hx
  · exact .inl (ha.2 x hx)
  · exact .inr rfl
  · exact .inl (hb.2 x hx)
  · exact .inr rfl
  · exact .inl (hc.2 x hx)
  · exact .inr rfl
  · exact .inl (hd.2 x hx)
  · exact .inr rfl
  · exact .inl (he.2 x hx)

theorem mem_many_one {p : Char → Bool} : ∀ cs : List Char,
    cs ∈ (many (one p)).language ↔ ∀ c ∈ cs, p c = true
  | [] => iff_of_true (Language.nil_mem_kstar _) (by simp)
  | c :: cs => by
    have ih := mem_many_one (p := p) cs
    rw [language] at ih ⊢
    rw [cons_mem_kstar, List.forall_mem_cons, ← ih]
    simp [mem_language_one]

theorem mem_fileName {cs : List Char} : cs ∈ fileName.language ↔ HasNameShape cs := by
  rw [fileName, language_inOrder, Language.mem_mul]
  simp only [mem_many_one, mem_language_one]
  constructor
  · rintro ⟨u, hu, _, ⟨c, hc, rfl⟩, rfl⟩
    simp only [isNameEnd, Bool.and_eq_true, Bool.not_eq_true', bne_iff_ne] at hc
    refine ⟨by simp, ?_, by simp [hc.1.2], by simp [hc.2]⟩
    intro x hx
    rcases List.mem_append.1 hx with hx | hx
    · simpa using hu x hx
    · rw [List.mem_singleton.1 hx, hc.1.1]
  · rintro ⟨hne, hfree, hdot, hspace⟩
    obtain ⟨u, c, rfl⟩ := (List.eq_nil_or_concat' cs).resolve_left hne
    obtain ⟨hu, hc⟩ := List.forall_mem_append.1 hfree
    have hend : isNameEnd c = true := by
      simp_all [isNameEnd]
    exact ⟨u, fun x hx => by simp [hu x hx], [c], ⟨c, hend, rfl⟩, rfl⟩

theorem fillsLine_iff {p : Pattern} {cs : List Char} : fillsLine p cs = true ↔
    cs ∈ p.language ∨ ∃ ds ∈ p.language, cs = ds ++ ['\n'] := by
  rw [fillsLine, Bool.or_eq_true, accepts_iff, Bool.and_eq_true, accepts_iff, beq_iff_eq]
  refine or_congr_right ⟨?_, ?_⟩
  · rintro ⟨hlast, hinit⟩
    exact ⟨_, hinit, (List.dropLast_append_getLast? _ hlast).symm⟩
  · rintro ⟨ds, hds, rfl⟩
    simpa using hds

/-- The patterns match no control characters. -/
theorem notControl_of_mem_uuid : ∀ cs ∈ uuid.language, ∀ c ∈ cs, 0x20 ≤ c.toNat := by
  intro cs h c hc
  rcases (mem_uuid.1 h).isHexDigit_or c hc with hd | rfl
  · simp only [isHexDigit, Bool.or_eq_true, Bool.and_eq_true, decide_eq_true_eq, Char.le_def,
      UInt32.le_iff_toNat_le] at hd
    have hval : c.toNat = c.val.toNat := rfl
    have h0 : ('0' : Char).val.toNat = 48 := rfl
    have ha : ('a' : Char).val.toNat = 97 := rfl
    have hA : ('A' : Char).val.toNat = 65 := rfl
    omega
  · decide

theorem notControl_of_mem_fileName : ∀ cs ∈ fileName.language, ∀ c ∈ cs, 0x20 ≤ c.toNat := by
  intro cs h c hc
  have hfree := (mem_fileName.1 h).2.1 c hc
  simp only [isReserved, Bool.or_eq_false_iff, decide_eq_false_iff_not, not_lt] at hfree
  exact hfree.1

section Accepted

variable {p : Pattern} (hp : ∀ cs ∈ p.language, ∀ c ∈ cs, 0x20 ≤ c.toNat) {cs : List Char}
  (h : fillsLine p cs = true)

include hp h

/-- A text accepted by a pattern without control characters is of the pattern's language unless it
ends in a line feed, and then it is one up to there. -/
theorem fillsLine_split : (cs ∈ p.language ↔ cs.getLast? ≠ some '\n') ∧
    (cs.getLast? = some '\n' → cs.dropLast ∈ p.language) := by
  have hfeed : ∀ ds ∈ p.language, '\n' ∉ ds := fun ds hds hm => absurd (hp ds hds _ hm) (by decide)
  rcases fillsLine_iff.1 h with hcs | ⟨ds, hds, rfl⟩
  · have hlast : cs.getLast? ≠ some '\n' := fun e => hfeed cs hcs (List.mem_of_getLast? e)
    exact ⟨iff_of_true hcs hlast, fun e => absurd e hlast⟩
  · have hnot : ds ++ ['\n'] ∉ p.language := fun hm => hfeed _ hm (by simp)
    exact ⟨iff_of_false hnot (by simp), fun _ => by simpa using hds⟩

theorem notControl_of_fillsLine : (∀ c ∈ cs.dropLast, 0x20 ≤ c.toNat) ∧
    ∀ c ∈ cs, 0x20 ≤ c.toNat ∨ c = '\n' := by
  rcases fillsLine_iff.1 h with hcs | ⟨ds, hds, rfl⟩
  · exact ⟨fun c hc => hp cs hcs c (List.dropLast_subset cs hc), fun c hc => .inl (hp cs hcs c hc)⟩
  · refine ⟨fun c hc => hp ds hds c (by simpa using hc), fun c hc => ?_⟩
    rcases List.mem_append.1 hc with hc | hc
    · exact .inl (hp ds hds c hc)
    · exact .inr (List.mem_singleton.1 hc)

end Accepted

end SetupScript.Names

namespace SetupScript

open Names Text.Pattern

/-- The id of a configuration stands in its block, the name there or around it. -/
theorem resolve_id_name {d : Disk} {v : Value} {o : Overrides} {dir : Path} {c : Configuration}
    (h : resolve d v o dir = .ok c) : ∃ outer block, Resolve.blocksOf v = .ok (outer, block) ∧
      block.field "id" = .text c.id ∧
      (block.field "name" = .text c.name ∨
        block.field "name" = .null ∧ outer.field "name" = .text c.name) ∧
      acceptsId c.id = true ∧ acceptsName c.name = true := by
  obtain ⟨f, hfront, hfinish⟩ := Resolve.resolve_eq_ok.1 h
  obtain ⟨-, outer, -, -, hblocks, htexts, -⟩ := Resolve.front_eq_ok.1 hfront
  obtain ⟨hid, hdeclared, hname, -⟩ := Resolve.texts_eq_ok.1 htexts
  have hc := (Resolve.finish_eq_ok.1 hfinish).2.2.2.2.2.2
  have hcid : c.id = f.texts.id := congrArg Configuration.id hc
  have hcname : c.name = f.texts.name := congrArg Configuration.name hc
  obtain ⟨hfield, haccepted⟩ := Resolve.appId_eq_ok.1 hid
  obtain ⟨hplace, hshape⟩ := Resolve.displayName_eq_ok.1 hname
  have houter := (Resolve.declaredName_eq_ok.1 hdeclared).1
  rw [hcid, hcname]
  refine ⟨outer, f.block, hblocks, hfield, hplace.imp_right ?_, haccepted, hshape⟩
  rintro ⟨hnull, hd⟩
  exact ⟨hnull, hd ▸ houter⟩

/-- An id or a name that resolving accepts has its shape unless it ends in a line feed, which is
left out of the checks; every text of the shape passes. -/
theorem resolve_shapes (d : Disk) (v : Value) (o : Overrides) (dir : Path) :
    (∀ c, resolve d v o dir = .ok c →
      (HasIdShape c.id.toList ∧ c.id.toList.length = 36 ↔ c.id.toList.getLast? ≠ some '\n') ∧
      (HasNameShape c.name.toList ↔ c.name.toList.getLast? ≠ some '\n') ∧
      (c.id.toList.getLast? = some '\n' → HasIdShape c.id.toList.dropLast) ∧
      (c.name.toList.getLast? = some '\n' → HasNameShape c.name.toList.dropLast)) ∧
    (∀ block s, block.field "id" = .text s → HasIdShape s.toList → Resolve.appId block = .ok s) ∧
    ∀ block declared s, HasNameShape s.toList →
      (block.field "name" = .text s → Resolve.displayName block declared = .ok s) ∧
      (block.field "name" = .null → Resolve.displayName block s = .ok s) := by
  refine ⟨?_, ?_, ?_⟩
  · intro c h
    obtain ⟨-, -, -, -, -, hid, hname⟩ := resolve_id_name h
    have hidSplit := fillsLine_split notControl_of_mem_uuid hid
    have hnameSplit := fillsLine_split notControl_of_mem_fileName hname
    simp only [mem_uuid] at hidSplit
    simp only [mem_fileName] at hnameSplit
    exact ⟨(and_iff_left_of_imp HasIdShape.length).trans hidSplit.1, hnameSplit.1, hidSplit.2,
      hnameSplit.2⟩
  · intro block s hs hshape
    exact Resolve.appId_eq_ok.2 ⟨hs, fillsLine_iff.2 (.inl (mem_uuid.2 hshape))⟩
  · intro block declared s hshape
    have haccepted : acceptsName s = true := fillsLine_iff.2 (.inl (mem_fileName.2 hshape))
    exact ⟨fun hs => Resolve.displayName_eq_ok.2 ⟨.inl hs, haccepted⟩,
      fun hnull => Resolve.displayName_eq_ok.2 ⟨.inr ⟨hnull, rfl⟩, haccepted⟩⟩

def endedDescriptor : Value :=
  .map [(.text "name", .text "tool\n"), (.text "version", .text "1"),
    (.text "description", .text "d"), (.text "maintainer", .text "m"),
    (.text "inno_bundle", .map [(.text "id", .text "f887d5f0-4690-1e07-8efc-d16ea7711bfb\n")])]

theorem resolve_shapes_ended : ∃ c,
    resolve ⟨.empty, []⟩ endedDescriptor .default ⟨.root, []⟩ = .ok c ∧
      ¬ HasIdShape c.id.toList ∧ ¬ HasNameShape c.name.toList := by
  refine ⟨_, rfl, ?_, ?_⟩
  · intro h
    exact absurd h.length (by decide)
  · intro h
    exact absurd (h.2.1 '\n' (by decide)) (by decide)

end SetupScript
