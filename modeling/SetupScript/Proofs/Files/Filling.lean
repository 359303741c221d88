import SetupScript.Proofs.Files.Below

/-!
# Filling a disk up to another

What the upper one of two disks has can be made and written on the lower one, which then falls short
of the upper one by that much less (`DiskWork.ensureDirs_below`, `Disk.writeFile_below`,
`DiskWork.copy_below`). A disk that falls short of another by nothing is the same
(`Disk.Grows.eq`).
-/

namespace SetupScript

namespace Listing

variable {es fs : Listing} {place : Location} {e : Entry}

theorem get?_eq_some (h : es.Ordered) : es.get? place = some e ↔ (place, e) ∈ es := by
  induction es with
  | nil => simp [get?]
  | cons x xs ih =>
    obtain ⟨hx, hxs⟩ := List.pairwise_cons.1 h
    rw [get?_cons, List.mem_cons, ← ih hxs]
    by_cases hplace : place = x.1
    · have hnone : get? xs place ≠ some e := by
        rw [ne_eq, ih hxs]
        intro hm
        have hlt : x.1 < place := hx _ hm
        exact List.lt_irrefl place (hplace ▸ hlt)
      rw [if_pos hplace, or_iff_left hnone, Option.some.injEq, Prod.ext_iff]
      simp only [hplace, true_and]
      exact eq_comm
    · rw [if_neg hplace, or_iff_right]
      rintro rfl
      exact hplace rfl

/-- A listing is told by what is found in it. -/
theorem ext_get? (hes : es.Ordered) (hfs : fs.Ordered)
    (h : ∀ place, es.get? place = fs.get? place) : es = fs := by
  have hnodup : ∀ {es : Listing}, es.Ordered → es.Nodup := by
    intro es h
    refine h.imp ?_
    rintro x _ hlt rfl
    exact List.lt_irrefl _ hlt
  have hperm : es.Perm fs := by
    refine (List.perm_ext_iff_of_nodup (hnodup hes) (hnodup hfs)).2 fun x => ?_
    rw [← get?_eq_some hes, ← get?_eq_some hfs, h]
  exact hperm.eq_of_pairwise (fun _ _ _ _ hlt hgt => absurd hgt (List.lt_asymm hlt)) hes hfs

end Listing

namespace FileTree

variable {dirs files : Set Location} {t u : FileTree} {place : Location}

/-- What the listing of a tree holds for the root, where nobody looks for it. -/
def hidden (t : FileTree) : Option Entry := t.entries.get? []

theorem hidden_put (t : FileTree) (place : Location) (e : Entry) :
    (t.put place e).hidden = t.hidden := by
  unfold put
  split_ifs with hroot
  · rfl
  · exact (Listing.get?_insert t.entries).trans (if_neg (Ne.symm hroot))

/-- Trees that can differ nowhere are the same. -/
theorem Grows.eq (h : t.Grows ∅ ∅ u) (hhidden : t.hidden = u.hidden) : t = u := by
  have hget : ∀ place, t.get? place = u.get? place := by
    intro place
    have hplace := h place
    generalize t.get? place = e, u.get? place = f at hplace ⊢
    cases hplace with
    | same => rfl
    | made hin => exact absurd hin (Set.notMem_empty _)
    | written hin => exact absurd hin (Set.notMem_empty _)
    | rewritten hin => exact absurd hin (Set.notMem_empty _)
  have hentries : t.entries = u.entries := by
    refine Listing.ext_get? t.ordered u.ordered fun place => ?_
    by_cases hroot : place = []
    · rw [hroot]
      exact hhidden
    · have hplace := hget place
      rwa [get?, get?, if_neg hroot, if_neg hroot] at hplace
  cases t
  cases u
  congr

section Differences

variable (h : t.Grows dirs files u) {places : Set Location}
  (hsame : ∀ place ∈ places, t.get? place = u.get? place)

include h hsame

/-- What is the same already need not be changed any more. -/
theorem Grows.diff_dirs : t.Grows (dirs \ places) files u := by
  intro place
  by_cases hplace : place ∈ places
  · rw [hsame place hplace]
    exact .same _
  · exact (h place).mono (fun hin => ⟨hin, hplace⟩) id

theorem Grows.diff_files : t.Grows dirs (files \ places) u := by
  intro place
  by_cases hplace : place ∈ places
  · rw [hsame place hplace]
    exact .same _
  · exact (h place).mono id fun hin => ⟨hin, hplace⟩

end Differences

/-- To put what the grown tree has does not lead away from it. -/
theorem Grows.put (h : t.Grows dirs files u) {e : Entry} (he : u.get? place = some e) :
    (t.put place e).Grows dirs files u := by
  by_cases hroot : place = []
  · rwa [FileTree.put, if_pos hroot]
  · intro other
    rw [get?_put t hroot]
    split_ifs with hother
    · rw [hother, he]
      exact .same _
    · exact h other

end FileTree

namespace Disk

variable {dirs files : Set Location} {d d' U : Disk} {p : Path} {name : String} {bytes : ByteArray}

theorem Grows.eq (h : d.Grows ∅ ∅ U) (hhidden : d.tree.hidden = U.tree.hidden) : d = U := by
  obtain ⟨t, here⟩ := d
  obtain ⟨u, here'⟩ := U
  obtain rfl : here' = here := h.here
  obtain rfl : t = u := h.tree.eq hhidden
  rfl

/-- The listing of the root is left alone. -/
def Steady (d d' : Disk) : Prop := d'.tree.hidden = d.tree.hidden

instance : IsPreorder Disk Steady where
  refl _ := rfl
  trans _ _ _ h h' := h'.trans h

theorem makeDir_steady (h : d.makeDir p = .ok d') : d.Steady d' := by
  unfold makeDir at h
  split at h
  · contradiction
  · obtain rfl := Except.ok.inj h
    exact d.tree.hidden_put ..
  · contradiction

theorem writeFile_steady (h : d.writeFile p bytes = .ok d') : d.Steady d' := by
  unfold writeFile at h
  split at h
  · contradiction
  · contradiction
  · obtain rfl := Except.ok.inj h
    exact d.tree.hidden_put ..

/-- What changes lead to, of which the extent is known. -/
structure Turns (dirs files : Set Location) (d d' : Disk) : Prop where
  sound : d'.Sound
  grows : d.Grows dirs files d'
  steady : d.Steady d'

theorem Sound.turns (hd : d.Sound) : d.Turns dirs files d := ⟨hd, refl_of _ d, refl_of _ d⟩

theorem Turns.trans {d₁ : Disk} (h : d.Turns dirs files d₁) (h' : d₁.Turns dirs files d') :
    d.Turns dirs files d' :=
  ⟨h'.sound, trans_of _ h.grows h'.grows, trans_of _ h.steady h'.steady⟩

theorem Turns.mono {dirs' files' : Set Location} (h : d.Turns dirs files d') (hdirs : dirs ⊆ dirs')
    (hfiles : files ⊆ files') : d.Turns dirs' files' d' :=
  ⟨h.sound, h.grows.mono hdirs hfiles, h.steady⟩

/-- What writing a file does to a sound disk. -/
theorem writeFile_eq_ok (hd : d.Sound) (h : d.writeFile p bytes = .ok d') :
    d.Turns ∅ {p.place d.here} d' ∧ d'.read p = .ok bytes :=
  ⟨⟨writeFile_sound hd h, (writeFile_grows hd.linkFree h (Set.mem_singleton _)).1,
    writeFile_steady h⟩, read_writeFile h⟩

section Changes

variable (hU : U.Sound) (hd : d.Sound) (h : d.Grows dirs files U)

include hU hd h

/-- Where a directory of the upper disk is missing, but not the one above it, it can be made. -/
theorem find_below_none (hdots : ".." ∉ (p.descend [name]).parts)
    (hdir : U.isDir (p.descend [name]) = .ok true)
    (hget : d.tree.get? (p.place d.here) = some .dir)
    (hnone : d.tree.get? ((p.descend [name]).place d.here) = none) :
    d.find .stay (p.descend [name]) = .ok ((p.descend [name]).place d.here, none) := by
  obtain ⟨place, hfind⟩ := isDir_eq_true.1 hdir
  obtain ⟨hpath, hwalk⟩ := find_eq_ok.1 hfind
  have hdots' : ".." ∉ p.parts ∧ name ≠ ".." := by
    simpa [Path.descend, not_or, eq_comm] using hdots
  have hplain : IsPlain name := by
    have hskip : name = "" ∨ name = "." → (p.descend [name]).place d.here = p.place d.here := by
      rintro (rfl | rfl) <;>
        exact (Path.withoutDots_append _ p.parts _).trans rfl
    refine ⟨fun hname => ?_, fun hname => ?_, hdots'.2⟩
    · rw [hskip (.inl hname), hget] at hnone
      contradiction
    · rw [hskip (.inr hname), hget] at hnone
      contradiction
  have habove := isDir_of_descend hU.linkFree hdir
  have hname : ¬ nameLimit < Text.nameSize name := by
    intro hlong
    obtain ⟨middle, hmiddle⟩ := isDir_eq_true.1 habove
    have hthere := FileTree.walks_iff.2 (find_eq_ok.1 hmiddle).2
    have hstops : FileTree.Walks U.tree .follow linkLimit middle [name] (.error .nameTooLong) :=
      .tooLong hplain hlong
    have hends := hwalk.symm.trans (hthere.append hU.linkFree hstops).eq
    contradiction
  obtain ⟨middle, hmiddle⟩ := isDir_eq_true.1 (isDir_below hU hd h hdots'.1 habove hget)
  obtain rfl := (find_ok hd.linkFree hmiddle).1
  have hplace : (p.descend [name]).place d.here = p.place d.here ++ [name] :=
    Path.place_descend (List.forall_mem_singleton.2 hplain)
  have hthere : FileTree.Walks d.tree .stay linkLimit (d.start p) p.parts
      (.ok (p.place d.here, some .dir)) :=
    (FileTree.walks_iff.2 (find_eq_ok.1 hmiddle).2).of_last hd.linkFree
  rw [hplace] at hnone ⊢
  have hend := hthere.append hd.linkFree (.arrive hplain hname hnone .none)
  exact find_eq_ok.2 ⟨hpath, hend.eq⟩

/-- A directory of the upper disk can be made where the one above it is there. -/
theorem attempt_below (hdots : ".." ∉ (p.descend [name]).parts)
    (hdir : U.isDir (p.descend [name]) = .ok true)
    (hget : d.tree.get? (p.place d.here) = some .dir) (onAbsent : String → DiskWork Unit) :
    ∃ d', DiskWork.attempt (p.descend [name]) onAbsent d = (.ok (), d') ∧
      d'.Grows dirs files U := by
  have hbecomes := h.tree ((p.descend [name]).place d.here)
  have hupper := get?_of_isDir hU hdir
  rw [h.here] at hupper
  rw [hupper] at hbecomes
  generalize hthere : d.tree.get? ((p.descend [name]).place d.here) = e at hbecomes
  cases hbecomes with
  | same =>
    have hbelow := isDir_below hU hd h hdots hdir hthere
    exact ⟨d, DiskWork.attempt_of_isDir hd.linkFree hbelow onAbsent, h⟩
  | made =>
    have hmake : d.makeDir (p.descend [name]) =
        .ok { d with tree := d.tree.put ((p.descend [name]).place d.here) .dir } := by
      rw [makeDir, find_below_none hU hd h hdots hdir hget hthere]
    have hrun : DiskWork.attempt (p.descend [name]) onAbsent d =
        (.ok (), { d with tree := d.tree.put ((p.descend [name]).place d.here) .dir }) := by
      rw [DiskWork.attempt, hmake]
    exact ⟨_, hrun, h.here, h.tree.put hupper⟩

/-- A file of the upper disk can be written where the directory for it is there. -/
theorem writeFile_below (hdots : ".." ∉ p.parts) (hread : U.read p = .ok bytes)
    (habove : d.tree.get? (p.place d.here).dropLast = some .dir) :
    ∃ d', d.writeFile p bytes = .ok d' ∧ d'.Sound ∧
      d'.Grows dirs (files \ {p.place d.here}) U := by
  have hupper := get?_of_read hU.linkFree hread
  rw [h.here] at hupper
  have hfind : d.find .make p = .ok (p.place d.here, d.tree.get? (p.place d.here)) :=
    find_below hU hd h hdots hread habove
  have hwrite : d.writeFile p bytes =
      .ok { d with tree := d.tree.put (p.place d.here) (.file bytes) } := by
    have hnot : d.tree.get? (p.place d.here) ≠ some .dir := fun hdir =>
      absurd (hupper.symm.trans (h.tree.get?_dir hdir)) (by simp)
    rw [writeFile, hfind]
    split
    · contradiction
    · rename_i heq
      exact absurd (Prod.mk.inj (Except.ok.inj heq)).2 hnot
    · rename_i heq
      rw [(Prod.mk.inj (Except.ok.inj heq)).1]
  have hsound := writeFile_sound hd hwrite
  have hmade := get?_of_read hsound.linkFree (read_writeFile hwrite)
  refine ⟨_, hwrite, hsound, h.here, (h.tree.put hupper).diff_files ?_⟩
  rintro _ rfl
  exact hmade.trans hupper.symm

/-- Where the directory above is missing too, nothing can be made yet. -/
theorem makeDir_below_absent (hdots : ".." ∉ (p.descend [name]).parts)
    (hdir : U.isDir (p.descend [name]) = .ok true)
    (hnone : d.tree.get? (p.place d.here) = none) :
    d.makeDir (p.descend [name]) = .error (.fault ⟨.absent, (p.descend [name]).text⟩) := by
  obtain ⟨_, hfind⟩ := isDir_eq_true.1 hdir
  obtain ⟨hpath, -⟩ := find_eq_ok.1 hfind
  obtain ⟨middle, hmiddle⟩ := isDir_eq_true.1 (isDir_of_descend hU.linkFree hdir)
  have hwalk := FileTree.walks_iff.2 (find_eq_ok.1 hmiddle).2
  obtain rfl := (find_ok hU.linkFree hmiddle).1
  rw [h.here, h.start_eq] at hwalk
  have hdots' : ".." ∉ p.parts := fun hin => hdots (List.mem_append_left _ hin)
  have hbelow := hwalk.below_absent hU.linkFree h.tree hdots' (hd.start p) hnone
    (List.cons_ne_nil name [])
  have hstays : d.tree.walk linkLimit .stay (d.start (p.descend [name])) (p.descend [name]).parts =
      .error .absent :=
    (hbelow.of_last hd.linkFree).eq
  rw [makeDir, find, hpath.1, if_neg (by decide), if_neg (not_le.2 hpath.2), hstays]

end Changes

end Disk

namespace DiskWork

variable {dirs files : Set Location} {d d' U : Disk} {p source target : Path} {bytes : ByteArray}
  {anchor : Anchor}

/-- By induction on the names from the last one up, as the directories are made. -/
theorem ensureUp_below (hU : U.Sound) : ∀ {names : List String} {d : Disk}, d.Sound →
    d.Grows dirs files U → ".." ∉ names → U.isDir ⟨anchor, names.reverse⟩ = .ok true →
      ∃ d', ensureUp anchor names d = (.ok (), d') ∧ d'.Grows dirs files U
  | [], d, hd, h, hdots, hdir => by
    have hbelow : d.isDir ⟨anchor, []⟩ = .ok true :=
      Disk.isDir_below hU hd h hdots hdir (hd.start ⟨anchor, []⟩)
    exact ⟨d, attempt_of_isDir hd.linkFree hbelow _, h⟩
  | name :: above, d, hd, h, hdots, hdir => by
    let p : Path := ⟨anchor, above.reverse⟩
    have hpath : (⟨anchor, (name :: above).reverse⟩ : Path) = p.descend [name] := by
      rw [List.reverse_cons]
      rfl
    have hdotsPath : ".." ∉ (p.descend [name]).parts := by
      rw [← hpath, List.mem_reverse]
      exact hdots
    rw [hpath] at hdir
    rw [ensureUp_cons, hpath]
    have habove := Disk.isDir_of_descend hU.linkFree hdir
    have hupper := Disk.get?_of_isDir hU habove
    have hbecomes := h.tree (p.place d.here)
    rw [h.here] at hupper
    rw [hupper] at hbecomes
    generalize hget : d.tree.get? (p.place d.here) = e at hbecomes
    cases hbecomes with
    | same => exact Disk.attempt_below hU hd h hdotsPath hdir hget _
    | made =>
      have hdots' : ".." ∉ above := fun hin => hdots (List.mem_cons_of_mem _ hin)
      obtain ⟨d₁, hrun, h₁⟩ := ensureUp_below hU hd h hdots' habove
      have hsound : Keeps Disk.StaysSound (ensureUp anchor above) d :=
        ensureUp_keeps (R := Disk.StaysSound) fun hmake hd => Disk.makeDir_sound hd hmake
      have hd₁ := hsound.along hrun hd
      have hget₁ := Disk.get?_of_isDir hd₁ (isDir_of_ensureUp hd.linkFree hrun)
      obtain ⟨d₂, hrun₂, h₂⟩ := Disk.attempt_below hU hd₁ h₁ hdotsPath hdir hget₁
        fun t => throw (.fault ⟨.absent, t⟩)
      refine ⟨d₂, ?_, h₂⟩
      rw [attempt, Disk.makeDir_below_absent hU hd h hdotsPath hdir hget]
      exact bind_run_eq_ok.2 ⟨(), d₁, hrun, hrun₂⟩

/-- What making directories does to a sound disk. -/
theorem ensureDirs_eq_ok (hd : d.Sound) (h : ensureDirs p d = (.ok (), d')) :
    d.Turns (p.placesUp d.here) ∅ d' ∧ d'.isDir p = .ok true := by
  have hsound : Keeps Disk.StaysSound (ensureDirs p) d := ensureDirs_sound
  have hsteady : Keeps Disk.Steady (ensureDirs p) d := ensureDirs_keeps Disk.makeDir_steady
  have hgrows : Keeps (Disk.Grows (p.placesUp d.here) ∅) (ensureDirs p) d :=
    ensureDirs_grows hd.linkFree subset_rfl
  exact ⟨⟨hsound.along h hd, hgrows.along h, hsteady.along h⟩, isDir_of_ensureDirs hd.linkFree h⟩

/-- What copying a file does to a sound disk. -/
theorem copy_turns (hd : d.Sound) (h : copy source target d = (.ok (), d')) :
    d.Turns ∅ {target.place d.here} d' ∧
      ∃ bytes, d.read source = .ok bytes ∧ d'.read target = .ok bytes := by
  obtain ⟨-, -, bytes, hread, hwrite⟩ := copy_eq_ok.1 h
  obtain ⟨hturns, hwritten⟩ := Disk.writeFile_eq_ok hd hwrite
  exact ⟨hturns, bytes, hread, hwritten⟩

section Changes

variable (hU : U.Sound) (hd : d.Sound) (h : d.Grows dirs files U)

include hU hd h

/-- Directories of the upper disk can be made. -/
theorem ensureDirs_below (hdots : ".." ∉ p.parts) (hdir : U.isDir p = .ok true) :
    ∃ d', ensureDirs p d = (.ok (), d') ∧ d'.Sound ∧ d'.tree.get? (p.place d.here) = some .dir ∧
      d'.Grows (dirs \ p.placesUp d.here) files U := by
  have hdir' : U.isDir ⟨p.anchor, p.parts.reverse.reverse⟩ = .ok true := by
    rwa [List.reverse_reverse]
  have hdots' : ".." ∉ p.parts.reverse := by rwa [List.mem_reverse]
  obtain ⟨d', hrun, h'⟩ := ensureUp_below hU hd h hdots' hdir'
  obtain ⟨hturns, hmade⟩ := ensureDirs_eq_ok hd hrun
  have hget := Disk.get?_of_isDir hturns.sound hmade
  rw [hturns.grows.here] at hget
  refine ⟨d', hrun, hturns.sound, hget, h'.here, h'.tree.diff_dirs fun place hplace => ?_⟩
  have hthere := hturns.sound.closed.above hget (Path.prefix_of_mem_placesUp hdots hplace)
  exact hthere.trans (h'.tree.get?_dir hthere).symm

/-- A file that both disks have can be copied to where the upper one has its bytes. -/
theorem copy_below (hsource : ".." ∉ source.parts) (htarget : ".." ∉ target.parts)
    (hkept : source.place d.here ∉ files) (hne : source.place d.here ≠ target.place d.here)
    (hread : U.read source = .ok bytes) (hcopied : U.read target = .ok bytes)
    (habove : d.tree.get? (target.place d.here).dropLast = some .dir) :
    ∃ d', copy source target d = (.ok (), d') ∧
      d'.Grows dirs (files \ {target.place d.here}) U := by
  obtain ⟨d', hwrite, hd', h'⟩ := Disk.writeFile_below hU hd h htarget hcopied habove
  have hname : ∀ {p bytes}, U.read p = .ok bytes → p.isNameable = true := fun hread => by
    obtain ⟨_, hfind⟩ := Disk.read_eq_ok.1 hread
    exact (Disk.find_eq_ok.1 hfind).1.1
  refine ⟨d', copy_eq_ok.2 ⟨?_, samePlace_of_ne hd.linkFree hne, bytes, ?_, hwrite⟩, h'⟩
  · rw [hname hread, hname hcopied]
    rfl
  · exact Disk.read_below hU hd h hsource hkept hread

end Changes

end DiskWork

end SetupScript
