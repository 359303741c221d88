import SetupScript.Proofs.Files.NoLinks

/-!
# Walks, step by step

`Walks` lists the steps of a walk, and `walks_iff` says that a walk takes no others; what holds of
all walks is then proved by induction on their steps. The links alone decide the way of a walk: the
places that it may look up and where it leads (`Links.way`). A walk keeps to it, and where it ends
it finds what is there (`Walks.arrives`).
-/

namespace SetupScript

/-- Nothing, or a file: a walk that comes to it ends. -/
inductive IsBare : Option Entry → Prop
  | none : IsBare none
  | file (bytes : ByteArray) : IsBare (some (.file bytes))

/-- What a walk is told that would go on from there. -/
def blockedBy : Option Entry → FaultCode
  | none => .absent
  | some _ => .notDirectory

/-- Whether a link is followed only to say that a directory cannot be written. -/
def refusesLink (last : Last) (rest : List String) (target : String) : Bool :=
  last == .make && rest.isEmpty && asksForDir target

/-- How a walk ends that could only write a directory. -/
def refused (r : Except FaultCode Spot) : Except FaultCode Spot :=
  r.bind fun _ => .error .isDirectory

/-- The names of a link that asks for a directory, without what asks for it. -/
def trimmedPieces (target : String) : List String :=
  Text.trimRight (· == "") (slashPieces target)

namespace FileTree

/-- The steps of a walk that may follow so many links more. -/
inductive Walks (t : FileTree) :
    Last → Nat → Location → List String → Except FaultCode Spot → Prop
  | done {last n here} : Walks t last n here [] (.ok (here, some .dir))
  | skip {last n here name rest r} (hname : name = "" ∨ name = ".")
      (h : Walks t last n here rest r) : Walks t last n here (name :: rest) r
  | back {last n here rest r} (h : Walks t last n here.dropLast rest r) :
      Walks t last n here (".." :: rest) r
  | tooLong {last n here name rest} (hname : IsPlain name)
      (hlong : nameLimit < Text.nameSize name) :
      Walks t last n here (name :: rest) (.error .nameTooLong)
  | arrive {last n here name e} (hname : IsPlain name) (hshort : ¬ nameLimit < Text.nameSize name)
      (he : t.get? (here ++ [name]) = e) (hbare : IsBare e) :
      Walks t last n here [name] (.ok (here ++ [name], e))
  | blocked {last n here name rest e} (hname : IsPlain name)
      (hshort : ¬ nameLimit < Text.nameSize name) (hrest : rest ≠ [])
      (he : t.get? (here ++ [name]) = e) (hbare : IsBare e) :
      Walks t last n here (name :: rest) (.error (blockedBy e))
  | enter {last n here name rest r} (hname : IsPlain name)
      (hshort : ¬ nameLimit < Text.nameSize name) (hdir : t.get? (here ++ [name]) = some .dir)
      (h : Walks t last n (here ++ [name]) rest r) : Walks t last n here (name :: rest) r
  | stay {n here name target} (hname : IsPlain name) (hshort : ¬ nameLimit < Text.nameSize name)
      (hlink : t.get? (here ++ [name]) = some (.link target)) :
      Walks t .stay n here [name] (.ok (here ++ [name], some (.link target)))
  | loop {last here name rest target} (hname : IsPlain name)
      (hshort : ¬ nameLimit < Text.nameSize name)
      (hlink : t.get? (here ++ [name]) = some (.link target)) (hgo : rest ≠ [] ∨ last ≠ .stay) :
      Walks t last 0 here (name :: rest) (.error .linkLoop)
  | follow {last n here name rest target r} (hname : IsPlain name)
      (hshort : ¬ nameLimit < Text.nameSize name)
      (hlink : t.get? (here ++ [name]) = some (.link target)) (hgo : rest ≠ [] ∨ last ≠ .stay)
      (htarget : refusesLink last rest target = false)
      (h : Walks t last n (linkStart here target) (slashPieces target ++ rest) r) :
      Walks t last (n + 1) here (name :: rest) r
  | refuse {last n here name rest target r} (hname : IsPlain name)
      (hshort : ¬ nameLimit < Text.nameSize name)
      (hlink : t.get? (here ++ [name]) = some (.link target)) (hgo : rest ≠ [] ∨ last ≠ .stay)
      (htarget : refusesLink last rest target = true)
      (h : Walks t .stay n (linkStart here target) (trimmedPieces target) r) :
      Walks t last (n + 1) here (name :: rest) (refused r)

variable {t : FileTree} {last : Last} {n : Nat} {here : Location} {names : List String}
  {r : Except FaultCode Spot}

theorem refused_ne_ok {spot : Spot} (r : Except FaultCode Spot) : refused r ≠ .ok spot := by
  cases r <;> nofun

/-- What a walk does at a link that has to be followed. -/
def followLink (t : FileTree) (last : Last) :
    Nat → Location → String → List String → Except FaultCode Spot
  | 0, _, _, _ => .error .linkLoop
  | n + 1, here, target, rest =>
    if refusesLink last rest target then
      refused (t.walk n .stay (linkStart here target) (trimmedPieces target))
    else t.walk n last (linkStart here target) (slashPieces target ++ rest)

theorem walk_eq (t : FileTree) (n : Nat) (last : Last) :
    t.walk n last = t.advance last (t.followLink last n) := by
  cases n <;> rfl

theorem isPlain_of_not_skip {name : String} (hskip : ¬ (name == "" || name == ".") = true)
    (hback : ¬ (name == "..") = true) : IsPlain name := by
  rw [Bool.or_eq_true, not_or, beq_iff_eq, beq_iff_eq] at hskip
  rw [beq_iff_eq] at hback
  exact ⟨hskip.1, hskip.2, hback⟩

theorem advance_skip {onLink : Location → String → List String → Except FaultCode Spot}
    {name : String} {rest : List String} (h : name = "" ∨ name = ".") :
    t.advance last onLink here (name :: rest) = t.advance last onLink here rest := by
  rcases h with rfl | rfl <;> rfl

theorem advance_plain {onLink : Location → String → List String → Except FaultCode Spot}
    {name : String} {rest : List String} (hname : IsPlain name)
    (hshort : ¬ nameLimit < Text.nameSize name) :
    t.advance last onLink here (name :: rest) =
      match t.get? (here ++ [name]) with
      | none => if rest.isEmpty then .ok (here ++ [name], none) else .error .absent
      | some .dir => t.advance last onLink (here ++ [name]) rest
      | some (.file bytes) =>
        if rest.isEmpty then .ok (here ++ [name], some (.file bytes)) else .error .notDirectory
      | some (.link target) =>
        if rest.isEmpty && last == .stay then .ok (here ++ [name], some (.link target))
        else onLink here target rest := by
  obtain ⟨hempty, hdot, hdots⟩ := hname
  rw [advance, if_neg (by simp [hempty, hdot]), if_neg (by simp [hdots])]
  exact if_neg hshort

theorem advance_link {onLink : Location → String → List String → Except FaultCode Spot}
    {name target : String} {rest : List String} (hname : IsPlain name)
    (hshort : ¬ nameLimit < Text.nameSize name)
    (hlink : t.get? (here ++ [name]) = some (.link target)) (hgo : rest ≠ [] ∨ last ≠ .stay) :
    t.advance last onLink here (name :: rest) = onLink here target rest := by
  have hstay : ¬ (rest.isEmpty && last == .stay) = true := by
    rw [Bool.and_eq_true, List.isEmpty_iff, beq_iff_eq]
    exact fun h => hgo.elim (· h.1) (· h.2)
  rw [advance_plain hname hshort, hlink]
  exact if_neg hstay

theorem Walks.eq (h : Walks t last n here names r) : t.walk n last here names = r := by
  induction h with
  | done =>
    rw [walk_eq]
    rfl
  | skip hname _ ih => rwa [walk_eq, advance_skip hname, ← walk_eq]
  | back _ ih =>
    rw [walk_eq] at ih ⊢
    exact ih
  | tooLong hname hlong =>
    obtain ⟨hempty, hdot, hdots⟩ := hname
    rw [walk_eq, advance, if_neg (by simp [hempty, hdot]), if_neg (by simp [hdots]), if_pos hlong]
  | arrive hname hshort he hbare =>
    rw [walk_eq, advance_plain hname hshort, he]
    cases hbare <;> rfl
  | blocked hname hshort hrest he hbare =>
    have hempty : ¬ List.isEmpty _ = true := fun h => hrest (List.isEmpty_iff.1 h)
    rw [walk_eq, advance_plain hname hshort, he]
    cases hbare <;> exact if_neg hempty
  | enter hname hshort hdir _ ih => rwa [walk_eq, advance_plain hname hshort, hdir, ← walk_eq]
  | stay hname hshort hlink =>
    rw [walk_eq, advance_plain hname hshort, hlink]
    rfl
  | loop hname hshort hlink hgo => rw [walk_eq, advance_link hname hshort hlink hgo, followLink]
  | follow hname hshort hlink hgo htarget _ ih =>
    rw [walk_eq, advance_link hname hshort hlink hgo, followLink, htarget]
    exact ih
  | refuse hname hshort hlink hgo htarget _ ih =>
    rw [walk_eq, advance_link hname hshort hlink hgo, followLink, htarget, ← ih]
    rfl

/-- A walk up to a link takes these steps, if it takes them from the link on. -/
theorem advance_walks {onLink : Location → String → List String → Except FaultCode Spot}
    (hstep : ∀ {here name rest target}, IsPlain name → ¬ nameLimit < Text.nameSize name →
      t.get? (here ++ [name]) = some (.link target) → rest ≠ [] ∨ last ≠ .stay →
        Walks t last n here (name :: rest) (onLink here target rest)) :
    ∀ (names : List String) (here : Location),
      Walks t last n here names (t.advance last onLink here names)
  | [], _ => .done
  | name :: rest, here => by
    by_cases hskip : (name == "" || name == ".") = true
    · have hname : name = "" ∨ name = "." := by simpa using hskip
      rw [advance_skip hname]
      exact .skip hname (advance_walks hstep rest here)
    · by_cases hback : (name == "..") = true
      · obtain rfl := beq_iff_eq.1 hback
        exact .back (advance_walks hstep rest here.dropLast)
      · have hname := isPlain_of_not_skip hskip hback
        by_cases hlong : nameLimit < Text.nameSize name
        · rw [advance, if_neg hskip, if_neg hback, if_pos hlong]
          exact .tooLong hname hlong
        · have hbare : ∀ {e}, t.get? (here ++ [name]) = e → IsBare e →
              Walks t last n here (name :: rest)
                (if rest.isEmpty then .ok (here ++ [name], e) else .error (blockedBy e)) := by
            intro e he hb
            cases rest with
            | nil => exact .arrive hname hlong he hb
            | cons next rest => exact .blocked hname hlong (by simp) he hb
          rw [advance_plain hname hlong]
          cases hget : t.get? (here ++ [name]) with
          | none => exact hbare hget .none
          | some e =>
            cases e with
            | file bytes => exact hbare hget (.file bytes)
            | dir => exact .enter hname hlong hget (advance_walks hstep rest _)
            | link target =>
              by_cases hstay : rest = [] ∧ last = .stay
              · obtain ⟨rfl, rfl⟩ := hstay
                exact .stay hname hlong hget
              · have hgo : rest ≠ [] ∨ last ≠ .stay := by
                  rwa [not_and_or] at hstay
                have hlink : t.advance last onLink here (name :: rest) = onLink here target rest :=
                  advance_link hname hlong hget hgo
                have h := hstep hname hlong hget hgo
                rwa [← hlink, advance_plain hname hlong, hget] at h

theorem walk_walks (t : FileTree) : ∀ (n : Nat) (last : Last) (here : Location)
    (names : List String), Walks t last n here names (t.walk n last here names)
  | 0, _, here, names => by
    rw [walk_eq]
    exact advance_walks (fun hname hshort hlink hgo => .loop hname hshort hlink hgo) names here
  | n + 1, last, here, names => by
    rw [walk_eq]
    refine advance_walks (fun {here name rest target} hname hshort hlink hgo => ?_) names here
    rw [followLink]
    cases htarget : refusesLink last rest target with
    | true => exact .refuse hname hshort hlink hgo htarget (walk_walks t n _ _ _)
    | false => exact .follow hname hshort hlink hgo htarget (walk_walks t n _ _ _)

theorem walks_iff : Walks t last n here names r ↔ t.walk n last here names = r :=
  ⟨Walks.eq, fun h => h ▸ walk_walks t n last here names⟩

end FileTree

/-! ## Ways -/

/-- The symbolic links of a tree. -/
abbrev Links := Location → Option String

/-- The places that a walk may look up, and the place that it leads to. -/
structure Way where
  passed : List Location
  goal : Location

def Way.over (place : Location) (w : Way) : Way := ⟨place :: w.passed, w.goal⟩

namespace Links

variable (l : Links)

/-- A way up to the first link. -/
def wayWith (onLink : Location → String → List String → Way) : Location → List String → Way
  | here, [] => ⟨[], here⟩
  | here, name :: rest =>
    if name == "" || name == "." then wayWith onLink here rest
    else if name == ".." then wayWith onLink here.dropLast rest
    else
      let place := here ++ [name]
      match l place with
      | some target => (onLink here target rest).over place
      | none => (wayWith onLink place rest).over place

/-- The way that names lead along where whatever is no link is a directory. -/
def way : Nat → Location → List String → Way
  | 0 => l.wayWith fun here _ _ => ⟨[], here⟩
  | n + 1 => l.wayWith fun here target rest =>
      way n (linkStart here target) (slashPieces target ++ rest)

/-- How a way goes on from a link. -/
def wayOnLink : Nat → Location → String → List String → Way
  | 0, here, _, _ => ⟨[], here⟩
  | n + 1, here, target, rest => l.way n (linkStart here target) (slashPieces target ++ rest)

variable {l} {n : Nat} {here : Location} {name target : String} {rest : List String}

theorem way_eq (n : Nat) : l.way n = l.wayWith (l.wayOnLink n) := by
  cases n <;> rfl

theorem way_nil : l.way n here [] = ⟨[], here⟩ := by
  rw [way_eq]
  rfl

theorem way_skip (h : name = "" ∨ name = ".") :
    l.way n here (name :: rest) = l.way n here rest := by
  rw [way_eq]
  rcases h with rfl | rfl <;> rfl

theorem way_back : l.way n here (".." :: rest) = l.way n here.dropLast rest := by
  rw [way_eq]
  rfl

theorem wayWith_plain {onLink : Location → String → List String → Way} (hname : IsPlain name) :
    l.wayWith onLink here (name :: rest) =
      match l (here ++ [name]) with
      | some target => (onLink here target rest).over (here ++ [name])
      | none => (l.wayWith onLink (here ++ [name]) rest).over (here ++ [name]) := by
  obtain ⟨hempty, hdot, hdots⟩ := hname
  rw [wayWith, if_neg (by simp [hempty, hdot]), if_neg (by simp [hdots])]

theorem way_enter (hname : IsPlain name) (h : l (here ++ [name]) = none) :
    l.way n here (name :: rest) = (l.way n (here ++ [name]) rest).over (here ++ [name]) := by
  rw [way_eq, wayWith_plain hname, h]

theorem way_follow (hname : IsPlain name) (h : l (here ++ [name]) = some target) :
    l.way (n + 1) here (name :: rest) =
      (l.way n (linkStart here target) (slashPieces target ++ rest)).over (here ++ [name]) := by
  rw [way_eq, wayWith_plain hname, h]
  rfl

theorem mem_passed_way (hname : IsPlain name) :
    here ++ [name] ∈ (l.way n here (name :: rest)).passed := by
  rw [way_eq, wayWith_plain hname]
  cases l (here ++ [name]) with
  | none => exact List.mem_cons_self
  | some target => exact List.mem_cons_self

theorem wayWith_append {onLink : Location → String → List String → Way} {more : List String}
    (hlink : ∀ here target rest,
      (onLink here target rest).passed ⊆ (onLink here target (rest ++ more)).passed) :
    ∀ (names : List String) (here : Location),
      (l.wayWith onLink here names).passed ⊆ (l.wayWith onLink here (names ++ more)).passed
  | [], _ => List.nil_subset _
  | name :: rest, here => by
    by_cases hskip : (name == "" || name == ".") = true
    · simp only [List.cons_append, wayWith, if_pos hskip]
      exact wayWith_append hlink rest here
    · by_cases hback : (name == "..") = true
      · simp only [List.cons_append, wayWith, if_neg hskip, if_pos hback]
        exact wayWith_append hlink rest here.dropLast
      · have hname := FileTree.isPlain_of_not_skip hskip hback
        rw [List.cons_append, wayWith_plain hname, wayWith_plain hname]
        cases l (here ++ [name]) with
        | none => exact List.cons_subset_cons _ (wayWith_append hlink rest _)
        | some target => exact List.cons_subset_cons _ (hlink here target rest)

/-- The way of some names is the beginning of the way of more. -/
theorem way_append (more : List String) : ∀ (n : Nat) (here : Location) (names : List String),
    (l.way n here names).passed ⊆ (l.way n here (names ++ more)).passed
  | 0, here, names => by
    rw [way_eq]
    exact wayWith_append (fun _ _ _ => List.Subset.refl _) names here
  | n + 1, here, names => by
    rw [way_eq]
    refine wayWith_append (fun here target rest => ?_) names here
    have ih := way_append more n (linkStart here target) (slashPieces target ++ rest)
    rwa [List.append_assoc] at ih

theorem way_prefix {names more : List String} (h : names <+: more) :
    (l.way n here names).passed ⊆ (l.way n here more).passed := by
  obtain ⟨rest, rfl⟩ := h
  exact way_append rest n here names

end Links

namespace FileTree

def links (t : FileTree) : Links := fun place =>
  match t.get? place with
  | some (.link target) => some target
  | _ => none

variable {t : FileTree} {last : Last} {n : Nat} {here : Location} {names : List String}
  {r : Except FaultCode Spot} {place : Location} {e : Option Entry}

theorem links_of_bare (h : IsBare (t.get? place)) : t.links place = none := by
  unfold links
  generalize t.get? place = e at h
  cases h <;> rfl

theorem links_of_dir (h : t.get? place = some .dir) : t.links place = none := by
  rw [links, h]

theorem links_of_link {target : String} (h : t.get? place = some (.link target)) :
    t.links place = some target := by
  rw [links, h]

/-- What a walk has found at its end. A place where it started or came back to counts as a
directory, whatever is listed for it. -/
structure Arrives (t : FileTree) (last : Last) (w : Way) (place : Location) (e : Option Entry) :
    Prop where
  found : e = some .dir ∨ e = t.get? place ∧ place ∈ w.passed
  stays : ∀ target, e = some (.link target) → last = .stay
  goal : (∀ target, e ≠ some (.link target)) → place = w.goal

theorem Arrives.over {w : Way} (h : Arrives t last w place e) (before : Location) :
    Arrives t last (w.over before) place e :=
  ⟨h.found.imp_right (.imp_right (List.mem_cons_of_mem before)), h.stays, h.goal⟩

theorem Walks.arrives (h : Walks t last n here names r) :
    ∀ {place e}, r = .ok (place, e) → Arrives t last (t.links.way n here names) place e := by
  induction h with
  | done =>
    rintro _ _ ⟨⟩
    exact ⟨.inl rfl, nofun, fun _ => by rw [Links.way_nil]⟩
  | skip hname _ ih =>
    rw [Links.way_skip hname]
    exact ih
  | back _ ih =>
    rw [Links.way_back]
    exact ih
  | tooLong => nofun
  | arrive hname hshort he hbare =>
    rintro _ _ ⟨⟩
    have hlinks := links_of_bare (he ▸ hbare)
    refine ⟨.inr ⟨he.symm, Links.mem_passed_way hname⟩, ?_, fun _ => ?_⟩
    · rintro target rfl
      cases hbare
    · rw [Links.way_enter hname hlinks, Links.way_nil]
      rfl
  | blocked => nofun
  | enter hname hshort hdir _ ih =>
    intro place e hr
    rw [Links.way_enter hname (links_of_dir hdir)]
    exact (ih hr).over _
  | stay hname hshort hlink =>
    rintro _ _ ⟨⟩
    exact ⟨.inr ⟨hlink.symm, Links.mem_passed_way hname⟩, fun _ _ => rfl, fun h => absurd rfl (h _)⟩
  | loop => nofun
  | follow hname hshort hlink hgo htarget _ ih =>
    intro place e hr
    rw [Links.way_follow hname (links_of_link hlink)]
    exact (ih hr).over _
  | refuse hname hshort hlink hgo htarget _ ih =>
    exact fun hr => absurd hr (refused_ne_ok _)

theorem arrives_of_walk (h : t.walk n last here names = .ok (place, e)) :
    Arrives t last (t.links.way n here names) place e :=
  (walk_walks t n last here names).arrives h

theorem get?_put_of_ne {f : Entry} {other : Location} (hne : t.get? other ≠ t.get? place) :
    (t.put place f).get? other = t.get? other := by
  by_cases hroot : place = []
  · rw [put, if_pos hroot]
  · rw [get?_put t hroot, if_neg fun h : other = place => hne (congrArg t.get? h)]

/-- A file is found by the names that it was written under. -/
theorem Walks.put_file (bytes : ByteArray) (h : Walks t last n here names r) (hlast : last ≠ .stay)
    (hbare : IsBare (t.get? place)) (hr : r = .ok (place, t.get? place)) :
    Walks (t.put place (.file bytes)) .follow n here names (.ok (place, some (.file bytes))) := by
  have hroot : place ≠ [] := by
    rintro rfl
    cases hbare
  have hput : (t.put place (.file bytes)).get? place = some (.file bytes) := by
    rw [get?_put t hroot, if_pos rfl]
  have hdir : ∀ {other}, t.get? other = some .dir →
      (t.put place (.file bytes)).get? other = some .dir := by
    intro other ho
    rw [get?_put_of_ne, ho]
    intro heq
    rw [← heq, ho] at hbare
    cases hbare
  have hlink : ∀ {other target}, t.get? other = some (.link target) →
      (t.put place (.file bytes)).get? other = some (.link target) := by
    intro other target ho
    rw [get?_put_of_ne, ho]
    intro heq
    rw [← heq, ho] at hbare
    cases hbare
  induction h with
  | done =>
    simp only [Except.ok.injEq, Prod.mk.injEq] at hr
    rw [← hr.2] at hbare
    cases hbare
  | skip hname _ ih => exact .skip hname (ih hlast hr)
  | back _ ih => exact .back (ih hlast hr)
  | tooLong => contradiction
  | arrive hname hshort =>
    simp only [Except.ok.injEq, Prod.mk.injEq] at hr
    rw [← hr.1] at hput ⊢
    exact .arrive hname hshort hput (.file bytes)
  | blocked => contradiction
  | enter hname hshort hget _ ih => exact .enter hname hshort (hdir hget) (ih hlast hr)
  | stay => contradiction
  | loop => contradiction
  | follow hname hshort hget _ _ _ ih =>
    exact .follow hname hshort (hlink hget) (.inr (by decide)) rfl (ih hlast hr)
  | refuse => exact absurd hr (refused_ne_ok _)

/-! ## Settling -/

theorem settleWith_plain {onLink : Location → String → List Location → Location × Bool}
    {active : List Location} {name : String} {rest : List String} (hname : IsPlain name) :
    t.settleWith onLink active here (name :: rest) =
      match t.links (here ++ [name]) with
      | some target =>
        if active.contains (here ++ [name]) then (Path.withoutDots (here ++ [name]) rest, false)
        else
          let r := onLink here target ((here ++ [name]) :: active)
          if r.2 then t.settleWith onLink active r.1 rest else (Path.withoutDots r.1 rest, false)
      | none => t.settleWith onLink active (here ++ [name]) rest := by
  obtain ⟨hempty, hdot, hdots⟩ := hname
  rw [settleWith, if_neg (by simp [hempty, hdot]), if_neg (by simp [hdots]), links]
  dsimp only
  cases t.get? (here ++ [name]) with
  | none => rfl
  | some e => cases e <;> rfl

theorem settleWith_congr {t' : FileTree} (hlinks : t.links = t'.links)
    {onLink onLink' : Location → String → List Location → Location × Bool} {active : List Location}
    (hlink : ∀ here place target, t.links place = some target → place ∉ active →
      onLink here target (place :: active) = onLink' here target (place :: active)) :
    ∀ (names : List String) (here : Location),
      t.settleWith onLink active here names = t'.settleWith onLink' active here names
  | [], _ => rfl
  | name :: rest, here => by
    by_cases hskip : (name == "" || name == ".") = true
    · simp only [settleWith, if_pos hskip]
      exact settleWith_congr hlinks hlink rest here
    · by_cases hback : (name == "..") = true
      · simp only [settleWith, if_neg hskip, if_pos hback]
        exact settleWith_congr hlinks hlink rest here.dropLast
      · have hname := isPlain_of_not_skip hskip hback
        have ih := settleWith_congr hlinks hlink rest
        rw [settleWith_plain hname, settleWith_plain hname, ← hlinks]
        cases htarget : t.links (here ++ [name]) with
        | none => exact ih _
        | some target =>
          by_cases hactive : active.contains (here ++ [name]) = true
          · simp only [if_pos hactive]
          · have hnew : here ++ [name] ∉ active := by simpa using hactive
            simp only [if_neg hactive, hlink here _ target htarget hnew, ih]

/-- How many of some places are not being followed yet. -/
def pending (places active : List Location) : Nat :=
  (places.filter fun place => !active.contains place).length

theorem pending_cons {places active : List Location} (hplace : place ∈ places)
    (hnew : place ∉ active) : pending places (place :: active) < pending places active := by
  have hcons : (places.filter fun other => !(place :: active).contains other) =
      (places.filter fun other => !active.contains other).filter
        fun other => !(other == place) := by
    rw [List.filter_filter]
    simp only [List.contains_cons, Bool.not_or]
  rw [pending, hcons]
  exact List.length_filter_lt_length_iff_exists.2
    ⟨place, List.mem_filter.2 ⟨hplace, by simpa using hnew⟩, by simp⟩

/-- What settling does at a link that is not being followed yet. -/
def settleLink (t : FileTree) : Nat → Location → String → List Location → Location × Bool
  | 0, here, _, _ => (here, false)
  | n + 1, here, target, active =>
    t.settleNested n active (linkStart here target) (slashPieces target)

theorem settleNested_eq (t : FileTree) (n : Nat) (active : List Location) :
    t.settleNested n active = t.settleWith (t.settleLink n) active := by
  cases n <;> rfl

/-- Where links can be nested as deep as there are links, settling goes one way. -/
theorem settleNested_congr {t' : FileTree} (hlinks : t.links = t'.links) {places : List Location}
    (hplaces : ∀ place target, t.links place = some target → place ∈ places) :
    ∀ {n m : Nat} {active : List Location}, pending places active ≤ n → pending places active ≤ m →
      ∀ (here : Location) (names : List String),
        t.settleNested n active here names = t'.settleNested m active here names
  | n, m, active, hn, hm, here, names => by
    rw [settleNested_eq, settleNested_eq]
    refine settleWith_congr hlinks (fun here place target htarget hnew => ?_) names here
    have hlt := pending_cons (hplaces place target htarget) hnew
    match n, m with
    | 0, _ => omega
    | _, 0 => omega
    | n + 1, m + 1 =>
      rw [settleLink, settleLink]
      exact settleNested_congr hlinks hplaces (by omega) (by omega) _ _

theorem mem_of_get? {e : Entry} (hroot : place ≠ []) (h : t.get? place = some e) :
    (place, e) ∈ t.entries := by
  rw [get?, if_neg hroot, Listing.get?, Option.map_eq_some_iff] at h
  obtain ⟨⟨other, f⟩, hfind, rfl⟩ := h
  obtain rfl : other = place := by simpa using List.find?_some hfind
  exact List.mem_of_find?_eq_some hfind

theorem mem_of_links {target : String} (h : t.links place = some target) :
    place ∈ t.entries.map Prod.fst := by
  have hroot : place ≠ [] := by
    rintro rfl
    contradiction
  unfold links at h
  split at h
  · rename_i hget
    exact List.mem_map_of_mem (mem_of_get? hroot hget)
  · contradiction

theorem settle_congr {t' : FileTree} (hlinks : t.links = t'.links) (here : Location)
    (names : List String) : t.settle here names = t'.settle here names := by
  have hpending : ∀ t : FileTree, pending (t.entries.map Prod.fst) [] ≤ t.entries.length :=
    fun t => (List.length_filter_le _ _).trans (List.length_map _).le
  have hdeep : ∀ {t t' : FileTree}, t.links = t'.links → ∀ m, t.entries.length ≤ m →
      t.settle here names = t'.settleNested m [] here names := fun hlinks m hm =>
    settleNested_congr hlinks (fun _ _ => mem_of_links) ((hpending _).trans (Nat.le_succ _))
      ((hpending _).trans hm) here names
  have hmax := Nat.le_max_left t.entries.length t'.entries.length
  rw [hdeep hlinks _ hmax, ← hdeep rfl _ (Nat.le_max_right _ _)]

end FileTree

end SetupScript
