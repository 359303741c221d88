import SetupScript.Proofs.Configuration.SignTool
import SetupScript.Proofs.Script.Layout

/-!
# One sign tool for the script and the compiler

The script refers to a sign tool by its name, and an argument of the compiler says which command
the name stands for. Both are read back as they are written: the name in the script ends at a
blank and the name in the argument at an equals sign. So the two agree (`agrees_iff`) where the
name holds neither, and where no blank at its end is lost for want of parameters.
-/

namespace SetupScript

namespace Text

section Lists

variable {α : Type} {p : α → Bool}

theorem cutFirst_eq_self : ∀ {xs : List α}, (∀ x ∈ xs, p x = false) → cutFirst p xs = (xs, none)
  | [], _ => rfl
  | x :: xs, h => by
    have ih := cutFirst_eq_self fun y hy => h y (List.mem_cons_of_mem x hy)
    simp [cutFirst, h x List.mem_cons_self, ih]

/-- What is before a cut holds no element that is cut at. -/
theorem of_mem_cutFirst : ∀ {xs : List α}, ∀ x ∈ (cutFirst p xs).1, p x = false
  | [], x, hx => by simp [cutFirst] at hx
  | y :: ys, x, hx => by
    rw [cutFirst] at hx
    split at hx
    · simp at hx
    · rename_i hy
      rcases List.mem_cons.1 hx with rfl | hx
      · simpa using hy
      · exact of_mem_cutFirst x hx

theorem trimRight_append (xs ys : List α) : trimRight p (xs ++ ys) =
    if trimRight p ys = [] then trimRight p xs else xs ++ trimRight p ys := by
  simp only [trimRight, List.reverse_append, List.dropWhile_append, List.reverse_eq_nil_iff,
    List.isEmpty_iff]
  split
  · rfl
  · simp

end Lists

/-- What stands before the first separator and after it; nothing stands after one that is not
there. -/
def cutAt (separator : Char) (s : String) : String × String :=
  let r := cutFirst (· == separator) s.toList
  (String.ofList r.1, String.ofList (r.2.getD []))

theorem cutAt_append {separator : Char} {s : String} (h : separator ∉ s.toList) (t : String) :
    cutAt separator (s ++ String.singleton separator ++ t) = (s, t) := by
  have hl : (s ++ String.singleton separator ++ t).toList = s.toList ++ separator :: t.toList := by
    simp
  rw [cutAt, hl, cutFirst_append_cons (by simp) _ (beq_eq_false_of_notMem h)]
  simp

/-- A separator in what is put before one leaves more after the first. -/
theorem cutAt_append_eq_iff {separator : Char} {s t u : String} :
    cutAt separator (s ++ String.singleton separator ++ t) = (u, t) ↔
      u = s ∧ separator ∉ s.toList := by
  by_cases h : separator ∈ s.toList
  · obtain ⟨xs, ys, hs, hxs⟩ := List.eq_append_cons_of_mem h
    have hl : s ++ String.singleton separator ++ t = String.ofList xs ++
        String.singleton separator ++ (String.ofList ys ++ String.singleton separator ++ t) := by
      simp [← String.toList_inj, hs]
    have hx : separator ∉ (String.ofList xs).toList := by
      rwa [String.toList_ofList]
    refine iff_of_false (fun hcut => ?_) (fun hs => hs.2 h)
    rw [hl, cutAt_append hx] at hcut
    have hlength := congrArg String.length (Prod.mk.inj hcut).2
    simp only [String.length_append, String.length_singleton] at hlength
    omega
  · rw [cutAt_append h]
    simp [h, eq_comm]

theorem cutAt_eq_self {separator : Char} {s : String} (h : separator ∉ s.toList) :
    cutAt separator s = (s, "") := by
  rw [cutAt, cutFirst_eq_self (beq_eq_false_of_notMem h)]
  simp

theorem notMem_cutAt (separator : Char) (s : String) :
    separator ∉ (cutAt separator s).1.toList := by
  intro h
  rw [cutAt, String.toList_ofList] at h
  simpa using of_mem_cutFirst separator h

/-- The text after an opening, for a text that starts with it. -/
def after? (opening s : String) : Option String :=
  (s.toList.dropPrefix? opening.toList).map String.ofList

theorem after?_append (opening s : String) : after? opening (opening ++ s) = some s := by
  rw [after?, String.toList_append, List.dropPrefix?_append_of_beq _ (beq_self_eq_true _)]
  simp

theorem stripRight_append (s t : String) : stripRight (s ++ t) =
    if stripRight t = "" then stripRight s else s ++ stripRight t := by
  simp only [stripRight, String.toList_append, trimRight_append, ← String.toList_inj,
    String.toList_ofList, String.toList_empty]
  split <;> simp

theorem mem_of_mem_stripRight {c : Char} {s : String} (h : c ∈ (stripRight s).toList) :
    c ∈ s.toList := by
  rw [stripRight, String.toList_ofList, trimRight, List.mem_reverse] at h
  exact List.mem_reverse.1 ((List.dropWhile_sublist _).subset h)

end Text

namespace SignTool

open Text

/-- The name that a script's directive refers to a tool by, and the parameters after it. -/
def referred? (t : SignTool) : Option (String × String) :=
  (t.directives.head?.bind (after? "SignTool=")).map (cutAt ' ')

/-- The name that an argument of the compiler defines, and the command that it stands for. -/
def defined? (t : SignTool) : Option (String × String) :=
  (after? "/S" t.compilerArgument).map (cutAt '=')

/-- Whether the script refers to the tool that the compiler is told of, with its parameters. -/
def Agrees (t : SignTool) : Prop :=
  ∃ name, name ≠ "" ∧ t.referred? = some (name, stripRight t.params) ∧
    t.defined? = some (name, t.command)

/-- Whether a tool's name is read back in both places. -/
structure Nameable (t : SignTool) : Prop where
  ne_empty : t.name ≠ ""
  noSpace : ' ' ∉ t.name.toList
  noEquals : '=' ∉ t.name.toList
  kept : stripRight t.params = "" → stripRight t.name = t.name

variable {option : Value} {o : SignToolOverrides} {t : SignTool}

theorem referred?_eq (t : SignTool) :
    t.referred? = some (cutAt ' ' (stripRight (t.name ++ " " ++ t.params))) := by
  rw [referred?, Script.directives_eq, List.head?_cons, Option.bind_some, after?_append,
    Option.map_some]

theorem defined?_eq (t : SignTool) :
    t.defined? = some (cutAt '=' (t.name ++ "=" ++ t.command)) := by
  rw [defined?, compilerArgument, String.append_assoc, String.append_assoc, after?_append,
    Option.map_some, String.append_assoc]

/-- The directive without parameters is the name alone, and the space before them goes too. -/
theorem stripRight_directive (t : SignTool) : stripRight (t.name ++ " " ++ t.params) =
    if stripRight t.params = "" then stripRight t.name
    else t.name ++ " " ++ stripRight t.params := by
  rw [stripRight_append, stripRight_append]
  rfl

theorem Nameable.referred?_eq (h : t.Nameable) :
    t.referred? = some (t.name, stripRight t.params) := by
  rw [SignTool.referred?_eq, stripRight_directive]
  split
  · rename_i hparams
    rw [h.kept hparams, cutAt_eq_self h.noSpace, hparams]
  · exact congrArg some (cutAt_append h.noSpace _)

theorem defined?_eq_some_iff {name : String} :
    t.defined? = some (name, t.command) ↔ name = t.name ∧ '=' ∉ t.name.toList := by
  rw [defined?_eq, Option.some.injEq]
  exact cutAt_append_eq_iff

theorem agrees_iff : t.Agrees ↔ t.Nameable := by
  constructor
  · rintro ⟨name, hne, href, hdef⟩
    obtain ⟨rfl, hequals⟩ := defined?_eq_some_iff.1 hdef
    rw [referred?_eq, Option.some.injEq] at href
    have hspace : ' ' ∉ t.name.toList := by
      have h := notMem_cutAt ' ' (stripRight (t.name ++ " " ++ t.params))
      rwa [href] at h
    refine ⟨hne, hspace, hequals, fun hparams => ?_⟩
    have hkept : ' ' ∉ (stripRight t.name).toList := fun h => hspace (mem_of_mem_stripRight h)
    rw [stripRight_directive, if_pos hparams, cutAt_eq_self hkept] at href
    exact (Prod.mk.inj href).1
  · intro h
    exact ⟨t.name, h.ne_empty, h.referred?_eq, defined?_eq_some_iff.2 ⟨rfl, h.noEquals⟩⟩

theorem nameable_of_default (h : t.name = defaultName) : t.Nameable := by
  refine ⟨?_, ?_, ?_, fun _ => ?_⟩
  all_goals
    rw [h]
    decide

theorem madeFrom_of_build (hcheck : check option o = .ok ()) (hbuild : build option o = some t) :
    MadeFrom option o t := by
  obtain ⟨r, hparts, -, hmade⟩ := parts_eq_ok hcheck
  cases r with
  | none =>
    rw [build, hparts] at hbuild
    contradiction
  | some u =>
    rw [build, hparts] at hbuild
    obtain rfl := Option.some.inj hbuild
    exact hmade u rfl

/-- The script and the compiler agree on a tool just where its name can be read back in both, as
the name can that a tool has by default. -/
theorem build_agrees_iff (hcheck : check option o = .ok ()) (hbuild : build option o = some t) :
    (t.Agrees ↔ t.Nameable) ∧
    (o.name = none → (∀ s, s ≠ "" → valueAt? option "name" ≠ some (.text s)) → t.Agrees) := by
  refine ⟨agrees_iff, fun hname hentry => agrees_iff.2 (nameable_of_default ?_)⟩
  cases (madeFrom_of_build hcheck hbuild).name with
  | override h =>
    rw [hname] at h
    contradiction
  | entry _ hvalue hs => exact absurd hvalue (hentry _ hs)
  | default _ _ hs => exact hs

/-- A command alone is signed with under the default name. -/
theorem build_agrees_iff_command :
    let t : SignTool := ⟨"InnoBundleTool", "sign $f", "", 2, 500⟩
    check (.text "sign $f") .none = .ok () ∧ build (.text "sign $f") .none = some t ∧
      (t.Agrees ↔ t.Nameable) ∧ t.Agrees := by
  intro t
  have hcheck : check (.text "sign $f") .none = .ok () := rfl
  have hbuild : build (.text "sign $f") .none = some t := rfl
  obtain ⟨hiff, hdefault⟩ := build_agrees_iff hcheck hbuild
  refine ⟨hcheck, hbuild, hiff, hdefault rfl fun s _ h => ?_⟩
  simp [valueAt?] at h

/-- A name with a space in it is cut short in the script: the compiler is told of another. -/
theorem build_disagrees_on_space :
    let option := Value.map [(.text "name", .text "My Tool"), (.text "command", .text "sign $f")]
    check option .none = .ok () ∧ ∃ t, build option .none = some t ∧
      t.referred? = some ("My", "Tool") ∧ t.defined? = some ("My Tool", "sign $f") ∧
      ¬ t.Agrees := by
  refine ⟨rfl, ⟨"My Tool", "sign $f", "", 2, 500⟩, rfl, by decide, by decide, ?_⟩
  rw [agrees_iff]
  exact fun h => absurd h.noSpace (by decide)

end SignTool

end SetupScript
