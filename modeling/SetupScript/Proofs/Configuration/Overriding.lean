import Mathlib.Tactic.SplitIfs
import SetupScript.Proofs.Configuration.FirstFault

/-!
# What overrides reach

Up to the license file only the version is read from the command line (`front_congr`), and after it
the sign tool and the four values that are copied. So the copied values change nothing but
themselves (`finish_copied`), a version in the place of a readable one changes the version alone
(`resolve_appVersion`), and sign tool overrides change the tool or are refused by its check
(`finish_signTool`).
-/

namespace SetupScript

namespace Resolve

variable {d : Disk} {v : Value} {o o' : Overrides} {dir : Path} {f : Front} {c : Configuration}

theorem map_bind {ε α β γ : Type} (x : Except ε α) (f : α → Except ε β) (g : β → γ) :
    (x >>= f).map g = x >>= fun a => (f a).map g := by
  cases x with
  | error e => rfl
  | ok a => rfl

theorem front_congr (h : o.appVersion = o'.appVersion) (d : Disk) (v : Value) (dir : Path) :
    front d v o dir = front d v o' dir := by
  unfold front texts version
  rw [h]

/-- The values that are copied from the command line. -/
def withCopied (variant : Variant) (app installer : Bool) (buildArgs : Option String)
    (c : Configuration) : Configuration :=
  { c with variant, app, installer, buildArgs }

theorem finish_copied (f : Front) (o : Overrides) (variant : Variant) (app installer : Bool)
    (buildArgs : Option String) :
    finish f { o with variant, app, installer, buildArgs } =
      (finish f o).map (withCopied variant app installer buildArgs) := by
  simp only [finish, map_bind]
  rfl

theorem refuse_map {α β : Type} (x : Except Refusal α) (g : α → β) :
    refuse (x.map g) = (refuse x).map g := by
  cases x with
  | error r => rfl
  | ok a => rfl

theorem resolve_copied (d : Disk) (v : Value) (o : Overrides) (dir : Path) (variant : Variant)
    (app installer : Bool) (buildArgs : Option String) :
    resolve d v { o with variant, app, installer, buildArgs } dir =
      (resolve d v o dir).map (withCopied variant app installer buildArgs) := by
  have hfront : front d v { o with variant, app, installer, buildArgs } dir = front d v o dir :=
    front_congr rfl d v dir
  simp only [resolve, map_bind, hfront, finish_copied, refuse_map]

theorem front_appVersion (h : front d v o dir = .ok f) (s : String) :
    front d v { o with appVersion := .text s } dir =
      .ok { f with texts := { f.texts with version := s } } := by
  obtain ⟨root, outer, name, hroot, hblocks, htexts, hrest⟩ := front_eq_ok.1 h
  obtain ⟨hid, hdeclared, hname, -, htexts⟩ := texts_eq_ok.1 htexts
  exact front_eq_ok.2 ⟨root, outer, name, hroot, hblocks,
    texts_eq_ok.2 ⟨hid, hdeclared, hname, rfl, htexts⟩, hrest⟩

theorem resolve_appVersion (h : resolve d v o dir = .ok c) (s : String) :
    resolve d v { o with appVersion := .text s } dir = .ok { c with version := s } := by
  obtain ⟨f, hfront, hfinish⟩ := resolve_eq_ok.1 h
  obtain ⟨htool, harch, hargs, hsilent, hsargs, hcode, hc⟩ := finish_eq_ok.1 hfinish
  refine resolve_eq_ok.2 ⟨_, front_appVersion hfront s,
    finish_eq_ok.2 ⟨htool, harch, hargs, hsilent, hsargs, hcode, ?_⟩⟩
  exact congrArg (fun c : Configuration => { c with version := s }) hc

theorem signTool_eq_ok {block : Fields} {t : Option SignTool} : signTool o block = .ok t ↔
    SignTool.check (block.field "sign_tool") o.signTool = .ok () ∧
      SignTool.build (block.field "sign_tool") o.signTool = t := by
  simp only [signTool, unit_bind_eq_ok, pure_eq_ok]

/-- Nothing after the sign tool depends on it. -/
theorem finish_signTool {t : Option SignTool} {x : SignToolOverrides}
    (h : signTool { o with signTool := x } f.block = .ok t) (hfinish : finish f o = .ok c) :
    finish f { o with signTool := x } = .ok { c with signTool := t } := by
  obtain ⟨-, harch, hargs, hsilent, hsargs, hcode, hc⟩ := finish_eq_ok.1 hfinish
  refine finish_eq_ok.2 ⟨h, harch, hargs, hsilent, hsargs, hcode, ?_⟩
  exact congrArg (fun c : Configuration => { c with signTool := t }) hc

theorem shown?_of_signToolTextCheck {fs : Fields} {key : String} {r : Refusal}
    (h : signToolTextCheck fs key = some r) : r.shown? = none := by
  unfold signToolTextCheck textCheck at h
  split at h
  · contradiction
  · contradiction
  · obtain rfl := Option.some.inj h
    rfl

theorem shown?_of_signToolNumberCheck {fs : Fields} {key : String} {r : Refusal}
    (h : signToolNumberCheck fs key = some r) : r.shown? = none := by
  unfold signToolNumberCheck require at h
  simp only at h
  split at h
  · contradiction
  · split at h
    · contradiction
    · obtain rfl := Option.some.inj h
      rfl
  · obtain rfl := Option.some.inj h
    rfl

/-- A refusal of a sign tool shows no value. -/
theorem shown?_of_check {option : Value} {x : SignToolOverrides} {r : Refusal}
    (h : SignTool.check option x = .error r) : r.shown? = none := by
  have hfault : firstFault (signToolChecks option x) = some r := by
    have hfollows := check_follows option x
    rw [Follows, h] at hfollows
    cases hfirst : firstFault (signToolChecks option x) with
    | none => simp [hfirst] at hfollows
    | some r' =>
      simp only [hfirst, Except.error.injEq, id] at hfollows
      rw [hfollows]
  obtain ⟨check, hmem, hcheck⟩ := List.exists_of_findSome?_eq_some hfault
  have hrequire : ∀ {rule : Bool} {r' : Refusal}, require rule r' = some r → r = r' := by
    intro rule r' hrule
    cases rule with
    | true => contradiction
    | false => exact (Option.some.inj hrule).symm
  simp only [signToolChecks] at hmem
  split_ifs at hmem
  · contradiction
  · simp only [List.mem_cons, List.not_mem_nil, or_false] at hmem
    rcases hmem with rfl | rfl | rfl | rfl | rfl | rfl | rfl
    · rw [hrequire hcheck]
      rfl
    · exact shown?_of_signToolTextCheck hcheck
    · exact shown?_of_signToolTextCheck hcheck
    · exact shown?_of_signToolTextCheck hcheck
    · exact shown?_of_signToolNumberCheck hcheck
    · exact shown?_of_signToolNumberCheck hcheck
    · rw [hrequire hcheck]
      rfl

/-- Where one of two sign tool overrides is resolved and the other is not, its check refuses it. -/
theorem resolve_signTool (h : resolve d v o dir = .ok c) (x : SignToolOverrides) :
    (∃ t, resolve d v { o with signTool := x } dir = .ok { c with signTool := t }) ∨
      ∃ r, SignTool.check ((blockOf v).field "sign_tool") x = .error r ∧
        resolve d v { o with signTool := x } dir = .error (.refusal r) := by
  obtain ⟨f, hfront, hfinish⟩ := resolve_eq_ok.1 h
  have hfront' : front d v { o with signTool := x } dir = .ok f :=
    (front_congr rfl d v dir).trans hfront
  obtain ⟨-, outer, -, -, hblocks, -⟩ := front_eq_ok.1 hfront
  have hblock := (blocksOf_eq_ok hblocks).2
  rw [← hblock]
  cases hcheck : SignTool.check (f.block.field "sign_tool") x with
  | ok _ =>
    have htool : signTool { o with signTool := x } f.block =
        .ok (SignTool.build (f.block.field "sign_tool") x) := signTool_eq_ok.2 ⟨hcheck, rfl⟩
    exact .inl ⟨_, resolve_eq_ok.2 ⟨f, hfront', finish_signTool htool hfinish⟩⟩
  | error r =>
    refine .inr ⟨r, rfl, ?_⟩
    have hrefused : finish f { o with signTool := x } = .error r := by
      rw [finish, signTool, hcheck]
      rfl
    have htold : Failure.ofRefusal r = .refusal r := by
      simp [Failure.ofRefusal, shown?_of_check hcheck]
    rw [resolve, hfront']
    change refuse (finish f { o with signTool := x }) = _
    rw [hrefused, ← htold]
    rfl

end Resolve

open Resolve

/-- Overrides change what they are for and nothing else. Those that are copied do so whatever else
is wrong; a version in the place of a readable one is taken over; sign tool overrides change the
tool, and where only one of two is resolved, the other is refused by the check of sign tools. -/
theorem resolve_overrides (d : Disk) (v : Value) (o : Overrides) (dir : Path) :
    (∀ variant app installer buildArgs,
      resolve d v { o with variant, app, installer, buildArgs } dir =
        (resolve d v o dir).map fun c => { c with variant, app, installer, buildArgs }) ∧
    (∀ c, o.appVersion = .null → resolve d v o dir = .ok c → ∀ s,
      resolve d v { o with appVersion := .text s } dir = .ok { c with version := s }) ∧
    ∀ c x, resolve d v o dir = .ok c →
      (∀ c', resolve d v { o with signTool := x } dir = .ok c' →
        c' = { c with signTool := c'.signTool }) ∧
      ∀ e, resolve d v { o with signTool := x } dir = .error e →
        ∃ r, SignTool.check ((blockOf v).field "sign_tool") x = .error r ∧ e = .refusal r ∧
          e.told? = some ⟨"ConfigurationError", r.message⟩ := by
  refine ⟨resolve_copied d v o dir, fun c _ h s => resolve_appVersion h s, ?_⟩
  intro c x h
  rcases resolve_signTool h x with ⟨t, ht⟩ | ⟨r, hcheck, hr⟩
  · rw [ht]
    refine ⟨fun c' hc' => ?_, fun e he => by contradiction⟩
    obtain rfl := Except.ok.inj hc'
    rfl
  · rw [hr]
    refine ⟨fun c' hc' => by contradiction, fun e he => ?_⟩
    obtain rfl := Except.error.inj he
    exact ⟨r, hcheck, rfl, by simp only [Failure.told?]⟩

def unsignedDescriptor : Value :=
  .map [(.text "name", .text "tool"), (.text "version", .text "1"), (.text "description", .text ""),
    (.text "maintainer", .text ""),
    (.text "inno_bundle", .map [(.text "id", .text "f887d5f0-4690-1e07-8efc-d16ea7711bfb")])]

theorem resolve_overrides_unsigned : ∃ c,
    resolve ⟨.empty, []⟩ unsignedDescriptor .default ⟨.root, []⟩ = .ok c ∧
    resolve ⟨.empty, []⟩ unsignedDescriptor
        ⟨.release, false, true, some "--dart-define=a=b", .null, .none⟩ ⟨.root, []⟩ =
      .ok { c with
        variant := .release, app := false, installer := true,
        buildArgs := some "--dart-define=a=b" } ∧
    resolve ⟨.empty, []⟩ unsignedDescriptor { Overrides.default with appVersion := .text "" }
      ⟨.root, []⟩ = .ok { c with version := "" } ∧
    (∃ c', resolve ⟨.empty, []⟩ unsignedDescriptor
        { Overrides.default with signTool := ⟨none, some "sign $f", none⟩ } ⟨.root, []⟩ = .ok c' ∧
      c' = { c with signTool := c'.signTool }) ∧
    ∃ e, resolve ⟨.empty, []⟩ unsignedDescriptor
        { Overrides.default with signTool := ⟨some "", none, none⟩ } ⟨.root, []⟩ = .error e ∧
      e.told? = some ⟨"ConfigurationError", Refusal.signToolEmpty.message⟩ := by
  have hall := resolve_overrides ⟨.empty, []⟩ unsignedDescriptor .default ⟨.root, []⟩
  obtain ⟨hcopied, hversion, htool⟩ := hall
  have h : ∃ c, resolve ⟨.empty, []⟩ unsignedDescriptor .default ⟨.root, []⟩ = .ok c := ⟨_, rfl⟩
  obtain ⟨c, hc⟩ := h
  refine ⟨c, hc, ?_, hversion c rfl hc "", ?_, ?_⟩
  · have hrun := hcopied .release false true (some "--dart-define=a=b")
    rw [hc] at hrun
    exact hrun
  · have hsigned : ∃ c', resolve ⟨.empty, []⟩ unsignedDescriptor
        { Overrides.default with signTool := ⟨none, some "sign $f", none⟩ } ⟨.root, []⟩ = .ok c' :=
      ⟨_, rfl⟩
    obtain ⟨c', hc'⟩ := hsigned
    exact ⟨c', hc', (htool c _ hc).1 c' hc'⟩
  · have hunnamed : ∃ e, resolve ⟨.empty, []⟩ unsignedDescriptor
        { Overrides.default with signTool := ⟨some "", none, none⟩ } ⟨.root, []⟩ = .error e :=
      ⟨_, rfl⟩
    obtain ⟨e, he⟩ := hunnamed
    obtain ⟨r, hcheck, -, htold⟩ := (htool c _ hc).2 e he
    obtain rfl : Refusal.signToolEmpty = r := Except.error.inj hcheck
    exact ⟨e, he, htold⟩

end SetupScript
