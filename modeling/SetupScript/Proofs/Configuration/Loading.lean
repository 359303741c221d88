import Mathlib.Tactic.ByContra
import SetupScript.Descriptor
import SetupScript.Proofs.Configuration.FirstFault

/-!
# What loading can fail with

Resolving meets the first trouble of a descriptor, whatever the disk is. With what can go wrong
before there is a descriptor this gives all `Escape`s: the ways to fail with something that is no
refusal. `loadConfiguration_told_iff` says that there are no others.
-/

namespace SetupScript

open Resolve

/-- The directory that relative paths start from. -/
def dirOf (d : Disk) (p : Path) (projectDir : Option Path) : Except DiskError Path :=
  match projectDir with
  | some dir => .ok dir
  | none => (d.resolve p).map Path.parent

def rootOf (d : Disk) (p : Path) (projectDir : Option Path) : Except DiskError Path :=
  dirOf d p projectDir >>= d.resolve

/-- The ways in which loading can fail with something other than a refusal. -/
inductive Escape (d : Disk) (p : Path) (o : Overrides) (projectDir : Option Path) : Prop
  | unnameable (h : p.isNameable = false)
  | unloadable {bytes : ByteArray} {e : Defect} (hread : d.read p = .ok bytes)
      (hload : Yaml.load bytes = .error e) (he : ∀ detail, e ≠ .invalidYaml detail)
  | rootless {v : Value} {e : DiskError} (hread : readDescriptor p d = .ok v)
      (hroot : rootOf d p projectDir = .error e)
  | tooLong {v : Value} {root path : Path} (hread : readDescriptor p d = .ok v)
      (hroot : rootOf d p projectDir = .ok root)
      (h : firstFault (troubles d root v o) = some (.tooLong path))
  | unwritable {v : Value} {root : Path} {r : Refusal} (hread : readDescriptor p d = .ok v)
      (hroot : rootOf d p projectDir = .ok root)
      (h : firstFault (troubles d root v o) = some (.finding r))
      (hr : r.shown?.all Value.isWritable = false)

section Loading

variable {p : Path} {o : Overrides} {projectDir : Option Path} {s : Session}

theorem loadConfiguration_of_error {f : Failure} (h : readDescriptor p s.disk = .error f) :
    (loadConfiguration p o projectDir s).1 = .error (explainReading p f) := by
  have hread : Work.ofExcept ((readDescriptor p s.disk).mapError (explainReading p)) s =
      (.error (explainReading p f), s) := by
    rw [h]
    rfl
  unfold loadConfiguration
  rw [Work.bind_of_ok (Work.get_eq s), Work.bind_of_error hread]

theorem resolveNoting_fst (v : Value) (dir : Path) :
    (resolveNoting v o dir s).1 = resolve s.disk v o dir := by
  unfold resolveNoting
  rw [Work.bind_of_ok (Work.get_eq s)]
  cases missingLicense s.disk v o dir with
  | none => rfl
  | some license => rfl

theorem loadConfiguration_eq {v : Value} (h : readDescriptor p s.disk = .ok v) :
    (loadConfiguration p o projectDir s).1 =
      inquire (dirOf s.disk p projectDir) >>= resolve s.disk v o := by
  have hread : Work.ofExcept ((readDescriptor p s.disk).mapError (explainReading p)) s =
      (.ok v, s) := by
    rw [h]
    rfl
  unfold loadConfiguration
  rw [Work.bind_of_ok (Work.get_eq s), Work.bind_of_ok hread]
  cases projectDir with
  | some dir => exact resolveNoting_fst v dir
  | none =>
    have hask : (Work.ask fun d => d.resolve p) s = ((s.disk.resolve p).mapError .disk, s) := rfl
    simp only [map_eq_pure_bind, bind_assoc, pure_bind]
    cases hresolve : s.disk.resolve p with
    | error e =>
      rw [hresolve] at hask
      rw [Work.bind_of_error hask, dirOf, hresolve]
      rfl
    | ok file =>
      rw [hresolve] at hask
      rw [Work.bind_of_ok hask, dirOf, hresolve]
      exact resolveNoting_fst v file.parent

variable (o projectDir) in
theorem loadConfiguration_of_read {v : Value} (h : readDescriptor p s.disk = .ok v) :
    match rootOf s.disk p projectDir with
    | .error e => (loadConfiguration p o projectDir s).1 = .error (.disk e)
    | .ok root => Meets (loadConfiguration p o projectDir s).1 (troubles s.disk root v o) := by
  rw [loadConfiguration_eq h, rootOf]
  cases dirOf s.disk p projectDir with
  | error e => rfl
  | ok dir =>
    change match s.disk.resolve dir with
      | .error e => resolve s.disk v o dir = .error (.disk e)
      | .ok root => Meets (resolve s.disk v o dir) (troubles s.disk root v o)
    cases hroot : s.disk.resolve dir with
    | error e =>
      rw [resolve, front, hroot]
      rfl
    | ok root => exact resolve_meets hroot

theorem escape_of_reading {d : Disk} {f : Failure} (hread : readDescriptor p d = .error f)
    (hf : ∀ r, explainReading p f ≠ .refusal r) : Escape d p o projectDir := by
  unfold readDescriptor at hread
  split at hread
  · rename_i e hbytes
    obtain rfl := Except.error.inj hread
    rcases Disk.read_eq_error hbytes with ⟨hname, -⟩ | ⟨code, rfl⟩
    · exact .unnameable hname
    · exact absurd rfl (hf _)
  · rename_i bytes hbytes
    split at hread
    · rename_i e hload
      obtain rfl := Except.error.inj hread
      refine .unloadable hbytes hload ?_
      rintro detail rfl
      exact hf _ rfl
    · contradiction

theorem escape_of_failure {f : Failure} (h : (loadConfiguration p o projectDir s).1 = .error f)
    (hf : ∀ r, f ≠ .refusal r) : Escape s.disk p o projectDir := by
  cases hread : readDescriptor p s.disk with
  | error e =>
    rw [loadConfiguration_of_error hread, Except.error.injEq] at h
    exact escape_of_reading hread fun r => h ▸ hf r
  | ok v =>
    have hload := loadConfiguration_of_read o projectDir hread
    cases hroot : rootOf s.disk p projectDir with
    | error e => exact .rootless hread hroot
    | ok root =>
      rw [hroot] at hload
      simp only [Meets, Follows, h] at hload
      cases ht : firstFault (troubles s.disk root v o) with
      | none =>
        rw [ht] at hload
        obtain ⟨c, hc⟩ := hload
        contradiction
      | some t =>
        rw [ht] at hload
        cases t with
        | tooLong path => exact .tooLong hread hroot ht
        | finding r =>
          refine .unwritable hread hroot ht ?_
          by_contra hwritable
          rw [Bool.not_eq_false] at hwritable
          refine hf r ?_
          rw [Except.error.inj hload, Trouble.failure, Failure.ofRefusal, if_pos hwritable]

theorem ne_refusal_of_disk {e : DiskError} (r : Refusal) : Failure.disk e ≠ .refusal r :=
  Failure.noConfusion

theorem Escape.failure (h : Escape s.disk p o projectDir) :
    ∃ f, (loadConfiguration p o projectDir s).1 = .error f ∧ ∀ r, f ≠ .refusal r := by
  have hmet : ∀ {v : Value} {root : Path} {t : Trouble}, readDescriptor p s.disk = .ok v →
      rootOf s.disk p projectDir = .ok root →
      firstFault (troubles s.disk root v o) = some t →
        (loadConfiguration p o projectDir s).1 = .error t.failure := by
    intro v root t hread hroot ht
    have hload := loadConfiguration_of_read o projectDir hread
    rw [hroot] at hload
    simpa only [Meets, Follows, ht] using hload
  cases h with
  | unnameable hname =>
    have hread : readDescriptor p s.disk = .error (.disk .unnameable) := by
      rw [readDescriptor, Disk.read_of_not_isNameable hname]
    exact ⟨_, loadConfiguration_of_error hread, ne_refusal_of_disk⟩
  | @unloadable bytes e hread hload he =>
    have hfailed : readDescriptor p s.disk = .error (.defect e) := by
      simp only [readDescriptor, hread, hload]
    refine ⟨_, loadConfiguration_of_error hfailed, fun r hr => ?_⟩
    unfold explainReading at hr
    split at hr
    · contradiction
    · rename_i detail heq
      exact he detail (Failure.defect.inj heq)
    · contradiction
  | rootless hread hroot =>
    have hload := loadConfiguration_of_read o projectDir hread
    rw [hroot] at hload
    exact ⟨_, hload, ne_refusal_of_disk⟩
  | tooLong hread hroot ht => exact ⟨_, hmet hread hroot ht, ne_refusal_of_disk⟩
  | unwritable hread hroot ht hr =>
    refine ⟨_, hmet hread hroot ht, fun r h => ?_⟩
    simp [Trouble.failure, Failure.ofRefusal, hr] at h

theorem told?_eq_configurationError {f : Failure} {message : String} :
    f.told? = some ⟨"ConfigurationError", message⟩ ↔ ∃ r, f = .refusal r ∧ r.message = message := by
  cases f <;> simp [Failure.told?]

end Loading

/-- Loading gives a configuration or fails with an error that names the descriptor's fault, unless
one of the escapes is taken. -/
theorem loadConfiguration_told_iff (p : Path) (o : Overrides) (projectDir : Option Path)
    (s : Session) :
    ((∃ c, (loadConfiguration p o projectDir s).1 = .ok c) ∨
      ∃ f message, (loadConfiguration p o projectDir s).1 = .error f ∧
        f.told? = some ⟨"ConfigurationError", message⟩) ↔
    ¬ Escape s.disk p o projectDir := by
  constructor
  · intro h escape
    obtain ⟨f, hf, hrefusal⟩ := escape.failure
    rcases h with ⟨c, hc⟩ | ⟨f', message, hf', htold⟩
    · rw [hf] at hc
      contradiction
    · obtain ⟨r, rfl, -⟩ := told?_eq_configurationError.1 htold
      exact hrefusal r (Except.error.inj (hf.symm.trans hf'))
  · intro h
    cases hload : (loadConfiguration p o projectDir s).1 with
    | ok c => exact .inl ⟨c, rfl⟩
    | error f =>
      right
      by_contra hnot
      refine h (escape_of_failure hload fun r hr => hnot ⟨f, r.message, rfl, ?_⟩)
      exact told?_eq_configurationError.2 ⟨r, hr, rfl⟩

/-- The only descriptor consists of a byte that begins no character. -/
def undecodableSession : Session :=
  .begin ⟨FileTree.empty.put ["pubspec.yaml"] (.file ⟨#[0xff]⟩), []⟩ ⟨.root, []⟩ "now"

theorem loadConfiguration_undecodable :
    (loadConfiguration ⟨.root, ["pubspec.yaml"]⟩ .default none undecodableSession).1 =
        .error (.defect .undecodable) ∧
      (Failure.defect .undecodable).told? = none := by
  have hread : readDescriptor ⟨.root, ["pubspec.yaml"]⟩ undecodableSession.disk =
      .error (.defect .undecodable) := rfl
  exact ⟨loadConfiguration_of_error hread, rfl⟩

end SetupScript
