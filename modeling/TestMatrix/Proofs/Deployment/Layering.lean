import Mathlib.Logic.ExistsUnique
import TestMatrix.Proofs.Deployment.Course
import TestMatrix.Proofs.Discovery.Naming
import TestMatrix.Proofs.Results
namespace TestMatrix

open Text

section Over

variable {α : Type} {above : Option α} {below other value : α}

def Over (above : Option α) (below value : α) : Prop :=
  (∀ a, above = some a → value = a) ∧ (above = none → value = below)

theorem over_iff : Over above below value ↔ value = above.getD below := by
  cases above <;> simp [Over]

theorem getD_congr (h : above = none → below = other) : above.getD below = above.getD other := by
  cases above with
  | none => exact h rfl
  | some a => rfl

end Over

variable {w : Workspace} {config : Option Path} {file : Path} {o : Overrides}
  {base other s : Settings} {failure : Failure}

/-- The settings agree on all that the overrides leave open. -/
structure Overrides.Alike (o : Overrides) (base other : Settings) : Prop where
  output : o.output = none → base.output = other.output
  pretty : o.pretty = false → base.pretty = other.pretty
  extension : o.extension = none → base.convention.extension = other.convention.extension
  testMarker : o.testMarker = none → base.convention.testMarker = other.convention.testMarker
  targetMarker :
    o.targetMarker = none → base.convention.targetMarker = other.convention.targetMarker

namespace Settings

/-- `s` has the overrides laid over `base`, field by field. -/
structure Layered (base : Settings) (o : Overrides) (s : Settings) : Prop where
  output : Over o.output base.output s.output
  pretty : s.pretty = true ↔ base.pretty = true ∨ o.pretty = true
  extension : Over o.extension base.convention.extension s.convention.extension
  testMarker : Over o.testMarker base.convention.testMarker s.convention.testMarker
  targetMarker : Over o.targetMarker base.convention.targetMarker s.convention.targetMarker

theorem layered_iff : Layered base o s ↔ s = base.override o := by
  constructor
  · intro h
    obtain ⟨output, pretty, extension, testMarker, targetMarker⟩ := h
    obtain ⟨_, _, _, _, _⟩ := s
    rw [over_iff] at output extension testMarker targetMarker
    rw [← Bool.or_eq_true, Bool.coe_iff_coe] at pretty
    dsimp only at output pretty extension testMarker targetMarker
    subst output pretty extension testMarker targetMarker
    rfl
  · rintro rfl
    exact ⟨over_iff.2 rfl, by simp [override], over_iff.2 rfl, over_iff.2 rfl, over_iff.2 rfl⟩

theorem override_congr (h : o.Alike base other) : base.override o = other.override o := by
  have pretty : (base.pretty || o.pretty) = (other.pretty || o.pretty) := by
    cases hp : o.pretty with
    | true => simp
    | false => rw [h.pretty hp]
  simp only [override, getD_congr h.output, pretty, getD_congr h.extension,
    getD_congr h.testMarker, getD_congr h.targetMarker]

/-- The settings beneath the overrides are those that the file holds or, without a file, the
defaults. -/
def Beneath (w : Workspace) (config : Option Path) (base : Settings) : Prop :=
  match config with
  | none => base = {}
  | some file => (load file).eval w = (.ok base, w)

theorem beneath_of_fst (h : ((load file).eval w).1 = .ok base) : Beneath w (some file) base := by
  rw [Beneath, (load_reads file).eval_eq, h]

theorem beneath_or_error (w : Workspace) (config : Option Path) :
    (∃ base, Beneath w config base) ∨
      ∃ file failure, config = some file ∧ (load file).eval w = (.error failure, w) := by
  cases config with
  | none => exact .inl ⟨{}, rfl⟩
  | some file =>
    cases hl : ((load file).eval w).1 with
    | ok base => exact .inl ⟨base, beneath_of_fst hl⟩
    | error failure => exact .inr ⟨file, failure, rfl, by rw [(load_reads file).eval_eq, hl]⟩

/-- A file that does not load has faults of its own; what it says is not checked before the overrides
are laid over it. -/
theorem load_failure (h : (load file).eval w = (.error failure, w)) (fault : Fault) :
    failure ≠ .invalidSettings fault := by
  rintro rfl
  rw [load, Script.eval_read_bind] at h
  cases hr : w.read file with
  | error e =>
    rw [hr] at h
    cases h
  | ok content =>
    rw [hr] at h
    dsimp only at h
    split at h
    · cases h
    · next text _ =>
      split at h
      · cases h
      · rw [Script.eval_orFail] at h
        cases ht : ofText text <;> rw [ht] at h <;> cases h

/-- The check comes last, and what it is about is the two layers as one. -/
theorem resolve_eval (h : Beneath w config base) : (resolve config o).eval w =
    match (base.override o).fault? with
    | some fault => (.error (.invalidSettings fault), w)
    | none => (.ok (base.override o), w) := by
  have checked : (resolve config o).eval w =
      (match (base.override o).fault? with
        | some fault => Script.fail (.invalidSettings fault)
        | none => do
          Script.tell (.resolved (base.override o))
          return base.override o).eval w := by
    cases config with
    | none =>
      cases h
      rfl
    | some file =>
      rw [resolve]
      exact Script.eval_tell_bind.trans (Script.eval_bind_ok h)
  rw [checked]
  cases (base.override o).fault? <;> rfl

theorem resolve_eq_ok_iff : (resolve config o).eval w = (.ok s, w) ↔
    ∃ base, Beneath w config base ∧ Layered base o s ∧ s.fault? = none := by
  simp only [layered_iff]
  constructor
  · intro h
    rcases beneath_or_error w config with ⟨base, beneath⟩ | ⟨file, failure, rfl, refused⟩
    · rw [resolve_eval beneath] at h
      split at h
      · cases h
      · next valid =>
        cases h
        exact ⟨base, beneath, rfl, valid⟩
    · rw [resolve_eval_error refused] at h
      cases h
  · intro h
    obtain ⟨base, beneath, rfl, valid⟩ := h
    rw [resolve_eval beneath, valid]

theorem resolve_eq_invalid_iff {fault : Fault} :
    (resolve config o).eval w = (.error (.invalidSettings fault), w) ↔
      ∃ base s, Beneath w config base ∧ Layered base o s ∧ s.fault? = some fault := by
  simp only [layered_iff]
  constructor
  · intro h
    rcases beneath_or_error w config with ⟨base, beneath⟩ | ⟨file, failure, rfl, refused⟩
    · rw [resolve_eval beneath] at h
      split at h
      · next invalid =>
        cases h
        exact ⟨base, _, beneath, rfl, invalid⟩
      · cases h
    · rw [resolve_eval_error refused] at h
      cases h
      exact absurd rfl (load_failure refused fault)
  · intro h
    obtain ⟨base, s, beneath, rfl, invalid⟩ := h
    rw [resolve_eval beneath, invalid]

theorem fault?_of_markers (h : s.convention.testMarker = s.convention.targetMarker) :
    ∃ fault, s.fault? = some fault := by
  have invalid : s.convention.fault? ≠ none := by
    intro valid
    exact (Convention.fault?_eq_none_iff.1 valid).2.2.2 h
  obtain ⟨fault, hf⟩ := Option.ne_none_iff_exists'.1 invalid
  rw [fault?, hf]
  split
  · exact ⟨_, rfl⟩
  · exact ⟨_, rfl⟩

/-- Settings are resolved exactly if the file loads and what comes of laying the overrides over it is
valid. Nothing that is overridden counts, and each layer being valid is not enough. -/
theorem resolve_layered (w : Workspace) (config : Option Path) (o : Overrides) :
    (∀ base, ∃! s, Layered base o s) ∧
    (∀ s, (resolve config o).eval w = (.ok s, w) ↔
      ∃ base, Beneath w config base ∧ Layered base o s ∧ s.fault? = none) ∧
    (∀ fault, (resolve config o).eval w = (.error (.invalidSettings fault), w) ↔
      ∃ base s, Beneath w config base ∧ Layered base o s ∧ s.fault? = some fault) ∧
    (∀ file failure, config = some file → (load file).eval w = (.error failure, w) →
      (resolve config o).eval w = (.error failure, w)) ∧
    (∀ w' config' base other, Beneath w config base → Beneath w' config' other →
      o.Alike base other → ((resolve config' o).eval w').1 = ((resolve config o).eval w).1) ∧
    ∀ base marker, Beneath w config base →
      Over o.testMarker base.convention.testMarker marker →
      Over o.targetMarker base.convention.targetMarker marker →
      ∃ fault, (resolve config o).eval w = (.error (.invalidSettings fault), w) := by
  refine ⟨fun base ↦ ?_, fun s ↦ resolve_eq_ok_iff, fun fault ↦ resolve_eq_invalid_iff, ?_, ?_, ?_⟩
  · simp only [layered_iff]
    exact ⟨_, rfl, fun _ h ↦ h⟩
  · rintro file failure rfl refused
    exact resolve_eval_error refused
  · intro w' config' base other beneath beneath' alike
    rw [resolve_eval beneath, resolve_eval beneath', override_congr alike]
    cases (other.override o).fault? <;> rfl
  · intro base marker beneath test target
    have same : (base.override o).convention.testMarker =
        (base.override o).convention.targetMarker :=
      (over_iff.1 test).symm.trans (over_iff.1 target)
    obtain ⟨fault, invalid⟩ := fault?_of_markers same
    exact ⟨fault, resolve_eq_invalid_iff.2 ⟨base, _, beneath, layered_iff.2 rfl, invalid⟩⟩

def checks : Workspace where
  tree :=
    { entries :=
        [([⟨Utf8.encode "a", by decide⟩],
            .file (Utf8.encode "convention:\n  test_marker: _check\n  extension: c\n")),
         ([⟨Utf8.encode "b", by decide⟩],
            .file (Utf8.encode "convention:\n  test_marker: _check\n"))]
      nodup := by decide }

/-- The extension that is none does no harm once it is overridden. The marker is good in its file, as
it is for targets on the command line, but not in both places at once. -/
theorem resolve_layered_checks :
    (resolve (some (.ofString "a")) { extension := some ".rs" }).eval checks =
      (.ok { convention := { extension := ".rs", testMarker := "_check" } }, checks) ∧
    ((resolve (some (.ofString "b")) { extension := some ".rs" }).eval checks).1 =
      ((resolve (some (.ofString "a")) { extension := some ".rs" }).eval checks).1 ∧
    (resolve (some (.ofString "b")) {}).eval checks =
      (.ok { convention := { testMarker := "_check" } }, checks) ∧
    (resolve none { targetMarker := some "_check" }).eval checks =
      (.ok { convention := { targetMarker := "_check" } }, checks) ∧
    ∃ fault, (resolve (some (.ofString "b")) { targetMarker := some "_check" }).eval checks =
      (.error (.invalidSettings fault), checks) := by
  have wrong : Beneath checks (some (.ofString "a"))
      { convention := { extension := "c", testMarker := "_check" } } :=
    beneath_of_fst (ok_of_toOption (by decide +kernel))
  have right : Beneath checks (some (.ofString "b")) { convention := { testMarker := "_check" } } :=
    beneath_of_fst (ok_of_toOption (by decide +kernel))
  have layered (base : Settings) (o : Overrides) : Layered base o (base.override o) :=
    layered_iff.2 rfl
  refine ⟨?_, ?_, ?_, ?_, ?_⟩
  · exact ((resolve_layered checks (some (.ofString "a")) { extension := some ".rs" }).2.1 _).2
      ⟨_, wrong, layered _ _, by decide⟩
  · refine (resolve_layered checks (some (.ofString "a")) { extension := some ".rs" }).2.2.2.2.1
      _ _ _ _ wrong right ⟨fun _ ↦ rfl, fun _ ↦ rfl, nofun, fun _ ↦ rfl, fun _ ↦ rfl⟩
  · exact ((resolve_layered checks (some (.ofString "b")) {}).2.1 _).2
      ⟨_, right, layered _ _, by decide⟩
  · exact ((resolve_layered checks none { targetMarker := some "_check" }).2.1 _).2
      ⟨_, rfl, layered _ _, by decide⟩
  · exact (resolve_layered checks (some (.ofString "b")) { targetMarker := some "_check" }).2.2.2.2.2
      _ "_check" right (over_iff.2 rfl) (over_iff.2 rfl)

end Settings

end TestMatrix
