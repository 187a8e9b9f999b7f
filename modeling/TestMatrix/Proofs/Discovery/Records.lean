import Mathlib.Data.List.Nodup
import TestMatrix.Proofs.Discovery.Placement
import TestMatrix.Proofs.Script.Notices
namespace TestMatrix

open Text

/-- A directory that does not begin with a slash keeps apart what is placed under it, be it inside it or
not. -/
theorem targetPath_injective {directory : String} (hn : directory ≠ "")
    (hd : directory.toList.head? ≠ some '/') : Function.Injective (targetPath directory) := by
  have inside (target : String) :
      (stem directory ++ target).toList.head? = directory.toList.head? := by
    obtain ⟨c, rest, hc⟩ := List.exists_cons_of_ne_nil (mt String.toList_eq_nil_iff.1 hn)
    rw [stem]
    split <;> simp [hc]
  have apart {target other : String} (ht : target.toList.head? = some '/') :
      target ≠ stem directory ++ other := by
    rintro rfl
    exact hd ((inside other).symm.trans ht)
  intro target other same
  rw [targetPath_eq hn, targetPath_eq hn] at same
  split at same
  · next absolute =>
    split at same
    · exact same
    · exact absurd same (apart absolute)
  · split at same
    · next absolute => exact absurd same.symm (apart absolute)
    · simpa using same

namespace Convention

variable {c : Convention} {directory filename target target' : String} {r r' : Record}

/-- The file is a test source for `target`, and `r` is its record. -/
structure Derives (c : Convention) (directory filename target : String) (r : Record) : Prop where
  filename_eq : filename = target ++ c.testMarker ++ c.extension
  name_eq : r.name = target ++ c.testMarker
  testName_eq : r.testName = target ++ c.targetMarker
  path_eq : Utf8.decode? ((Path.ofString directory).join (.ofString r.testName)).bytes = some r.path

namespace Derives

theorem target_unique (h : c.Derives directory filename target r)
    (h' : c.Derives directory filename target' r') : target = target' := by
  have same := h.filename_eq.symm.trans h'.filename_eq
  simpa using same

theorem of_recordOf (c : Convention) (directory target : String) :
    c.Derives directory (target ++ c.testMarker ++ c.extension) target
      (c.recordOf directory target) where
  filename_eq := rfl
  name_eq := rfl
  testName_eq := rfl
  path_eq := by
    rw [Utf8.decode?_eq_some_iff]
    exact (congrArg Path.bytes (ofString_targetPath directory (target ++ c.targetMarker))).symm

theorem eq_recordOf (h : c.Derives directory filename target r) :
    r = c.recordOf directory target := by
  have joined := (of_recordOf c directory target).path_eq
  obtain ⟨-, name_eq, testName_eq, path_eq⟩ := h
  obtain ⟨name, testName, path⟩ := r
  subst name_eq testName_eq
  cases path_eq.symm.trans joined
  rfl

end Derives

theorem record?_eq_some_iff_derives : c.record? directory filename = some r ↔
    ∃ target, c.Derives directory filename target r := by
  rw [record?_eq_some_iff]
  constructor
  · intro h
    obtain ⟨target, rfl, rfl⟩ := h
    have source := Derives.of_recordOf c directory target
    rw [String.append_assoc] at source
    exact ⟨target, source⟩
  · intro h
    obtain ⟨target, source⟩ := h
    refine ⟨target, ?_, source.eq_recordOf⟩
    rw [source.filename_eq, String.append_assoc]
    rfl

theorem map_some_records (c : Convention) (directory : String) (filenames : List String) :
    (filenames.filterMap (c.record? directory)).map some =
      (filenames.filter (c.recognises ·)).map (c.record? directory) := by
  induction filenames with
  | nil => rfl
  | cons filename rest ih =>
    have agree := c.recognises_eq_isSome directory filename
    cases h : c.record? directory filename with
    | none =>
      rw [h] at agree
      rw [List.filterMap_cons_none h, List.filter_cons_of_neg (by simp [agree]), ih]
    | some r =>
      rw [h] at agree
      rw [List.filterMap_cons_some h, List.filter_cons_of_pos (by simp [agree]), List.map_cons,
        List.map_cons, ih, h]

end Convention

namespace Discovery

variable {c : Convention} {directory source : String} {w : Workspace} {logger : Logger}
  {s : Session} {m : Manifest} {p : Path} {files : List FoundFile}

theorem matchFiles_run (c : Convention) (directory : String) (filenames : List String)
    (logger : Logger) (s : Session) : ((matchFiles c directory filenames).run logger s).1 =
      .ok (filenames.filterMap (c.record? directory)) := by
  have within : (matchFiles c directory filenames).Within Notice.Later (fun _ ↦ False)
      (fun _ ↦ False) fun _ ↦ False := matchFiles_within c directory filenames
  rw [Script.run_fst_eq within, matchFiles_eval]

/-- The test of a name and the derivation of its record agree. -/
theorem matchFiles_derives (c : Convention) (directory : String) :
    (∀ filename, (∃ r, c.record? directory filename = some r) ↔ c.recognises filename) ∧
    (∀ filename r, c.record? directory filename = some r ↔
      ∃! target, c.Derives directory filename target r) ∧
    (∀ target, ∃ r, c.record? directory (target ++ c.testMarker ++ c.extension) = some r ∧
      c.split? (target ++ c.testMarker ++ c.extension) = some (r.name, target) ∧
      c.Derives directory (target ++ c.testMarker ++ c.extension) target r) ∧
    ∀ filenames logger s, ∃ records,
      ((matchFiles c directory filenames).run logger s).1 = .ok records ∧
      records.map some = (filenames.filter (c.recognises ·)).map (c.record? directory) := by
  refine ⟨fun filename ↦ ?_, fun filename r ↦ ?_, fun target ↦ ?_, fun filenames logger s ↦ ?_⟩
  · rw [c.recognises_eq_isSome directory, Option.isSome_iff_exists]
  · rw [Convention.record?_eq_some_iff_derives]
    constructor
    · intro h
      obtain ⟨target, source⟩ := h
      exact ⟨target, source, fun _ other ↦ other.target_unique source⟩
    · intro h
      exact h.exists
  · have source := Convention.Derives.of_recordOf c directory target
    exact ⟨_, Convention.record?_eq_some_iff_derives.2 ⟨target, source⟩,
      Convention.split?_eq_some_iff.2 ⟨rfl, rfl⟩, source⟩
  · exact ⟨_, matchFiles_run c directory filenames logger s, c.map_some_records directory filenames⟩

/-- The target may hold the marker and the extension itself. -/
example : ({} : Convention).record? "./t" "a_test.c_test.c" =
    some ⟨"a_test.c_test", "a_test.c_unit_test", "./t/a_test.c_unit_test"⟩ := by rfl

theorem build_run (c : Convention) (source : String) (logger : Logger) (s : Session) :
    ((build c source).run logger s).1 = ((build c source).eval s.workspace).1 := by
  have within : (build c source).Within Notice.Later (fun _ ↦ False) (fun _ ↦ True)
      fun _ ↦ False := build_within c source
  exact Script.run_fst_eq within logger s

theorem filenames_nodup (h : (scan p).eval w = (.ok files, w)) : (files.map (·.filename)).Nodup := by
  obtain ⟨names, listed, rfl⟩ := scan_eq_ok h
  have differ : (names.filterMap (found? w p)).Pairwise (·.filename ≠ ·.filename) :=
    found_differ (Workspace.nodup_of_list listed)
  refine List.pairwise_map.2 ((FoundFile.sort_strict differ).imp fun {f g} before same ↦ ?_)
  rw [FoundFile.Before, same] at before
  exact List.lt_irrefl _ before

/-- All records of a manifest come from one convention and one directory, each from a target of its
own. -/
theorem targets_of_build (built : ((build c source).eval w).1 = .ok m) :
    ∃ targets : List String, targets.Nodup ∧
      m.records = targets.map (c.recordOf (normalizeSource source)) := by
  obtain ⟨files, scanned, records⟩ := scan_of_build built
  obtain ⟨targets, hn, hr⟩ := c.records_eq_map (normalizeSource source) (files.map (·.filename))
  have differ : (targets.map (· ++ c.suffix)).Nodup := hn ▸ (filenames_nodup scanned).filter _
  exact ⟨targets, differ.of_map _, records.trans hr⟩

theorem head?_normalizeSource (source : String) :
    (normalizeSource source).toList.head? ≠ some '/' := by
  rw [normalizeSource]
  split
  · simp
  · next hs => simp [hs]
  · simp

/-- No two records of a manifest share a name, a test name or a path. -/
theorem records_distinct (built : ((build c source).run logger s).1 = .ok m) :
    (m.records.map (·.name)).Nodup ∧ (m.records.map (·.testName)).Nodup ∧
      (m.records.map (·.path)).Nodup := by
  rw [build_run] at built
  obtain ⟨targets, differ, records⟩ := targets_of_build built
  have marked (marker : String) : Function.Injective (· ++ marker : String → String) :=
    fun a b same ↦ by simpa using same
  have placed :=
    targetPath_injective (normalizeSource_ne_empty source) (head?_normalizeSource source)
  simp only [records, List.map_map]
  exact ⟨differ.map (marked c.testMarker), differ.map (marked c.targetMarker),
    differ.map (placed.comp (marked c.targetMarker))⟩

def pair : Workspace where
  tree :=
    { entries :=
        [(.ofText "tests", .folder), (testSource :: Location.ofText "tests", .file []),
         (Location.ofText "_test.c" ++ Location.ofText "tests", .file [])]
      nodup := by decide }

theorem records_distinct_pair :
    ((build { targetMarker := "/unit" } "tests").run {} { workspace := pair }).1 =
      .ok ⟨[⟨"_test", "/unit", "/unit"⟩, ⟨"a_test", "a/unit", "./tests/a/unit"⟩]⟩ ∧
    ["_test", "a_test"].Nodup ∧ ["/unit", "a/unit"].Nodup ∧ ["/unit", "./tests/a/unit"].Nodup := by
  have built : ((build { targetMarker := "/unit" } "tests").run {} { workspace := pair }).1 =
      .ok ⟨[⟨"_test", "/unit", "/unit"⟩, ⟨"a_test", "a/unit", "./tests/a/unit"⟩]⟩ := rfl
  exact ⟨built, records_distinct built⟩

end Discovery

end TestMatrix
