import TestMatrix.Discovery
import TestMatrix.Proofs.Script.Evaluation
namespace TestMatrix

open Text

namespace Convention

variable {c : Convention} {directory filename : String} {r : Record}

def recordOf (c : Convention) (directory target : String) : Record :=
  let testName := target ++ c.targetMarker
  ⟨target ++ c.testMarker, testName, targetPath directory testName⟩

theorem split?_eq_some_iff {name target : String} : c.split? filename = some (name, target) ↔
    name = target ++ c.testMarker ∧ filename = name ++ c.extension := by
  simp only [split?, Option.bind_eq_bind, Option.bind_eq_some_iff, Affix.stripEnd?_eq_some_iff]
  constructor
  · intro h
    obtain ⟨_, hf, _, rfl, h⟩ := h
    cases h
    exact ⟨rfl, hf⟩
  · intro h
    exact ⟨name, h.2, target, h.1, rfl⟩

theorem record?_eq_some_iff : c.record? directory filename = some r ↔
    ∃ target, filename = target ++ c.suffix ∧ r = c.recordOf directory target := by
  simp only [record?, Option.bind_eq_bind, Option.bind_eq_some_iff, Prod.exists,
    split?_eq_some_iff]
  constructor
  · intro h
    obtain ⟨name, target, ⟨rfl, rfl⟩, h⟩ := h
    cases h
    exact ⟨target, String.append_assoc .., rfl⟩
  · intro h
    obtain ⟨target, rfl, rfl⟩ := h
    exact ⟨_, target, ⟨rfl, (String.append_assoc ..).symm⟩, rfl⟩

theorem recognises_iff : c.recognises filename ↔ ∃ target, filename = target ++ c.suffix := by
  simp only [recognises, Affix.endsWith, Option.isSome_iff_exists, Affix.stripEnd?_eq_some_iff]

theorem recognises_eq_isSome (c : Convention) (directory filename : String) :
    c.recognises filename = (c.record? directory filename).isSome := by
  rw [Bool.eq_iff_iff, recognises_iff, Option.isSome_iff_exists]
  simp only [record?_eq_some_iff]
  constructor
  · intro h
    obtain ⟨target, h⟩ := h
    exact ⟨_, target, h, rfl⟩
  · intro h
    obtain ⟨_, target, h, -⟩ := h
    exact ⟨target, h⟩

theorem recognises_iff_isSuffix : c.recognises filename ↔ c.suffix.toList <:+ filename.toList := by
  rw [recognises_iff]
  constructor
  · intro h
    obtain ⟨target, rfl⟩ := h
    exact ⟨target.toList, String.toList_append.symm⟩
  · intro h
    obtain ⟨target, h⟩ := h
    refine ⟨String.ofList target, String.toList_inj.1 ?_⟩
    rw [String.toList_append, String.toList_ofList, h]

theorem records_eq_map (c : Convention) (directory : String) (filenames : List String) :
    ∃ targets : List String,
      filenames.filter (c.suffix.toList <:+ ·.toList) = targets.map (· ++ c.suffix) ∧
      filenames.filterMap (c.record? directory) = targets.map (c.recordOf directory) := by
  induction filenames with
  | nil => exact ⟨[], rfl, rfl⟩
  | cons filename rest ih =>
    obtain ⟨targets, hn, hr⟩ := ih
    by_cases h : c.recognises filename
    · obtain ⟨target, ht⟩ := recognises_iff.1 h
      refine ⟨target :: targets, ?_, ?_⟩
      · rw [List.filter_cons_of_pos (by simpa using recognises_iff_isSuffix.1 h), hn, ht]
        rfl
      · rw [List.filterMap_cons_some (record?_eq_some_iff.2 ⟨target, ht, rfl⟩), hr]
        rfl
    · refine ⟨targets, ?_, ?_⟩
      · rw [List.filter_cons_of_neg (by simpa using mt recognises_iff_isSuffix.2 h), hn]
      · rw [recognises_eq_isSome c directory, Bool.not_eq_true, Option.isSome_eq_false_iff,
          Option.isNone_iff_eq_none] at h
        rw [List.filterMap_cons_none h, hr]

end Convention

namespace Discovery

variable (c : Convention) (directory : String) (w : Workspace)

theorem collect_eval (filenames : List String) :
    (collect c directory filenames).eval w =
      (.ok (filenames.filterMap (c.record? directory)), w) := by
  induction filenames with
  | nil => rfl
  | cons filename rest ih =>
    have agree := c.recognises_eq_isSome directory filename
    rw [collect, agree]
    cases h : c.record? directory filename with
    | none =>
      rw [List.filterMap_cons_none h]
      exact ih
    | some r =>
      rw [List.filterMap_cons_some h]
      exact Script.eval_map_ok ih

theorem matchFiles_eval (filenames : List String) :
    (matchFiles c directory filenames).eval w =
      (.ok (filenames.filterMap (c.record? directory)), w) :=
  Script.eval_bind_ok (collect_eval c directory w filenames)

variable {R L W : Path → Prop}

theorem collect_within (filenames : List String) :
    (collect c directory filenames).Within Notice.Later R L W := by
  induction filenames with
  | nil => exact .done _
  | cons filename rest ih =>
    rw [collect]
    split
    · exact .report nofun ih
    · split
      · exact .report nofun ih.map
      · exact ih

theorem matchFiles_within (filenames : List String) :
    (matchFiles c directory filenames).Within Notice.Later R L W := by
  refine (collect_within c directory filenames).bind fun records ↦ ?_
  exact (Script.Within.tell nofun).bind fun _ ↦ .done _

end Discovery

end TestMatrix
