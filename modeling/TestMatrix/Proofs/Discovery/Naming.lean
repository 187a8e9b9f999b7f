import TestMatrix.Proofs.Discovery.Matching
namespace TestMatrix.Convention

open Text

variable {c : Convention} {target : String}

theorem fault?_eq_none_iff : c.fault? = none ↔
    (Affix.startsWith c.extension "." ∧ 2 ≤ c.extension.utf8ByteSize) ∧ c.testMarker ≠ "" ∧
      c.targetMarker ≠ "" ∧ c.testMarker ≠ c.targetMarker := by
  grind [fault?]

/-- The endings of sources and of targets are not told apart: one of them ends with the other. -/
def Overlaps (c : Convention) : Prop :=
  c.suffix.toList <:+ c.targetMarker.toList ∨ c.targetMarker.toList <:+ c.suffix.toList

theorem overlaps_of_recognises (h : c.recognises (target ++ c.targetMarker)) : c.Overlaps := by
  have named : c.targetMarker.toList <:+ (target ++ c.targetMarker).toList := by
    rw [String.toList_append]
    exact List.suffix_append target.toList _
  exact List.suffix_or_suffix_of_suffix (recognises_iff_isSuffix.1 h) named

theorem Overlaps.exists_recognises (h : c.Overlaps) :
    ∃ target, c.recognises (target ++ c.targetMarker) := by
  simp only [recognises_iff_isSuffix, String.toList_append]
  rcases h with h | h
  · exact ⟨"", h⟩
  · obtain ⟨front, hf⟩ := h
    exact ⟨String.ofList front, by simp [hf]⟩

theorem recordOf_testName_eq_iff {directory : String} :
    (c.recordOf directory target).testName = target ++ c.suffix ↔ c.targetMarker = c.suffix := by
  simp [recordOf]

/-- What a source builds is never named like its record. It is named like the source itself only if
the marker of targets is the whole suffix of sources, and names of targets are never names of sources
exactly if the two endings do not overlap. -/
theorem targets_apart (c : Convention) (valid : c.fault? = none) :
    (∀ directory filename r, c.record? directory filename = some r →
      r.testName ≠ r.name ∧ (r.testName = filename ↔ c.targetMarker = c.suffix)) ∧
    ((∀ directory filename r, c.record? directory filename = some r →
      c.recognises r.testName = false ∧ c.record? directory r.testName = none ∧
        ∀ source, c.recognises source → r.testName ≠ source) ↔ ¬c.Overlaps) := by
  refine ⟨fun directory filename r hr ↦ ?_, fun apart overlap ↦ ?_,
    fun apart directory filename r hr ↦ ?_⟩
  · obtain ⟨target, rfl, rfl⟩ := record?_eq_some_iff.1 hr
    refine ⟨fun same ↦ ?_, recordOf_testName_eq_iff⟩
    have markers : c.targetMarker = c.testMarker := by simpa [recordOf] using same
    exact (fault?_eq_none_iff.1 valid).2.2.2 markers.symm
  · obtain ⟨target, recognised⟩ := overlap.exists_recognises
    have source : c.record? "" (target ++ c.suffix) = some (c.recordOf "" target) :=
      record?_eq_some_iff.2 ⟨target, rfl, rfl⟩
    have refused := (apart _ _ _ source).1
    exact Bool.false_ne_true (refused.symm.trans recognised)
  · obtain ⟨target, rfl, rfl⟩ := record?_eq_some_iff.1 hr
    have refused : c.recognises (target ++ c.targetMarker) = false := by
      rw [← Bool.not_eq_true]
      exact fun recognised ↦ apart (overlaps_of_recognises recognised)
    have unrecorded := c.recognises_eq_isSome directory (target ++ c.targetMarker)
    rw [refused, eq_comm, Option.isSome_eq_false_iff, Option.isNone_iff_eq_none] at unrecorded
    refine ⟨refused, unrecorded, fun source recognised same ↦ ?_⟩
    rw [← same] at recognised
    exact Bool.false_ne_true (refused.symm.trans recognised)

theorem targets_apart_sample :
    ({} : Convention).fault? = none ∧
      ({} : Convention).recognises "leds_unit_test" = false ∧
      ({ targetMarker := ".c" } : Convention).fault? = none ∧
      ({ targetMarker := ".c" } : Convention).record? "." "a_test_test.c" =
        some ⟨"a_test_test", "a_test.c", "./a_test.c"⟩ ∧
      "a_test.c" ≠ "a_test_test.c" := by
  have told : ¬({} : Convention).Overlaps := by
    unfold Convention.Overlaps
    decide
  have recorded : ({ targetMarker := ".c" } : Convention).record? "." "a_test_test.c" =
      some ⟨"a_test_test", "a_test.c", "./a_test.c"⟩ := by rfl
  refine ⟨by decide, ?_, by decide, recorded, ?_⟩
  · exact ((targets_apart {} (by decide)).2.2 told "." "leds_test.c" _ rfl).1
  · have own := ((targets_apart { targetMarker := ".c" } (by decide)).1 _ _ _ recorded).2
    exact fun same ↦ absurd (own.1 same) (by decide)

/-- The markers may differ and a source may still be what is built from it. -/
theorem targets_not_apart : ¬∀ (c : Convention) (directory filename : String) (r : Record),
    c.fault? = none → c.record? directory filename = some r →
      r.testName ≠ r.name ∧ r.testName ≠ filename ∧ c.recognises r.testName = false := by
  intro apart
  have recorded : ({ targetMarker := "_test.c" } : Convention).record? "./tests" "a_test.c" =
      some ⟨"a_test", "a_test.c", "./tests/a_test.c"⟩ := by rfl
  exact (apart _ _ _ _ (by decide) recorded).2.1 rfl

end TestMatrix.Convention
