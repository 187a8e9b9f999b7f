import Mathlib.Data.List.Induction
import TestMatrix.Proofs.Path.Parts
namespace TestMatrix.Path

structure IsName (part : Bytes) : Prop where
  nonempty : part ≠ []
  slash_not_mem : slash ∉ part
  not_here : part ≠ [dot]
  not_up : part ≠ [dot, dot]

/-- Slashes and `/.` parts, any number of them. Behind a path they do not lead on. -/
inductive Trailing : Bytes → Prop
  | nil : Trailing []
  | slash {t : Bytes} : Trailing t → Trailing (t ++ [TestMatrix.slash])
  | here {t : Bytes} : Trailing t → Trailing (t ++ [TestMatrix.slash, dot])

variable {front part t : Bytes}

theorem fileName?_concat_slash (b : Bytes) : fileName? ⟨b ++ [slash]⟩ = fileName? ⟨b⟩ := by
  rw [fileName?, fileName?, parts_concat_slash]

theorem fileName?_append_here (b : Bytes) : fileName? ⟨b ++ [slash, dot]⟩ = fileName? ⟨b⟩ := by
  have last : parts ⟨[dot]⟩ = [[dot]] := parts_part (by decide) (by decide)
  have dropped : [[dot]].filter (· ≠ [dot]) = [] := by decide
  rw [fileName?, fileName?, parts_append_slash, last, List.filter_append, dropped, List.append_nil]

theorem Trailing.fileName?_append (h : Trailing t) (b : Bytes) :
    fileName? ⟨b ++ t⟩ = fileName? ⟨b⟩ := by
  induction h with
  | nil => rw [List.append_nil]
  | slash _ ih => rw [← List.append_assoc, fileName?_concat_slash, ih]
  | here _ ih => rw [← List.append_assoc, fileName?_append_here, ih]

theorem exists_last_part (b : Bytes) : ∃ front part, b = front ++ part ∧
    (front = [] ∨ front.getLast? = some slash) ∧ slash ∉ part := by
  induction b using List.reverseRecOn with
  | nil => exact ⟨[], [], rfl, .inl rfl, List.not_mem_nil⟩
  | append_singleton b c ih =>
    by_cases hc : c = slash
    · exact ⟨b ++ [c], [], (List.append_nil _).symm, .inr (by simp [hc]), List.not_mem_nil⟩
    · obtain ⟨front, part, rfl, lead, hs⟩ := ih
      refine ⟨front, part ++ [c], List.append_assoc _ _ _, lead, fun mem ↦ ?_⟩
      rcases List.mem_append.1 mem with mem | mem
      · exact hs mem
      · exact hc (List.mem_singleton.1 mem).symm

/-- Before all that does not lead on stands the last step of a path, or nothing if it has none. -/
theorem exists_last_step (b : Bytes) : ∃ front part t, b = front ++ part ++ t ∧
    (front = [] ∨ front.getLast? = some slash) ∧ slash ∉ part ∧ Trailing t ∧
    (part = [] ∨ part = [dot] → front = []) := by
  obtain ⟨front, part, hb, lead, hs⟩ := exists_last_part b
  by_cases last : part = [] ∨ part = [dot] → front = []
  · exact ⟨front, part, [], by rw [hb, List.append_nil], lead, hs, .nil, last⟩
  · obtain ⟨idle, behind⟩ := Classical.not_imp.1 last
    obtain ⟨folder, rfl⟩ := List.getLast?_eq_some_iff.1 (lead.resolve_left behind)
    have shorter : folder.length < b.length := by simp [hb]
    obtain ⟨above, step, t, rfl, led, plain, ht, first⟩ := exists_last_step folder
    rcases idle with rfl | rfl
    · exact ⟨above, step, t ++ [slash], by simp [hb], led, plain, ht.slash, first⟩
    · exact ⟨above, step, t ++ [slash, dot], by simp [hb], led, plain, ht.here, first⟩
termination_by b.length

theorem fileName?_eq_some_iff {p : Path} {name : Bytes} : p.fileName? = some name ↔
    IsName name ∧ ∃ front t, p.bytes = front ++ name ++ t ∧
      (front = [] ∨ front.getLast? = some slash) ∧ Trailing t := by
  constructor
  · intro h
    obtain ⟨front, part, t, hb, lead, hs, ht, last⟩ := exists_last_step p.bytes
    have hp : p = ⟨front ++ part ++ t⟩ := by rw [← hb]
    rw [hp, ht.fileName?_append] at h
    by_cases idle : part = [] ∨ part = [dot]
    · rw [last idle] at h
      rcases idle with rfl | rfl <;> cases h
    · obtain ⟨hn, here⟩ := not_or.1 idle
      rw [fileName?_append_part lead hs hn here, ite_eq_iff] at h
      obtain ⟨-, h⟩ | ⟨up, h⟩ := h
      · cases h
      · cases h
        exact ⟨⟨hn, hs, here, up⟩, front, t, hb, lead, ht⟩
  · intro h
    obtain ⟨hn, front, t, hb, lead, ht⟩ := h
    have hp : p = ⟨front ++ name ++ t⟩ := by rw [← hb]
    rw [hp, ht.fileName?_append, fileName?_append_part lead hn.slash_not_mem hn.nonempty hn.not_here,
      if_neg hn.not_up]

end TestMatrix.Path
