import TestMatrix.Text.Utf8
namespace TestMatrix.Text.Utf8

def content (pieces : List Piece) (p : Progress) : Bytes := pieces.flatMap (·.bytes) ++ p.begun

def Progress.Sound (p : Progress) : Prop := p.due = [] → p.begun = []

namespace Progress

theorem start_content (b : UInt8) : content (start b).1 (start b).2 = [b] ∧ (start b).2.Sound := by
  rw [start]
  split
  · exact ⟨rfl, fun _ ↦ rfl⟩
  · exact ⟨rfl, fun _ ↦ rfl⟩
  · next due hd _ => exact ⟨rfl, fun h ↦ absurd h hd⟩

theorem step_content {p : Progress} (hp : p.Sound) (b : UInt8) :
    content (p.step b).1 (p.step b).2 = p.begun ++ [b] ∧ (p.step b).2.Sound := by
  obtain ⟨hs, sound⟩ := start_content b
  rw [step]
  split
  · next hd => rw [hp hd]; exact ⟨hs, sound⟩
  · next r due hd =>
    split
    · split
      · exact ⟨by simp [content], fun _ ↦ rfl⟩
      · next hne => exact ⟨by simp [content], fun h ↦ absurd (List.isEmpty_iff.2 h) hne⟩
    · refine ⟨?_, sound⟩
      rw [content] at hs ⊢
      rw [List.flatMap_cons, List.append_assoc, hs]

theorem run_content {p : Progress} (hp : p.Sound) (bytes : Bytes) :
    (p.run bytes).flatMap (·.bytes) = p.begun ++ bytes := by
  induction bytes generalizing p with
  | nil =>
    rw [run]
    split
    · next h => rw [List.isEmpty_iff.1 h]; rfl
    · simp
  | cons b rest ih =>
    obtain ⟨hs, sound⟩ := step_content hp b
    rw [content] at hs
    rw [run, List.flatMap_append, ih sound, ← List.append_assoc, hs, List.append_assoc]
    rfl

end Progress

/-- The pieces are a partition of the bytes. -/
theorem flatMap_pieces (bytes : Bytes) : (pieces bytes).flatMap (·.bytes) = bytes :=
  Progress.run_content (fun _ ↦ rfl) bytes

theorem splitValid_append (bytes : Bytes) :
    (splitValid bytes).1 ++ (splitValid bytes).2 = bytes := by
  have parts := congrArg (List.flatMap (·.bytes))
    (List.takeWhile_append_dropWhile (p := (·.whole)) (l := pieces bytes))
  rw [List.flatMap_append, flatMap_pieces] at parts
  rw [splitValid]
  dsimp only
  generalize (List.takeWhile (·.whole) (pieces bytes)).flatMap (·.bytes) = front at parts ⊢
  rw [← parts, List.drop_left]

theorem splitValid_suffix (bytes : Bytes) :
    encode ((decode? (splitValid bytes).1).getD "") ++ (splitValid bytes).2 <:+ bytes := by
  have whole := splitValid_append bytes
  cases hd : decode? (splitValid bytes).1 with
  | none => exact ⟨(splitValid bytes).1, whole⟩
  | some s =>
    rw [decode?_eq_some_iff.1 hd] at whole
    exact ⟨[], whole⟩

end TestMatrix.Text.Utf8
