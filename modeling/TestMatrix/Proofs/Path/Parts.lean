import TestMatrix.FileTree.Walk
namespace TestMatrix

abbrev Name.path (n : Name) : Path := ⟨n.bytes⟩

theorem Name.slash_not_mem (n : Name) : slash ∉ n.bytes := n.valid.2.2.2.1

theorem Name.eq_of_bytes {n m : Name} (h : n.bytes = m.bytes) : n = m := by
  cases n
  cases m
  cases h
  rfl

namespace Path

theorem parts_append_slash (folder part : Bytes) :
    parts ⟨folder ++ slash :: part⟩ = parts ⟨folder⟩ ++ parts ⟨part⟩ := by
  rw [parts, List.splitOn_append_cons_self, List.filter_append, parts, parts]

theorem parts_part {part : Bytes} (hs : slash ∉ part) (hn : part ≠ []) :
    parts ⟨part⟩ = [part] := by
  rw [parts, List.splitOn_eq_singleton hs, List.filter_cons_of_pos (by simpa using hn),
    List.filter_nil]

theorem parts_concat_slash (folder : Bytes) : parts ⟨folder ++ [slash]⟩ = parts ⟨folder⟩ := by
  rw [parts_append_slash]
  exact List.append_nil _

section Behind

variable {front part : Bytes} (lead : front = [] ∨ front.getLast? = some slash)
  (hs : slash ∉ part) (hn : part ≠ [])
include lead hs hn

/-- A part that begins the path, or stands behind a slash, is its last one. -/
theorem parts_append_part : parts ⟨front ++ part⟩ = parts ⟨front⟩ ++ [part] := by
  rcases lead with rfl | closed
  · rw [List.nil_append, parts_part hs hn]
    rfl
  · obtain ⟨folder, rfl⟩ := List.getLast?_eq_some_iff.1 closed
    rw [parts_concat_slash, List.append_assoc, List.singleton_append, parts_append_slash,
      parts_part hs hn]

theorem fileName?_append_part (here : part ≠ [dot]) :
    fileName? ⟨front ++ part⟩ = if part = [dot, dot] then none else some part := by
  have kept : [part].filter (· ≠ [dot]) = [part] := List.filter_cons_of_pos (by simpa using here)
  rw [fileName?, parts_append_part lead hs hn, List.filter_append, kept, List.getLast?_concat]

end Behind

section Part

variable (folder : Path) {part : Bytes} (hs : slash ∉ part)
include hs

/-- The part follows the folder, after one slash more if the folder has none at its end. -/
theorem join_part : ∃ front : Bytes,
    (front = [] ∨ front.getLast? = some slash) ∧ (folder.join ⟨part⟩).bytes = front ++ part ∧
    (front = folder.bytes ∨ folder.bytes ≠ [] ∧ front = folder.bytes ++ [slash]) := by
  have relative : part.head? ≠ some slash := fun h ↦ hs (List.mem_of_head? h)
  rw [join, joinAt, if_neg relative]
  split
  · next h => exact ⟨folder.bytes, h, rfl, .inl rfl⟩
  · next h =>
    exact ⟨folder.bytes ++ [slash], .inr (by simp), by simp, .inr ⟨fun he ↦ h (.inl he), rfl⟩⟩

theorem parts_join_part (hn : part ≠ []) : (folder.join ⟨part⟩).parts = folder.parts ++ [part] := by
  obtain ⟨front, he, hb, hf⟩ := folder.join_part hs
  obtain hj : folder.join ⟨part⟩ = ⟨front ++ part⟩ := by rw [← hb]
  rw [hj, parts_append_part he hs hn]
  rcases hf with rfl | ⟨-, rfl⟩
  · rfl
  · rw [parts_concat_slash]

theorem fileName?_join_part (hn : part ≠ []) (here : part ≠ [dot]) (up : part ≠ [dot, dot]) :
    (folder.join ⟨part⟩).fileName? = some part := by
  obtain ⟨front, he, hb, -⟩ := folder.join_part hs
  obtain hj : folder.join ⟨part⟩ = ⟨front ++ part⟩ := by rw [← hb]
  rw [hj, fileName?_append_part he hs hn here, if_neg up]

end Part

variable (folder : Path) (n : Name)

theorem join_name : ∃ front : Bytes,
    (front = [] ∨ front.getLast? = some slash) ∧ (folder.join n.path).bytes = front ++ n.bytes ∧
    (front = folder.bytes ∨ folder.bytes ≠ [] ∧ front = folder.bytes ++ [slash]) :=
  folder.join_part n.slash_not_mem

theorem parts_join_name : (folder.join n.path).parts = folder.parts ++ [n.bytes] :=
  folder.parts_join_part n.slash_not_mem n.valid.1

theorem endsWithSlash_join_name : (folder.join n.path).endsWithSlash = false := by
  obtain ⟨front, -, hb, -⟩ := folder.join_name n
  rw [endsWithSlash, hb, List.getLast?_append, List.getLast?_eq_some_getLast n.valid.1,
    Option.some_or, beq_eq_false_iff_ne]
  exact fun h ↦ n.slash_not_mem (Option.some.inj h ▸ List.getLast_mem n.valid.1)

theorem fileName?_join_name : (folder.join n.path).fileName? = some n.bytes :=
  folder.fileName?_join_part n.slash_not_mem n.valid.1 n.valid.2.1 n.valid.2.2.1

theorem ofBytes_name : Segment.ofBytes n.bytes = .ok (.name n) := by
  rw [Segment.ofBytes, if_neg n.valid.2.1, if_neg n.valid.2.2.1, Name.ofBytes?, dif_pos n.valid]

/-- The segments of an entry's path are those of its folder, without a slash at the end, and its
name. -/
theorem segments_join_name {segments : List Segment} (h : folder.segments = .ok segments) :
    ∃ front, (folder.join n.path).segments = .ok (front ++ [.name n]) ∧
      (segments = front ∨ segments = front ++ [.close]) := by
  simp only [Path.segments] at h ⊢
  rw [parts_join_name, endsWithSlash_join_name, List.mapM_append]
  cases hf : folder.parts.mapM Segment.ofBytes with
  | error e => rw [hf] at h; cases h
  | ok front =>
    rw [hf] at h
    refine ⟨front, ?_, ?_⟩
    · simp [ofBytes_name, bind, Except.bind, pure, Except.pure]
    · cases hs : folder.endsWithSlash <;> rw [hs] at h <;> cases h
      · exact .inl rfl
      · exact .inr rfl

end Path

end TestMatrix
