import TestMatrix.Proofs.Path.Parts
namespace TestMatrix.Path

/-- The steps of a path: the root or a `.`, if it begins so, and every later part that is not `.`. -/
def components (p : Path) : List Bytes :=
  (if p.isAbsolute then [[slash]] else (p.parts.head?.filter (· = [dot])).toList) ++
    p.parts.filter (· ≠ [dot])

def parent? (p : Path) : Option (List Bytes) :=
  match p.components.getLast? with
  | none => none
  | some last => if last = [slash] then none else some p.components.dropLast

variable (folder : Path) {part : Bytes} (hs : slash ∉ part)
include hs

theorem isAbsolute_join_part : (folder.join ⟨part⟩).isAbsolute = folder.isAbsolute := by
  obtain ⟨front, -, hb, hf⟩ := folder.join_part hs
  simp only [isAbsolute, hb, List.head?_append]
  rcases hf with rfl | ⟨hn, rfl⟩
  · cases folder.bytes with
    | nil =>
      have relative : part.head? ≠ some slash := fun h ↦ hs (List.mem_of_head? h)
      simpa using relative
    | cons b rest => rfl
  · obtain ⟨b, rest, he⟩ := List.exists_cons_of_ne_nil hn
    simp [he]

/-- A part that is a step of its own is the last step, after those of the folder. -/
theorem components_join_part (hn : part ≠ []) (here : part ≠ [dot]) :
    (folder.join ⟨part⟩).components = folder.components ++ [part] := by
  have front : (folder.parts ++ [part]).head?.filter (· = [dot]) =
      folder.parts.head?.filter (· = [dot]) := by
    cases folder.parts with
    | nil => simp [here]
    | cons first rest => rfl
  have kept : [part].filter (· ≠ [dot]) = [part] := List.filter_cons_of_pos (by simpa using here)
  simp only [components, isAbsolute_join_part folder hs, parts_join_part folder hs hn, front,
    List.filter_append, kept, List.append_assoc]

theorem parent?_join_part (hn : part ≠ []) (here : part ≠ [dot]) :
    (folder.join ⟨part⟩).parent? = some folder.components := by
  have step : part ≠ [slash] := fun h ↦ hs (h ▸ List.mem_singleton_self slash)
  rw [parent?, components_join_part folder hs hn here, List.getLast?_concat, List.dropLast_concat]
  exact if_neg step

end TestMatrix.Path
