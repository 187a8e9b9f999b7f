import TestMatrix.Proofs.FileTree.Places
namespace TestMatrix

def Place.asFolder : Place → Except SystemError Location
  | folder l => .ok l
  | file .. => .error .notFolder
  | free .. => .error .notFound

def Place.closed (p : Place) : Except SystemError Place := .folder <$> p.asFolder

namespace FileTree

variable {t : FileTree}

theorem walkPlain_close {follow : Location → Path → List Segment → Except SystemError Place}
    (h : ∀ l target rest, follow l target (rest ++ [.close]) =
      (follow l target rest >>= Place.closed)) (l : Location) (segments : List Segment) :
    t.walkPlain false follow l (segments ++ [.close]) =
      (t.walkPlain false follow l segments >>= Place.closed) := by
  induction segments generalizing l with
  | nil => rfl
  | cons s rest ih =>
    cases s with
    | here | close | up => exact ih _
    | name n =>
      have more : rest ++ [.close] ≠ [] := by simp
      simp only [List.cons_append, walkPlain, Bool.false_eq_true, false_and, if_false, if_neg more]
      split
      · rfl
      cases t.entry? (n :: l) with
      | none =>
        dsimp only
        split <;> rfl
      | some e =>
        cases e with
        | folder => exact ih _
        | file content =>
          dsimp only
          split <;> rfl
        | link target => exact h l target rest

theorem walk_concat_close (links : Nat) (l : Location) (segments : List Segment) :
    t.walk false links l (segments ++ [.close]) =
      (t.walk false links l segments >>= Place.closed) := by
  induction links generalizing l segments with
  | zero => exact walkPlain_close (fun _ _ _ ↦ rfl) l segments
  | succ links ih =>
    refine walkPlain_close (fun l target rest ↦ ?_) l segments
    cases target.segments with
    | error e => rfl
    | ok front =>
      change t.walk false links _ (front ++ (rest ++ [.close])) = _
      rw [← List.append_assoc]
      exact ih _ _

end FileTree

namespace Path

variable {p : Path}

def close (p : Path) : Path := ⟨p.bytes ++ [slash]⟩

theorem isAbsolute_close (h : p.bytes ≠ []) : p.close.isAbsolute = p.isAbsolute := by
  obtain ⟨b, rest, hp⟩ := List.exists_cons_of_ne_nil h
  simp [isAbsolute, close, hp]

theorem segments_close (h : p.endsWithSlash = false) :
    p.close.segments = (· ++ [.close]) <$> p.segments := by
  have parts : p.close.parts = p.parts := parts_concat_slash p.bytes
  have closed : p.close.endsWithSlash = true := by simp [endsWithSlash, close]
  rw [segments, segments, parts, closed, h]
  cases p.parts.mapM Segment.ofBytes <;> rfl

theorem join_close {part : Path} (h : p.bytes ≠ []) (he : p.endsWithSlash = false) :
    p.close.join part = p.join part := by
  have last : p.bytes.getLast? ≠ some slash := by simpa [endsWithSlash] using he
  simp only [join, joinAt, close]
  split
  · rfl
  · simp [h, last]

end Path

namespace Workspace

variable {w : Workspace} {p : Path}

theorem locate_close (hn : p.bytes ≠ []) (he : p.endsWithSlash = false)
    (short : p.close.bytes.length ≤ FileTree.longestPath) :
    w.locate false p.close = (w.locate false p >>= Place.closed) := by
  have zero : 0 ∈ p.close.bytes ↔ 0 ∈ p.bytes := by simp [Path.close, slash]
  have length : p.bytes.length ≤ p.close.bytes.length := by simp [Path.close]
  have filled : p.close.bytes ≠ [] := by simp [Path.close]
  have start : w.start p.close = w.start p := by
    rw [Workspace.start, Workspace.start, p.isAbsolute_close hn]
  rw [locate_eq, locate_eq, start, Path.segments_close he, if_neg filled, if_neg hn,
    if_neg (Nat.not_lt.2 short), if_neg (Nat.not_lt.2 (Nat.le_trans length short))]
  simp only [zero]
  split
  · rfl
  split
  · rfl
  cases p.segments with
  | error e => rfl
  | ok segments => exact FileTree.walk_concat_close _ _ _

theorem list_eq (w : Workspace) (p : Path) :
    w.list p = w.tree.names <$> (w.locate false p >>= Place.asFolder) := by
  rw [list]
  cases w.locate false p with
  | error e => rfl
  | ok place => cases place <;> rfl

/-- A folder is listed with a slash after it as without one, and what is no folder fails alike. -/
theorem list_close (hn : p.bytes ≠ []) (he : p.endsWithSlash = false)
    (short : p.close.bytes.length ≤ FileTree.longestPath) : w.list p.close = w.list p := by
  rw [list_eq, list_eq, locate_close hn he short]
  cases w.locate false p with
  | error e => rfl
  | ok place => cases place <;> rfl

end Workspace

end TestMatrix
