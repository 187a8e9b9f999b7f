import TestMatrix.Proofs.FileTree.Writing
import TestMatrix.Script
namespace TestMatrix

open Text

variable {P : Workspace → Prop} {logger : Logger} {s : Session} {n : Notice}

namespace Session

def line (logger : Logger) (s : Session) (n : Notice) : Bytes :=
  Utf8.encode (n.logLine (logger.clock s.shown.length) ++ "\n")

theorem report_keeps
    (hP : ∀ w l content, w.tree.Writable l → P w → P (w.put l content)) (h : P s.workspace) :
    P (s.report logger n).workspace := by
  rw [report]
  split
  · cases logger.copy with
    | none => exact h
    | some file =>
      dsimp only
      rw [Workspace.append]
      split
      · next before he => exact hP _ _ _ (Workspace.writable_of_entry he) h
      · exact h
  · exact h

/-- A notice lengthens the file that the log goes to, and no other one. -/
theorem locate_report (logger : Logger) (n : Notice) {p : Path} {target : Location}
    {content : Bytes} (h : s.workspace.locate false p = .ok (.file target content)) :
    (s.report logger n).workspace.locate false p =
      .ok (.file target (content ++
        if logger.shows n ∧ logger.copy = some target then line logger s n else [])) := by
  rw [report]
  by_cases shown : logger.shows n = true
  · simp only [shown, if_true, true_and]
    cases hc : logger.copy with
    | none => simp [h]
    | some file =>
      by_cases same : file = target
      · subst same
        have here := Workspace.entry_of_locate h
        dsimp only
        rw [Workspace.append_eq_put here,
          Workspace.locate_put (Workspace.writable_of_entry here) h, if_pos rfl, if_pos rfl]
        rfl
      · have apart : ¬some file = some target := by simpa using same
        rw [if_neg apart, List.append_nil]
        dsimp only
        rw [Workspace.append]
        split
        · next before he =>
          rw [Workspace.locate_put (Workspace.writable_of_entry he) h, if_neg (Ne.symm same)]
        · exact h
  · simp [shown, h]

end Session

/-- What each writing of a file keeps holds at the end of a script, the log included. -/
theorem Script.run_keeps {α : Type} (x : Script α)
    (hP : ∀ w l content, w.tree.Writable l → P w → P (w.put l content)) (h : P s.workspace) :
    P (x.run logger s).2.workspace := by
  induction x generalizing s with
  | done | fail => exact h
  | report n next ih => exact ih (Session.report_keeps hP h)
  | read p next ih | list p next ih | isFile p next ih => exact ih _ h
  | write p content next ih =>
    rw [run]
    cases hw : s.workspace.write p content with
    | error e => exact ih _ h
    | ok w =>
      obtain ⟨place, l, located, hl, rfl⟩ := Workspace.write_eq_ok_iff.1 hw
      have writable := Workspace.writable_of_locate located hl
      exact ih _ (hP _ _ _ writable h)

end TestMatrix
