import TestMatrix.Proofs.Script.Logging
import TestMatrix.Proofs.Script.Notices
namespace TestMatrix

open Text

variable {logger : Logger} {s s' : Session} {p q : Path} {target l : Location} {before : Bytes}
  {w : Workspace} {n : Notice}

def Notice.lines (clock : Nat → String) (shown : List Notice) : Bytes :=
  Utf8.encode (String.join (shown.mapIdx fun k n ↦ n.logLine (clock k) ++ "\n"))

theorem Notice.lines_nil (clock : Nat → String) : lines clock [] = [] := by rfl

theorem Notice.lines_concat (clock : Nat → String) (shown : List Notice) (n : Notice) :
    lines clock (shown ++ [n]) =
      lines clock shown ++ Utf8.encode (n.logLine (clock shown.length) ++ "\n") := by
  rw [lines, List.mapIdx_concat, String.join_append, Utf8.encode_append, String.join_cons,
    String.join_nil, String.append_empty]
  rfl

namespace Session

theorem names_report : (s.report logger n).workspace.Names p l ↔ s.workspace.Names p l :=
  report_keeps (P := (·.Names p l ↔ s.workspace.Names p l))
    (fun _ _ content ht h ↦ (Workspace.names_put_iff ht content).trans h) .rfl

/-- The path leads to the file of the log, which holds what it held before and a line for each notice
shown. -/
def Copies (logger : Logger) (p : Path) (target : Location) (before : Bytes) (s : Session) : Prop :=
  logger.copy = some target ∧ s.workspace.locate false p =
    .ok (.file target (before ++ Notice.lines logger.clock s.shown))

namespace Copies

theorem fresh (hc : logger.copy = some target)
    (h : w.locate false p = .ok (.file target before)) :
    Copies logger p target before { workspace := w } := by
  refine ⟨hc, ?_⟩
  rw [Notice.lines_nil, List.append_nil]
  exact h

theorem report (h : s.Copies logger p target before) (n : Notice) :
    (s.report logger n).Copies logger p target before := by
  obtain ⟨copy, located⟩ := h
  refine ⟨copy, ?_⟩
  rw [locate_report logger n located, shown_report]
  cases shown : logger.shows n with
  | true => simp [copy, shown, Notice.lines_concat, line]
  | false => simp [shown]

theorem write {content : Bytes} (h : s.Copies logger p target before)
    (hw : s.workspace.write q content = .ok w) (apart : ¬s.workspace.Names q target) :
    Copies logger p target before { s with workspace := w } := by
  obtain ⟨copy, located⟩ := h
  obtain ⟨place, l, hq, hl, rfl⟩ := Workspace.write_eq_ok_iff.1 hw
  have other : target ≠ l := by
    rintro rfl
    exact apart ⟨place, hq, hl⟩
  have kept := Workspace.locate_put (Workspace.writable_of_locate hq hl) located content
  rw [if_neg other] at kept
  exact ⟨copy, kept⟩

end Copies

end Session

namespace Script

variable {α : Type} {x : Script α} {result : Except Failure α}

theorem names_of_run (h : x.run logger s = (result, s')) :
    s'.workspace.Names p l ↔ s.workspace.Names p l := by
  have kept : (x.run logger s).2.workspace.Names p l ↔ s.workspace.Names p l :=
    x.run_keeps (P := (·.Names p l ↔ s.workspace.Names p l))
      (fun _ _ content ht h ↦ (Workspace.names_put_iff ht content).trans h) .rfl
  rwa [h] at kept

/-- A script that leaves the files alone leaves a line in the log for each notice it shows. -/
theorem Reads.copies (hx : x.Reads) (h : x.run logger s = (result, s'))
    (hs : s.Copies logger p target before) : s'.Copies logger p target before := by
  induction hx generalizing s with
  | done | fail =>
    cases h
    exact hs
  | report n _ ih => exact ih h (hs.report n)
  | read _ _ ih | list _ _ ih | isFile _ _ ih => exact ih _ h hs

end Script

end TestMatrix
