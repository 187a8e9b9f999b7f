import TestMatrix.Proofs.FileTree.Refilling
import TestMatrix.Proofs.Script.Evaluation
namespace TestMatrix

variable {log : Option Location} {logger : Logger} {w w₁ : Workspace} {s : Session} {n : Notice}
  {N : Notice → Prop} {R L W : Path → Prop}

theorem Session.upTo_report (hl : ∀ file, logger.copy = some file → log = some file)
    (h : w.UpTo log s.workspace) (n : Notice) : w.UpTo log (s.report logger n).workspace := by
  rw [report]
  split
  · cases hc : logger.copy with
    | none => exact h
    | some file => exact h.append (hl file hc) _
  · exact h

/-- A notice touches no file but the log. -/
theorem Session.entry?_report {l : Location} (away : logger.copy ≠ some l) (n : Notice) :
    (s.report logger n).workspace.tree.entry? l = s.workspace.tree.entry? l :=
  (upTo_report (fun _ h ↦ h) .same n).entry?_eq away

theorem Session.shown_report (logger : Logger) (s : Session) (n : Notice) :
    (s.report logger n).shown = s.shown ++ [n].filter logger.shows := by
  rw [report]
  cases h : logger.shows n <;> simp [h]

namespace Script

variable {α β : Type} {x : Script α}

def notices (w : Workspace) : Script α → List Notice
  | done _ | fail _ => []
  | report n next => n :: next.notices w
  | read p next => (next (w.read p)).notices w
  | list p next => (next (w.entries p)).notices w
  | isFile p next => (next (w.isFile p)).notices w
  | write p content next =>
    match w.write p content with
    | .ok w => (next (.ok ())).notices w
    | .error e => (next (.error e)).notices w

theorem Within.notices (hx : x.Within N R L W) (w : Workspace) : ∀ n ∈ x.notices w, N n := by
  induction hx generalizing w with
  | done | fail => simp [Script.notices]
  | report h _ ih =>
    intro n hn
    rcases List.mem_cons.1 hn with rfl | hn
    · exact h
    · exact ih w n hn
  | read _ _ ih | list _ _ ih | isFile _ _ ih => exact ih _ w
  | @write p content _ _ _ ih =>
    rw [Script.notices]
    cases w.write p content with
    | ok w => exact ih _ w
    | error e => exact ih _ w

/-- A run with a logger is the silent run: it has the same answers, and so the same result and, but
for the log, the same files. It shows what its threshold admits of all that is reported. -/
theorem run_upTo (hl : ∀ file, logger.copy = some file → log = some file) (hx : x.Within N R L W)
    (hR : ∀ p, R p → ∀ target, log = some target → ¬w.Names p target)
    (h : w.UpTo log s.workspace) :
    (x.run logger s).1 = (x.eval w).1 ∧
      (x.eval w).2.UpTo log (x.run logger s).2.workspace ∧
      (x.run logger s).2.shown = s.shown ++ (x.notices w).filter logger.shows := by
  induction hx generalizing w s with
  | done | fail => exact ⟨rfl, h, (List.append_nil _).symm⟩
  | @report n next _ _ ih =>
    obtain ⟨result, files, shown⟩ := ih hR (Session.upTo_report hl h n)
    refine ⟨result, files, shown.trans ?_⟩
    rw [Session.shown_report, List.append_assoc, ← List.filter_append]
    rfl
  | @read p next hp _ ih =>
    have answer := h.read_eq (hR p hp)
    rw [run, answer]
    exact ih _ hR h
  | list _ _ ih =>
    rw [run, Workspace.entries_congr (h.list_eq _)]
    exact ih _ hR h
  | isFile _ _ ih =>
    rw [run, h.isFile_eq]
    exact ih _ hR h
  | @write p content next _ _ ih =>
    cases hw : w.write p content with
    | error e =>
      simp only [run, eval, notices, hw, h.write_error hw]
      exact ih _ hR h
    | ok w₁ =>
      obtain ⟨w₁', hw', h'⟩ := h.write_ok hw
      obtain ⟨place, l, located, hl', rfl⟩ := Workspace.write_eq_ok_iff.1 hw
      have writable := Workspace.writable_of_locate located hl'
      simp only [run, eval, notices, hw, hw']
      refine ih _ (fun q hq target ht named ↦ hR q hq target ht ?_) h'
      exact (Workspace.names_put_iff writable content).1 named

theorem Reads.entry?_run {s' : Session} {result : Except Failure α} {l : Location} (hx : x.Reads)
    (h : x.run logger s = (result, s')) (away : logger.copy ≠ some l) :
    s'.workspace.tree.entry? l = s.workspace.tree.entry? l := by
  induction hx generalizing s with
  | done | fail =>
    cases h
    rfl
  | report n _ ih => exact (ih h).trans (Session.entry?_report away n)
  | read _ _ ih | list _ _ ih | isFile _ _ ih => exact ih _ h

theorem run_fst_eq (hx : x.Within N (fun _ ↦ False) L W) (logger : Logger) (s : Session) :
    (x.run logger s).1 = (x.eval s.workspace).1 := by
  have begun : s.workspace.UpTo logger.copy s.workspace := .same
  exact (run_upTo (fun _ h ↦ h) hx nofun begun).1

end Script

end TestMatrix
