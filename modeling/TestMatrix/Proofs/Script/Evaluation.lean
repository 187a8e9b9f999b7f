import TestMatrix.Script
namespace TestMatrix

/-- A notice of a run under way: all but the first one, which tells the level. -/
abbrev Notice.Later (n : Notice) : Prop := ∀ threshold, n ≠ .ready threshold

namespace Script

variable {α β : Type} {w w' : Workspace} {x : Script α} {f : α → Script β} {e : Failure} {a : α}
  {logger : Logger} {s s' : Session}

theorem run_bind (logger : Logger) (s : Session) (x : Script α) (f : α → Script β) :
    (x >>= f).run logger s =
      match x.run logger s with
      | (.ok a, s') => (f a).run logger s'
      | (.error e, s') => (.error e, s') := by
  induction x generalizing s with
  | done b => rfl
  | fail e => rfl
  | report n next ih => exact ih _
  | read p next ih | list p next ih | isFile p next ih => exact ih _ _
  | write p content next ih =>
    change (Script.write p content fun answer ↦ next answer >>= f).run logger s = _
    simp only [run]
    cases s.workspace.write p content with
    | ok w => exact ih _ _
    | error e => exact ih _ _

theorem run_bind_ok (h : x.run logger s = (.ok a, s')) :
    (x >>= f).run logger s = (f a).run logger s' := by
  rw [run_bind, h]

theorem run_bind_error (h : x.run logger s = (.error e, s')) :
    (x >>= f).run logger s = (.error e, s') := by
  rw [run_bind, h]

theorem run_tell_bind {n : Notice} {f : Unit → Script β} :
    (tell n >>= f).run logger s = (f ()).run logger (s.report logger n) := rfl

theorem run_read_bind {p : Path} {failure : SystemError → Failure} {f : Bytes → Script β} :
    (read p (orFail failure) >>= f).run logger s =
      match s.workspace.read p with
      | .ok content => (f content).run logger s
      | .error e => (.error (failure e), s) := by
  change ((orFail failure (s.workspace.read p)).bind f).run logger s = _
  cases s.workspace.read p <;> rfl

theorem run_silent (x : Script α) (w : Workspace) :
    x.run {} { workspace := w } = ((x.eval w).1, { workspace := (x.eval w).2 }) := by
  induction x generalizing w with
  | done | fail => rfl
  | report _ _ ih => exact ih w
  | read _ _ ih | list _ _ ih | isFile _ _ ih => exact ih _ w
  | write p content next ih =>
    simp only [eval, run]
    cases w.write p content with
    | ok w => exact ih _ w
    | error e => exact ih _ w

@[simp] theorem eval_pure : (pure a : Script α).eval w = (.ok a, w) := rfl

@[simp] theorem eval_report {n : Notice} : (report n x).eval w = x.eval w := rfl

@[simp] theorem eval_read {p : Path} {next : Except SystemError Bytes → Script α} :
    (read p next).eval w = (next (w.read p)).eval w := rfl

@[simp] theorem eval_list {p : Path}
    {next : Except SystemError (List (Except SystemError Name)) → Script α} :
    (list p next).eval w = (next (w.entries p)).eval w := rfl

@[simp] theorem eval_isFile {p : Path} {next : Bool → Script α} :
    (isFile p next).eval w = (next (w.isFile p)).eval w := rfl

theorem eval_orFail {ε : Type} (failure : ε → Failure) (answer : Except ε α) :
    (orFail failure answer).eval w = (answer.mapError failure, w) := by
  cases answer <;> rfl

theorem eval_bind_ok (h : x.eval w = (.ok a, w')) : (x >>= f).eval w = (f a).eval w' := by
  have ran : x.run {} { workspace := w } = (.ok a, { workspace := w' }) := by rw [run_silent, h]
  rw [eval, run_bind_ok ran]
  rfl

theorem eval_bind_error (h : x.eval w = (.error e, w')) : (x >>= f).eval w = (.error e, w') := by
  have ran : x.run {} { workspace := w } = (.error e, { workspace := w' }) := by rw [run_silent, h]
  rw [eval, run_bind_error ran]

@[simp] theorem eval_tell_bind {n : Notice} {f : Unit → Script β} :
    (tell n >>= f).eval w = (f ()).eval w := rfl

theorem eval_read_bind {p : Path} {failure : SystemError → Failure} {f : Bytes → Script β} :
    (read p (orFail failure) >>= f).eval w =
      match w.read p with
      | .ok content => (f content).eval w
      | .error e => (.error (failure e), w) := by
  rw [eval, run_read_bind]
  cases w.read p <;> rfl

theorem eval_list_bind {p : Path} {failure : SystemError → Failure}
    {f : List (Except SystemError Name) → Script β} :
    (list p (orFail failure) >>= f).eval w =
      match w.list p with
      | .ok names => (f (names.map .ok)).eval w
      | .error e => (.error (failure e), w) := by
  change ((orFail failure (w.entries p)).bind f).eval w = _
  rw [Workspace.entries]
  cases w.list p <;> rfl

theorem eval_map_ok {g : α → β} (h : x.eval w = (.ok a, w')) :
    (g <$> x).eval w = (.ok (g a), w') := eval_bind_ok h

theorem eval_of_fst {r : Except Failure α} (h : (x.eval w).1 = r) :
    x.eval w = (r, (x.eval w).2) := Prod.ext h rfl

inductive Reads : Script α → Prop
  | done (a : α) : Reads (done a)
  | fail (e : Failure) : Reads (fail e)
  | report (n : Notice) {next : Script α} : next.Reads → Reads (report n next)
  | read (p : Path) {next : Except SystemError Bytes → Script α} :
      (∀ answer, (next answer).Reads) → Reads (read p next)
  | list (p : Path) {next : Except SystemError (List (Except SystemError Name)) → Script α} :
      (∀ answer, (next answer).Reads) → Reads (list p next)
  | isFile (p : Path) {next : Bool → Script α} :
      (∀ answer, (next answer).Reads) → Reads (isFile p next)

namespace Reads

theorem eval_snd (hx : x.Reads) : (x.eval w).2 = w := by
  induction hx with
  | done | fail => rfl
  | report _ _ ih => exact ih
  | read _ _ ih | list _ _ ih | isFile _ _ ih => exact ih _

theorem eval_eq (hx : x.Reads) : x.eval w = ((x.eval w).1, w) := Prod.ext rfl hx.eval_snd

theorem run_snd (hx : x.Reads) {r : Except Failure α}
    (h : x.run {} { workspace := w } = (r, s)) : s = { workspace := w } := by
  rw [run_silent, hx.eval_snd] at h
  exact (congrArg Prod.snd h).symm

end Reads

/-- A script that reports notices of `N`, reads files of `R`, lists folders and looks for files of `L`
and writes files of `W`, and does no more, whatever it is answered. -/
inductive Within (N : Notice → Prop) (R L W : Path → Prop) : Script α → Prop
  | done (a : α) : Within N R L W (done a)
  | fail (e : Failure) : Within N R L W (fail e)
  | report {n : Notice} {next : Script α} : N n → next.Within N R L W →
      Within N R L W (report n next)
  | read {p : Path} {next : Except SystemError Bytes → Script α} : R p →
      (∀ answer, (next answer).Within N R L W) → Within N R L W (read p next)
  | list {p : Path} {next : Except SystemError (List (Except SystemError Name)) → Script α} : L p →
      (∀ answer, (next answer).Within N R L W) → Within N R L W (list p next)
  | isFile {p : Path} {next : Bool → Script α} : L p →
      (∀ answer, (next answer).Within N R L W) → Within N R L W (isFile p next)
  | write {p : Path} (content : Bytes) {next : Except SystemError Unit → Script α} : W p →
      (∀ answer, (next answer).Within N R L W) → Within N R L W (write p content next)

namespace Within

variable {N : Notice → Prop} {R L W : Path → Prop}

theorem tell {n : Notice} (h : N n) : (tell n).Within N R L W := .report h (.done ())

theorem orFail {ε : Type} (failure : ε → Failure) (answer : Except ε α) :
    (orFail failure answer).Within N R L W := by
  cases answer with
  | ok a => exact .done a
  | error e => exact .fail _

theorem bind (hx : x.Within N R L W) (hf : ∀ a, (f a).Within N R L W) : (x >>= f).Within N R L W := by
  induction hx with
  | done a => exact hf a
  | fail e => exact .fail e
  | report h _ ih => exact .report h ih
  | read h _ ih => exact .read h ih
  | list h _ ih => exact .list h ih
  | isFile h _ ih => exact .isFile h ih
  | write content h _ ih => exact .write content h ih

theorem map {g : α → β} (hx : x.Within N R L W) : (g <$> x).Within N R L W :=
  hx.bind fun a ↦ .done (g a)

theorem reads (hx : x.Within N R L fun _ ↦ False) : x.Reads := by
  induction hx with
  | done a => exact .done a
  | fail e => exact .fail e
  | report _ _ ih => exact .report _ ih
  | read _ _ ih => exact .read _ ih
  | list _ _ ih => exact .list _ ih
  | isFile _ _ ih => exact .isFile _ ih
  | write _ h => exact h.elim

theorem eval_congr (hx : x.Within N R L fun _ ↦ False)
    (reads : ∀ p, R p → w'.read p = w.read p) (lists : ∀ p, L p → w'.list p = w.list p)
    (files : ∀ p, L p → w'.isFile p = w.isFile p) : (x.eval w').1 = (x.eval w).1 := by
  induction hx with
  | done | fail => rfl
  | report _ _ ih => exact ih
  | @read p next h _ ih =>
    have answer := reads p h
    change ((next (w'.read p)).eval w').1 = _
    rw [answer]
    exact ih _
  | list h _ ih =>
    rw [eval_list, Workspace.entries_congr (lists _ h)]
    exact ih _
  | isFile h _ ih =>
    rw [eval_isFile, files _ h]
    exact ih _
  | write _ h => exact h.elim

end Within

end Script

end TestMatrix
