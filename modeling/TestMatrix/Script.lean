import TestMatrix.FileTree.Access
import TestMatrix.Notice
namespace TestMatrix

/-- What a run does, one step after the other: it reports, asks the file system and ends with a value
or a failure. What it does next depends on the answers alone. -/
inductive Script (α : Type) where
  | done (value : α)
  | fail (failure : Failure)
  | report (notice : Notice) (next : Script α)
  | read (path : Path) (next : Except SystemError Bytes → Script α)
  | list (path : Path) (next : Except SystemError (List (Except SystemError Name)) → Script α)
  | isFile (path : Path) (next : Bool → Script α)
  | write (path : Path) (content : Bytes) (next : Except SystemError Unit → Script α)

namespace Script

variable {α β : Type}

def bind (s : Script α) (f : α → Script β) : Script β :=
  match s with
  | done value => f value
  | fail failure => fail failure
  | report notice next => report notice (next.bind f)
  | read path next => read path fun answer ↦ (next answer).bind f
  | list path next => list path fun answer ↦ (next answer).bind f
  | isFile path next => isFile path fun answer ↦ (next answer).bind f
  | write path content next => write path content fun answer ↦ (next answer).bind f

instance : Monad Script where
  pure := done
  bind := bind

theorem bind_done (s : Script α) : s.bind done = s := by
  induction s with
  | done | fail => rfl
  | report _ _ ih => exact congrArg _ ih
  | read _ _ ih | list _ _ ih | isFile _ _ ih | write _ _ _ ih => exact congrArg _ (funext ih)

theorem bind_assoc {γ : Type} (s : Script α) (f : α → Script β) (g : β → Script γ) :
    (s.bind f).bind g = s.bind fun a ↦ (f a).bind g := by
  induction s with
  | done | fail => rfl
  | report _ _ ih => exact congrArg _ ih
  | read _ _ ih | list _ _ ih | isFile _ _ ih | write _ _ _ ih => exact congrArg _ (funext ih)

instance : LawfulMonad Script := LawfulMonad.mk' Script
  (fun s ↦ bind_done s) (fun _ _ ↦ rfl) bind_assoc

def tell (notice : Notice) : Script Unit := report notice (done ())

def orFail {ε : Type} (failure : ε → Failure) : Except ε α → Script α
  | .ok value => done value
  | .error e => fail (failure e)

end Script

/-- Which notices are shown, and the file that gets a copy of each. `clock` gives the time of a notice
by the number of notices before it. -/
structure Logger where
  threshold : Option Level := none
  copy : Option Location := none
  clock : Nat → String := fun _ ↦ ""

def Logger.shows (l : Logger) (n : Notice) : Bool := l.threshold.any (·.admits n.level)

structure Session where
  workspace : Workspace
  shown : List Notice := []

namespace Session

def report (l : Logger) (s : Session) (n : Notice) : Session :=
  if l.shows n then
    { workspace :=
        match l.copy with
        | some file =>
          s.workspace.append file (Text.Utf8.encode (n.logLine (l.clock s.shown.length) ++ "\n"))
        | none => s.workspace
      shown := s.shown ++ [n] }
  else s

end Session

def Script.run {α : Type} (l : Logger) (s : Session) : Script α → Except Failure α × Session
  | done value => (.ok value, s)
  | fail failure => (.error failure, s)
  | report notice next => next.run l (s.report l notice)
  | read path next => (next (s.workspace.read path)).run l s
  | list path next => (next (s.workspace.entries path)).run l s
  | isFile path next => (next (s.workspace.isFile path)).run l s
  | write path content next =>
    match s.workspace.write path content with
    | .ok workspace => (next (.ok ())).run l { s with workspace }
    | .error e => (next (.error e)).run l s

def Script.eval {α : Type} (w : Workspace) (s : Script α) : Except Failure α × Workspace :=
  let (result, session) := s.run {} { workspace := w }
  (result, session.workspace)

end TestMatrix
