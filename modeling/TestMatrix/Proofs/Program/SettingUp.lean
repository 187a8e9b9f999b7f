import TestMatrix.Program
import TestMatrix.Proofs.Script.Copying
namespace TestMatrix.Program

open Text

variable {clock : Nat → String} {w w' : Workspace} {i : Invocation} {l : Logger} {s : Session}
  {n : Notice} {file target : Location} {made : Deployment} {output : Path} {content : Bytes}

def setUp (clock : Nat → String) (w : Workspace) (i : Invocation) :
    Except SystemError (Logger × Workspace) :=
  match i.logFile.filter (· ≠ "") with
  | none => .ok ({ threshold := some i.verbosity, clock }, w)
  | some file =>
    match w.openFile (.ofString file) with
    | .ok (copy, w') => .ok ({ threshold := some i.verbosity, copy := some copy, clock }, w')
    | .error e => .error e

theorem invoke_eq (clock : Nat → String) (w : Workspace) (i : Invocation) (console : Console) :
    invoke clock w i console =
      match setUp clock w i with
      | .ok (l, w') => runLogged l w' i console
      | .error e => ⟨1, "", [noLog e], w⟩ := by
  rw [invoke, setUp]
  cases i.logFile with
  | none => rfl
  | some file =>
    by_cases h : file = ""
    · subst h
      rfl
    · have named : (some file).filter (· ≠ "") = some file := by simp [h]
      rw [named]
      cases ho : w.openFile (.ofString file) <;> simp [ho]

theorem threshold_of_setUp (h : setUp clock w i = .ok (l, w')) :
    l.threshold = some i.verbosity := by
  rw [setUp] at h
  split at h
  · cases h
    rfl
  · split at h <;> cases h
    rfl

theorem setUp_eq_error_iff {e : SystemError} : setUp clock w i = .error e ↔
    ∃ file, i.logFile = some file ∧ file ≠ "" ∧ w.openFile (.ofString file) = .error e := by
  rw [setUp]
  constructor
  · intro h
    split at h
    · cases h
    · next file hf =>
      obtain ⟨hf, named⟩ := Option.filter_eq_some_iff.1 hf
      split at h
      · cases h
      · next e' he =>
        cases h
        exact ⟨file, hf, of_decide_eq_true named, he⟩
  · intro h
    obtain ⟨file, hf, named, he⟩ := h
    have kept : i.logFile.filter (· ≠ "") = some file :=
      Option.filter_eq_some_iff.2 ⟨hf, decide_eq_true named⟩
    simp only [kept, he]

def started (l : Logger) (w : Workspace) (i : Invocation) : Session :=
  ({ workspace := w } : Session).report l (.ready i.verbosity)

def LogsTo (w : Workspace) (i : Invocation) (target : Location) : Prop :=
  ∃ name content, i.logFile = some name ∧ name ≠ "" ∧
    w.locate false (.ofString name) = .ok (.file target content)

/-- The log file and the output are one file, be it by two paths. -/
def SharesLog (w : Workspace) (i : Invocation) (output : Path) : Prop :=
  ∃ target content, LogsTo w i target ∧ w.locate false output = .ok (.file target content)

theorem LogsTo.unique (h : LogsTo w i file) (h' : LogsTo w i target) : file = target := by
  obtain ⟨name, content, hn, -, located⟩ := h
  obtain ⟨name', content', hn', -, located'⟩ := h'
  cases hn.symm.trans hn'
  cases located.symm.trans located'
  rfl

theorem LogsTo.put (ht : w.tree.Writable target) (content : Bytes) (h : LogsTo w i file) :
    LogsTo (w.put target content) i file := by
  obtain ⟨name, old, hn, named, located⟩ := h
  exact ⟨name, _, hn, named, Workspace.locate_put ht located content⟩

theorem logsTo_of_setUp (h : setUp clock w i = .ok (l, w')) (hc : l.copy = some target) :
    LogsTo w' i target := by
  rw [setUp] at h
  split at h
  · cases h
    cases hc
  · next name hf =>
    obtain ⟨hn, named⟩ := Option.filter_eq_some_iff.1 hf
    split at h
    · next copy _ opened =>
      cases h
      cases hc
      obtain ⟨content, located⟩ := Workspace.locate_of_openFile opened
      exact ⟨name, content, hn, of_decide_eq_true named, located⟩
    · cases h

theorem openFile_of_setUp (h : setUp clock w i = .ok (l, w')) {name : String}
    (hn : i.logFile = some name) (named : name ≠ "") : ∃ target,
      l.copy = some target ∧ l.clock = clock ∧ w.openFile (.ofString name) = .ok (target, w') := by
  have kept : i.logFile.filter (· ≠ "") = some name :=
    Option.filter_eq_some_iff.2 ⟨hn, decide_eq_true named⟩
  simp only [setUp, kept] at h
  split at h
  · next target _ opened =>
    cases h
    exact ⟨target, rfl, rfl, opened⟩
  · cases h

/-- The log goes to one file from beginning to end, whatever is written. -/
theorem copy_eq_some_iff (h : setUp clock w i = .ok (l, w')) {α : Type} (x : Script α) :
    l.copy = some target ↔ LogsTo (x.run l { workspace := w' }).2.workspace i target := by
  have kept {target : Location} (hc : l.copy = some target) :
      LogsTo (x.run l { workspace := w' }).2.workspace i target :=
    x.run_keeps (fun _ _ content ht ↦ LogsTo.put ht content) (logsTo_of_setUp h hc)
  refine ⟨kept, fun logs ↦ ?_⟩
  obtain ⟨name, -, hn, named, -⟩ := id logs
  obtain ⟨file, hc, -⟩ := openFile_of_setUp h hn named
  rw [hc, (kept hc).unique logs]

/-- What setting up the logger leaves alone: the names of all files, and what is not the log. -/
theorem kept_of_setUp (h : setUp clock w i = .ok (l, w')) :
    (∀ p target, w'.Names p target ↔ w.Names p target) ∧
      (∀ target, l.copy = some target →
        ∃ name, i.logFile = some name ∧ name ≠ "" ∧ w.Names (.ofString name) target) ∧
      ∀ target, l.copy ≠ some target → w'.tree.entry? target = w.tree.entry? target := by
  rw [setUp] at h
  split at h
  · cases h
    exact ⟨fun _ _ ↦ .rfl, nofun, fun _ _ ↦ rfl⟩
  · next name hf =>
    obtain ⟨hn, named⟩ := Option.filter_eq_some_iff.1 hf
    split at h
    · next copy _ opened =>
      cases h
      obtain ⟨names, kept⟩ := Workspace.names_openFile opened
      refine ⟨kept, ?_, ?_⟩
      · intro target hc
        cases hc
        exact ⟨name, hn, of_decide_eq_true named, names⟩
      · intro target away
        exact Workspace.entry?_openFile opened fun same ↦ away (congrArg some same)
    · cases h

/-- The last notice stands behind what was written, if both go to one file and it is shown. -/
theorem read_saved (ready : setUp clock w i = .ok (l, w'))
    (ran : (script i).run l { workspace := w' } = (.ok made, s.report l n))
    (written : s.workspace.locate false output = .ok (.file target content)) :
    (¬(SharesLog (s.report l n).workspace i output ∧ l.shows n) →
        (s.report l n).workspace.read output = .ok content) ∧
      (SharesLog (s.report l n).workspace i output ∧ l.shows n →
        (s.report l n).workspace.read output = .ok (content ++ Session.line l s n)) := by
  have located := Session.locate_report l n written
  have read := Workspace.read_eq_ok_iff.2 ⟨_, located⟩
  have logs : l.copy = some target ↔ _ := copy_eq_some_iff ready (script i)
  rw [ran] at logs
  have shared : SharesLog (s.report l n).workspace i output ↔ l.copy = some target := by
    rw [logs]
    constructor
    · intro h
      obtain ⟨file, content, logged, same⟩ := h
      cases located.symm.trans same
      exact logged
    · exact fun logged ↦ ⟨target, _, logged, located⟩
  rw [shared]
  constructor
  · intro apart
    rw [read, if_neg fun h ↦ apart h.symm, List.append_nil]
  · intro mixed
    rw [read, if_pos mixed.symm]

theorem read_saved_append (ready : setUp clock w i = .ok (l, w'))
    (ran : (script i).run l { workspace := w' } = (.ok made, s.report l n))
    (written : s.workspace.locate false output = .ok (.file target content)) :
    ∃ tail, (s.report l n).workspace.read output = .ok (content ++ tail) ∧
      (¬SharesLog (s.report l n).workspace i output → tail = []) := by
  obtain ⟨apart, shared⟩ := read_saved ready ran written
  by_cases mixed : SharesLog (s.report l n).workspace i output ∧ l.shows n
  · exact ⟨_, shared mixed, fun separate ↦ absurd mixed.1 separate⟩
  · exact ⟨[], by rw [apart mixed, List.append_nil], fun _ ↦ rfl⟩

end TestMatrix.Program
