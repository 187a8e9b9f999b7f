import TestMatrix.Proofs.Arguments.Values
import TestMatrix.Proofs.Deployment.Course
import TestMatrix.Proofs.Program.SettingUp
import TestMatrix.Proofs.Script.Notices
namespace TestMatrix

open Text

namespace Level

theorem admits_of_le {quiet loud message : Level} (h : quiet.rank ≤ loud.rank)
    (passes : quiet.admits message = true) : loud.admits message = true :=
  decide_eq_true (Nat.le_trans (of_decide_eq_true passes) h)

end Level

/-- The notice as a run of another level shows it. Only the first one tells the level. -/
def Notice.retold (v : Level) : Notice → Notice
  | ready _ => ready v
  | n => n

namespace Notice

theorem level_retold (v : Level) (n : Notice) : (n.retold v).level = n.level := by
  cases n <;> rfl

theorem Later.retold {n : Notice} (h : n.Later) (v : Level) : n.retold v = n := by
  cases n with
  | ready threshold => exact absurd rfl (h threshold)
  | _ => rfl

end Notice

namespace Message

def retold (v : Level) : Message → Message
  | plain text => plain text
  | notice n => notice (n.retold v)

/-- Whether a level lets the message through. What is no notice has no level. -/
def passes (v : Level) : Message → Bool
  | plain _ => true
  | notice n => v.admits n.level

end Message

namespace Program

variable {clock clock' : Nat → String} {w w' : Workspace} {arguments arguments' : List Bytes}
  {i i' : Invocation} {l : Logger} {log : Option Location} {console : Console}

def work (i : Invocation) : Script Deployment := do
  let made ← deploy i
  match made with
  | .written output tests => Script.tell (.wrote tests output)
  | .rendered _ => pure ()
  return made

theorem work_within (i : Invocation) :
    (work i).Within Notice.Later (i.config = some ·) (fun _ ↦ True) fun _ ↦ True := by
  refine (deploy_within i).bind fun made ↦ ?_
  cases made with
  | written output tests => exact (Script.Within.tell nofun).bind fun _ ↦ .done _
  | rendered text => exact .done _

def later (w : Workspace) (i : Invocation) : List Notice :=
  (work i).notices w ++
    match ((work i).eval w).1 with
    | .ok _ => []
    | .error failure => [.failed failure]

theorem later_of_mem {n : Notice} (h : n ∈ later w i) : n.Later := by
  rcases List.mem_append.1 h with h | h
  · exact (work_within i).notices w n h
  · split at h
    · cases h
    · cases List.mem_singleton.1 h
      nofun

/-- A logged run comes to what the silent one comes to, and shows what its level admits. -/
theorem runLogged_upTo (hl : ∀ file, l.copy = some file → log = some file)
    (ht : l.threshold = some i.verbosity)
    (apart : ∀ file target, i.config = some file → log = some target → ¬w.Names file target) :
    (runLogged l w i console).status = (match ((work i).eval w).1 with | .ok _ => 0 | .error _ => 1) ∧
    (runLogged l w i console).output =
      (match ((work i).eval w).1 with | .ok made => successText console i made | .error _ => "") ∧
    ((work i).eval w).2.UpTo log (runLogged l w i console).workspace ∧
    (runLogged l w i console).messages =
      ((Notice.ready i.verbosity :: later w i).filter (i.verbosity.admits ·.level)).map .notice := by
  have begun : w.UpTo log (started l w i).workspace :=
    Session.upTo_report (s := { workspace := w }) hl .same _
  obtain ⟨result, files, shown⟩ := (work i).run_upTo hl (work_within i)
    (fun file hf target ↦ apart file target hf) begun
  have ran : (script i).run l { workspace := w } = (work i).run l (started l w i) := rfl
  have shows : l.shows = (i.verbosity.admits ·.level) := by
    funext n
    rw [Logger.shows, ht]
    rfl
  have first : (started l w i).shown = [Notice.ready i.verbosity].filter l.shows :=
    Session.shown_report l _ _
  rw [first, ← List.filter_append, List.singleton_append] at shown
  rw [runLogged, ran, later, ← shows]
  rcases hr : (work i).run l (started l w i) with ⟨failure | made, s⟩
  · rw [hr] at result files shown
    rw [← result]
    refine ⟨rfl, rfl, Session.upTo_report hl files _, ?_⟩
    dsimp only at shown ⊢
    rw [Session.shown_report, shown, ← List.filter_append]
    rfl
  · rw [hr] at result files shown
    rw [← result]
    refine ⟨rfl, rfl, files, ?_⟩
    dsimp only at shown ⊢
    rw [shown, List.append_nil]

theorem setUp_at_level (w : Workspace) (i : Invocation) :
    (∃ e, ∀ clock v, setUp clock w { i with verbosity := v } = .error e) ∨
    ∃ log w', (∀ target, log = some target → ∃ name, i.logFile = some name ∧ name ≠ "" ∧
        w.Names (.ofString name) target) ∧
      (∀ p target, w'.Names p target ↔ w.Names p target) ∧
      ∀ clock v, setUp clock w { i with verbosity := v } =
        .ok ({ threshold := some v, copy := log, clock }, w') := by
  cases hf : i.logFile.filter (· ≠ "") with
  | none =>
    refine .inr ⟨none, w, nofun, fun _ _ ↦ .rfl, fun clock v ↦ ?_⟩
    simp only [setUp, hf]
  | some name =>
    cases ho : w.openFile (.ofString name) with
    | error e => exact .inl ⟨e, fun clock v ↦ by simp only [setUp, hf, ho]⟩
    | ok opened =>
      obtain ⟨copy, w'⟩ := opened
      obtain ⟨named, kept⟩ := Workspace.names_openFile ho
      obtain ⟨hn, given⟩ := Option.filter_eq_some_iff.1 hf
      refine .inr ⟨some copy, w', fun target ht ↦ ?_, kept, fun clock v ↦ ?_⟩
      · cases ht
        exact ⟨name, hn, of_decide_eq_true given, named⟩
      · simp only [setUp, hf, ho]

theorem filter_retold {quiet loud : Level} (h : quiet.rank ≤ loud.rank) {rest : List Notice}
    (hr : ∀ n ∈ rest, n.Later) :
    ((Notice.ready quiet :: rest).filter (quiet.admits ·.level)).map Message.notice =
      ((((Notice.ready loud :: rest).filter (loud.admits ·.level)).map Message.notice).map
        (·.retold quiet)).filter (·.passes quiet) := by
  have kept : rest.map (·.retold quiet) = rest :=
    (List.map_congr_left fun n hn ↦ (hr n hn).retold quiet).trans (List.map_id _)
  have same : Notice.ready quiet :: rest = (Notice.ready loud :: rest).map (·.retold quiet) := by
    rw [List.map_cons, kept]
    rfl
  rw [same, List.filter_map, List.map_map, List.map_map, List.filter_map, List.filter_filter]
  refine congrArg (List.map _) (List.filter_congr fun n _ ↦ ?_)
  change quiet.admits (n.retold quiet).level =
    (quiet.admits (n.retold quiet).level && loud.admits n.level)
  rw [Notice.level_retold]
  cases hq : quiet.admits n.level with
  | false => rfl
  | true => exact (Level.admits_of_le h hq).symm

/-- What a run comes to is settled before its level is known: either the log cannot be opened, or
there is one result, one state of the files but for the log, and one list of notices to choose
from. -/
theorem invoke_at_level (w : Workspace) (i : Invocation) (console : Console)
    (apart : ∀ name file, i.logFile = some name → name ≠ "" → i.config = some file →
      ¬w.SameFile (.ofString name) file) :
    (∃ e, ∀ clock v, invoke clock w { i with verbosity := v } console = ⟨1, "", [noLog e], w⟩) ∨
    ∃ (log : Option Location) (after : Workspace) (status : Nat) (output : String)
        (rest : List Notice),
      (∀ target, log = some target → ∃ name, i.logFile = some name ∧ name ≠ "" ∧
        w.Names (.ofString name) target) ∧
      (∀ n ∈ rest, n.Later) ∧
      ∀ clock v,
        (invoke clock w { i with verbosity := v } console).status = status ∧
        (invoke clock w { i with verbosity := v } console).output = output ∧
        after.UpTo log (invoke clock w { i with verbosity := v } console).workspace ∧
        (invoke clock w { i with verbosity := v } console).messages =
          ((Notice.ready v :: rest).filter (v.admits ·.level)).map .notice := by
  rcases setUp_at_level w i with ⟨e, refused⟩ | ⟨log, w', named, kept, ready⟩
  · exact .inl ⟨e, fun clock v ↦ by rw [invoke_eq, refused]⟩
  · refine .inr ⟨log, ((work i).eval w').2,
      (match ((work i).eval w').1 with | .ok _ => 0 | .error _ => 1),
      (match ((work i).eval w').1 with | .ok made => successText console i made | .error _ => ""),
      later w' i, named, fun n ↦ later_of_mem, fun clock v ↦ ?_⟩
    have missed (file : Path) (target : Location) (hf : i.config = some file)
        (ht : log = some target) : ¬w'.Names file target := by
      intro reads
      obtain ⟨name, hn, given, logs⟩ := named target ht
      exact apart name file hn given hf ⟨target, logs, (kept file target).1 reads⟩
    rw [invoke_eq, ready]
    exact runLogged_upTo (i := { i with verbosity := v }) (fun _ h ↦ h) rfl missed

theorem ready_not_mem_tail {v threshold : Level} {rest : List Notice} (h : ∀ n ∈ rest, n.Later) :
    Message.notice (.ready threshold) ∉
      (((Notice.ready v :: rest).filter (v.admits ·.level)).map Message.notice).tail := by
  intro found
  have sub : ((Notice.ready v :: rest).filter (v.admits ·.level)).tail ⊆ rest := by
    rw [List.filter_cons]
    split
    · exact List.filter_sublist.subset
    · exact ((List.tail_sublist _).trans List.filter_sublist).subset
  rw [← List.map_tail, List.mem_map] at found
  obtain ⟨n, hn, same⟩ := found
  exact h n (sub hn) threshold (Message.notice.inj same)

/-- Two runs that are asked for the same but for the level end alike and print the same, and all
files but the log are the same after them. What the quieter one shows is what its level admits of
what the louder one shows, but that its first notice tells its own level. The log must not be the
file that the settings come from; it may lie among the test sources, or be the output itself. -/
theorem run_any_level (asked : Arguments.parse arguments = .ok (.run i))
    (asked' : Arguments.parse arguments' = .ok (.run i'))
    (same : i' = { i with verbosity := i'.verbosity })
    (apart : ∀ name file, i.logFile = some name → name ≠ "" → i.config = some file →
      ¬w.SameFile (.ofString name) file) :
    (run clock w arguments console).status = (run clock' w arguments' console).status ∧
    (run clock w arguments console).output = (run clock' w arguments' console).output ∧
    (∀ l, (∀ name, i.logFile = some name → name ≠ "" → ¬w.Names (.ofString name) l) →
      (run clock w arguments console).workspace.tree.entry? l =
        (run clock' w arguments' console).workspace.tree.entry? l) ∧
    (i.verbosity.rank ≤ i'.verbosity.rank → (run clock w arguments console).messages =
      ((run clock' w arguments' console).messages.map (·.retold i.verbosity)).filter
        (·.passes i.verbosity)) ∧
    ∀ v, .notice (.ready v) ∉ (run clock w arguments console).messages.tail ∧
      .notice (.ready v) ∉ (run clock' w arguments' console).messages.tail := by
  have ran : run clock w arguments console =
      invoke clock w { i with verbosity := i.verbosity } console := by
    rw [run, asked]
  have ran' : run clock' w arguments' console =
      invoke clock' w { i with verbosity := i'.verbosity } console := by
    rw [run, asked', ← same]
  rw [ran, ran']
  rcases invoke_at_level w i console apart with ⟨e, refused⟩ |
    ⟨log, after, status, output, rest, named, later, ends⟩
  · rw [refused, refused]
    exact ⟨rfl, rfl, fun _ _ ↦ rfl, fun _ ↦ rfl, fun v ↦ ⟨List.not_mem_nil, List.not_mem_nil⟩⟩
  · obtain ⟨hs, ho, files, shown⟩ := ends clock i.verbosity
    obtain ⟨hs', ho', files', shown'⟩ := ends clock' i'.verbosity
    refine ⟨hs.trans hs'.symm, ho.trans ho'.symm, fun l unnamed ↦ ?_, fun quieter ↦ ?_,
      fun v ↦ ⟨?_, ?_⟩⟩
    · have away : log ≠ some l := by
        intro hl
        obtain ⟨name, hn, given, logs⟩ := named l hl
        exact unnamed name hn given logs
      rw [files.entry?_eq away, files'.entry?_eq away]
    · rw [shown, shown']
      exact filter_retold quieter later
    · rw [shown]
      exact ready_not_mem_tail later
    · rw [shown']
      exact ready_not_mem_tail later

def configured : Workspace where
  tree :=
    { entries :=
        [(.ofText "t", .folder), (Discovery.testSource :: Location.ofText "t", .file []),
         (.ofText "c", .file (Utf8.encode "pretty: true"))]
      nodup := by decide }

def logging (verbosity : Level) : Invocation where
  source := "t"
  config := some (.ofString "c")
  overrides := { output := some (.ofString "o") }
  verbosity
  logFile := some "t/b_test.c"

theorem run_any_level_logging :
    Arguments.parse (["x", "-st", "-cc", "-oo", "-lt/b_test.c"].map Utf8.encode) =
      .ok (.run (logging .warning)) ∧
    Arguments.parse (["x", "-vvv", "-lt/b_test.c", "-oo", "-cc", "-st"].map Utf8.encode) =
      .ok (.run (logging .trace)) ∧
    ¬configured.SameFile (.ofString "t/b_test.c") (.ofString "c") ∧
    (run (fun _ ↦ "") configured
        (["x", "-st", "-cc", "-oo", "-lt/b_test.c"].map Utf8.encode)).output =
      (run (fun _ ↦ "") configured
        (["x", "-vvv", "-lt/b_test.c", "-oo", "-cc", "-st"].map Utf8.encode)).output ∧
    (run (fun _ ↦ "") configured
        (["x", "-st", "-cc", "-oo", "-lt/b_test.c"].map Utf8.encode)).messages =
      ((run (fun _ ↦ "") configured
        (["x", "-vvv", "-lt/b_test.c", "-oo", "-cc", "-st"].map Utf8.encode)).messages.map
          (·.retold .warning)).filter (·.passes .warning) := by
  have asked : Arguments.parse (["x", "-st", "-cc", "-oo", "-lt/b_test.c"].map Utf8.encode) =
      .ok (.run (logging .warning)) := by rfl
  have asked' : Arguments.parse (["x", "-vvv", "-lt/b_test.c", "-oo", "-cc", "-st"].map
      Utf8.encode) = .ok (.run (logging .trace)) := by rfl
  have logs : configured.Names (.ofString "t/b_test.c")
      [⟨Utf8.encode "b_test.c", by decide⟩, ⟨Utf8.encode "t", by decide⟩] := ⟨_, rfl, rfl⟩
  have reads : configured.Names (.ofString "c") [⟨Utf8.encode "c", by decide⟩] := ⟨_, rfl, rfl⟩
  have apart : ¬configured.SameFile (.ofString "t/b_test.c") (.ofString "c") := by
    intro same
    obtain ⟨l, hl, hc⟩ := same
    cases (hl.unique logs).symm.trans (hc.unique reads)
  obtain ⟨-, output, -, messages, -⟩ := @run_any_level (fun _ ↦ "") (fun _ ↦ "") configured _ _ _ _ {}
    asked asked' rfl fun name file hn _ hf ↦ by
      cases hn
      cases hf
      exact apart
  exact ⟨asked, asked', apart, output, messages (by decide)⟩

end Program

end TestMatrix
