import TestMatrix.Proofs.Program.Artifact
import TestMatrix.Proofs.Script.Copying
namespace TestMatrix

open Text

variable {clock : Nat → String} {w w' : Workspace} {arguments : List Bytes} {i : Invocation}
  {l : Logger} {s s' : Session} {p q : Path} {file target : Location} {before : Bytes}
  {settings : Settings} {m : Manifest} {console : Console}

namespace Deployment

theorem Prepared.copies (h : Prepared l s i settings m s') (hs : s.Copies l p target before) :
    s'.Copies l p target before := by
  obtain ⟨between, resolved, built⟩ := h
  have first := (Settings.resolve_reads i.config i.overrides).copies resolved hs
  exact (Discovery.build_reads settings.convention i.source).copies built first

theorem Prepared.names_iff (h : Prepared l s i settings m s') :
    s'.workspace.Names q file ↔ s.workspace.Names q file := by
  obtain ⟨between, resolved, built⟩ := h
  exact (Script.names_of_run built).trans (Script.names_of_run resolved)

/-- However a deployment ends, the log file has a line for each notice shown, unless the output was to
be written there. -/
theorem Course.copies {result : Except Failure Deployment} (h : Course l s i result s')
    (hs : s.Copies l p target before)
    (apart : ∀ settings between, (Settings.resolve i.config i.overrides).run l s =
      (.ok settings, between) → i.dryRun = false → ¬s.workspace.Names settings.output target) :
    s'.Copies l p target before := by
  cases h with
  | unsettled resolved => exact (Settings.resolve_reads _ _).copies resolved hs
  | unlisted resolved built =>
    have first := (Settings.resolve_reads _ _).copies resolved hs
    exact (Discovery.build_reads _ _).copies built first
  | shown prepared => exact (prepared.copies hs).report _
  | unwritten prepared => exact ((prepared.copies hs).report _).report _
  | @written settings m ready _ prepared wet hw =>
    have reported : (writing l ready i settings m).Copies l p target before :=
      ((prepared.copies hs).report _).report _
    refine reported.write hw fun names ↦ ?_
    obtain ⟨between, resolved, -⟩ := id prepared
    have earlier := Session.names_report.1 (Session.names_report.1 names)
    exact apart _ _ resolved wet (prepared.names_iff.1 earlier)

end Deployment

namespace Program

/-- A run shows what its session shows, and its log file has a line for each of it. -/
theorem runLogged_copies (begun : (started l w i).Copies l p target before)
    (apart : ∀ settings between, (Settings.resolve i.config i.overrides).run l (started l w i) =
      (.ok settings, between) → i.dryRun = false →
        ¬(started l w i).workspace.Names settings.output target) :
    ∃ s : Session, s.Copies l p target before ∧
      (runLogged l w i console).messages = s.shown.map .notice ∧
      (runLogged l w i console).workspace = s.workspace := by
  have first : (script i).run l { workspace := w } = _ := Script.run_tell_bind
  rw [runLogged]
  rcases hd : (deploy i).run l (started l w i) with ⟨failure | made, left⟩
  · have copied := (Deployment.course_of_run hd).copies begun apart
    have ran := first.trans (Script.run_bind_error hd)
    rw [ran]
    exact ⟨_, copied.report (.failed failure), rfl, rfl⟩
  · have copied := (Deployment.course_of_run hd).copies begun apart
    have ran := first.trans (Script.run_bind_ok hd)
    rw [ran]
    cases made with
    | written output tests => exact ⟨_, copied.report (.wrote tests output), rfl, rfl⟩
    | rendered text => exact ⟨_, copied, rfl, rfl⟩

/-- The log file and the error stream tell the same. A run that logs keeps what its log file held and
adds a line for each message it shows, in their order: the file has the time, the level and the origin
before the text, the stream has the text in the colour of that level. A run that is not dry must not
write its output to the log file. -/
theorem log_copies {name : String} (asked : Arguments.parse arguments = .ok (.run i))
    (hn : i.logFile = some name) (named : name ≠ "") (ready : setUp clock w i = .ok (l, w'))
    (apart : ∀ settings between, (Settings.resolve i.config i.overrides).run l (started l w' i) =
      (.ok settings, between) → i.dryRun = false →
        ¬w.SameFile (.ofString name) settings.output) :
    ∃ (before : Bytes) (shown : List Notice),
      (w.read (.ofString name) = .ok before ∨
        w.read (.ofString name) = .error .notFound ∧ before = []) ∧
      (run clock w arguments console).messages = shown.map .notice ∧
      (run clock w arguments console).errors = String.join (shown.map fun n ↦
        "\x1b[" ++ toString n.level.colour ++ "m" ++ n.text ++ "\x1b[0m" ++ "\n") ∧
      (run clock w arguments console).workspace.read (.ofString name) = .ok (before ++
        Utf8.encode (String.join (shown.mapIdx fun k n ↦ "[" ++ clock k ++ " " ++ n.level.label ++
          " " ++ n.origin ++ "] " ++ n.text ++ "\n"))) ∧
      ∀ n ∈ shown, (n.level.label, n.level.colour) ∈
        [("ERROR", 31), ("WARN", 33), ("INFO", 37), ("DEBUG", 37), ("TRACE", 90)] := by
  obtain ⟨target, copy, rfl, opened⟩ := openFile_of_setUp ready hn named
  obtain ⟨before, located, held⟩ := Workspace.read_of_openFile opened
  obtain ⟨names, kept⟩ := Workspace.names_openFile opened
  have begun := (Session.Copies.fresh copy located).report (.ready i.verbosity)
  have missed : ∀ settings between, (Settings.resolve i.config i.overrides).run l
      (started l w' i) = (.ok settings, between) → i.dryRun = false →
        ¬(started l w' i).workspace.Names settings.output target := by
    intro settings between resolved wet found
    have there := (kept _ _).1 (Session.names_report.1 found)
    exact apart settings between resolved wet ⟨target, names, there⟩
  obtain ⟨s, ⟨-, copied⟩, messages, workspace⟩ := runLogged_copies begun missed
  simp only [run, asked, invoke_eq, ready]
  refine ⟨before, s.shown, held, messages, ?_, ?_, fun n _ ↦ ?_⟩
  · rw [Outcome.errors, messages, List.map_map]
    rfl
  · rw [workspace]
    exact Workspace.read_eq_ok_iff.2 ⟨target, copied⟩
  · cases n.level <;> decide

def logged : Invocation where
  source := "t"
  overrides := { output := some (.ofString "o") }
  verbosity := .info
  logFile := some "l"

theorem log_copies_sample :
    Arguments.parse (["x", "-st", "-oo", "-ll", "-v"].map Utf8.encode) = .ok (.run logged) ∧
    (∃ l w', setUp (fun _ ↦ "0") single logged = .ok (l, w')) ∧
    ¬single.SameFile (.ofString "l") (.ofString "o") ∧
    ∃ (before : Bytes) (shown : List Notice),
      (run (fun _ ↦ "0") single (["x", "-st", "-oo", "-ll", "-v"].map Utf8.encode)).messages =
        shown.map .notice ∧
      (run (fun _ ↦ "0") single (["x", "-st", "-oo", "-ll", "-v"].map
        Utf8.encode)).workspace.read (.ofString "l") = .ok (before ++
          Utf8.encode (String.join (shown.mapIdx fun _ n ↦ "[" ++ "0" ++ " " ++ n.level.label ++
            " " ++ n.origin ++ "] " ++ n.text ++ "\n"))) := by
  have asked : Arguments.parse (["x", "-st", "-oo", "-ll", "-v"].map Utf8.encode) =
      .ok (.run logged) := by rfl
  have logs : single.Names (.ofString "l") [⟨Utf8.encode "l", by decide⟩] := ⟨_, rfl, rfl⟩
  have writes : single.Names (.ofString "o") log := ⟨_, rfl, rfl⟩
  have apart : ¬single.SameFile (.ofString "l") (.ofString "o") := by
    intro same
    obtain ⟨target, hl, ho⟩ := same
    cases (hl.unique logs).symm.trans (ho.unique writes)
  obtain ⟨l, w', ready⟩ : ∃ l w', setUp (fun _ ↦ "0") single logged = .ok (l, w') := ⟨_, _, rfl⟩
  have chosen (settings : Settings) (between : Session) (resolved :
      (Settings.resolve logged.config logged.overrides).run l (started l w' logged) =
        (.ok settings, between)) : settings.output = .ofString "o" := by
    cases resolved
    rfl
  obtain ⟨before, shown, -, messages, -, content, -⟩ :=
    log_copies asked rfl (by decide) ready fun settings between resolved _ same ↦
      apart (chosen settings between resolved ▸ same)
  exact ⟨asked, ⟨l, w', ready⟩, apart, before, shown, messages, content⟩

end Program

end TestMatrix
