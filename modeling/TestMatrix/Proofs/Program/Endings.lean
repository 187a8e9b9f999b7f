import TestMatrix.Proofs.Arguments.Help
import TestMatrix.Proofs.Arguments.Values
import TestMatrix.Proofs.Deployment.Course
import TestMatrix.Proofs.Program.SettingUp
namespace TestMatrix

open Text

namespace Failure

/-- The display of a failure and those of its causes, the outermost first. -/
def chain (f : Failure) : List String := f.message :: (f.cause?.map Cause.message).toList

theorem report_eq_intercalate (f : Failure) : f.report = ": ".intercalate f.chain := by
  rw [report, chain]
  cases f.cause? with
  | none => exact String.intercalate_singleton.symm
  | some cause =>
    rw [Option.map_some, Option.toList_some, String.intercalate_cons_cons,
      String.intercalate_singleton]
    rfl

end Failure

theorem Logger.shows_failed {l : Logger} {threshold : Level} (h : l.threshold = some threshold)
    (f : Failure) : l.shows (.failed f) = true := by
  rw [shows, h]
  cases threshold <;> rfl

namespace Deployment

variable {logger : Logger} {s s' : Session} {i : Invocation} {settings : Settings} {m : Manifest}
  {target : Location}

theorem Prepared.entry?_eq (h : Prepared logger s i settings m s')
    (away : logger.copy ≠ some target) :
    s'.workspace.tree.entry? target = s.workspace.tree.entry? target := by
  obtain ⟨between, resolved, built⟩ := h
  have first := (Settings.resolve_reads i.config i.overrides).entry?_run resolved away
  have second := (Discovery.build_reads settings.convention i.source).entry?_run built away
  exact second.trans first

theorem entry?_writing (away : logger.copy ≠ some target) :
    (writing logger s i settings m).workspace.tree.entry? target =
      s.workspace.tree.entry? target :=
  (Session.entry?_report away _).trans (Session.entry?_report away _)

/-- A deployment touches no file but the log and the one that its output names. -/
theorem Course.entry?_eq {result : Except Failure Deployment} (h : Course logger s i result s')
    (away : logger.copy ≠ some target) (apart : ∀ output tests,
      result = .ok (.written output tests) → ¬s'.workspace.Names output target) :
    s'.workspace.tree.entry? target = s.workspace.tree.entry? target := by
  cases h with
  | unsettled resolved => exact (Settings.resolve_reads _ _).entry?_run resolved away
  | unlisted resolved built =>
    have first := (Settings.resolve_reads _ _).entry?_run resolved away
    exact ((Discovery.build_reads _ _).entry?_run built away).trans first
  | shown prepared => exact (Session.entry?_report away _).trans (prepared.entry?_eq away)
  | unwritten prepared => exact (entry?_writing away).trans (prepared.entry?_eq away)
  | @written settings m ready after prepared _ hw =>
    obtain ⟨-, place, l, -, -, located, rewritten⟩ := Workspace.write_spec hw
    have other : target ≠ l := by
      intro same
      exact apart _ _ rfl (same ▸ Workspace.names_of_locate located)
    exact (rewritten.elsewhere _ other).trans
      ((entry?_writing away).trans (prepared.entry?_eq away))

end Deployment

namespace Program

variable {clock : Nat → String} {w w' : Workspace} {arguments : List Bytes} {console : Console}
  {i : Invocation} {l : Logger} {s s' : Session} {failure : Failure} {text : String}
  {output : Path} {tests : Nat}

/-- All is as it was, but perhaps for the log file and the file that the path names. -/
def Untouched (w left : Workspace) (i : Invocation) (written : Option Path) : Prop :=
  ∀ target, (∀ p, written = some p → ¬w.Names p target) →
    (∀ name, i.logFile = some name → name ≠ "" → ¬w.Names (.ofString name) target) →
    left.tree.entry? target = w.tree.entry? target

theorem untouched_of_deploy {result : Except Failure Deployment} (written : Option Path)
    (ready : setUp clock w i = .ok (l, w'))
    (h : (deploy i).run l (started l w' i) = (result, s)) (n : Notice)
    (hw : ∀ output tests, result = .ok (.written output tests) → written = some output) :
    Untouched w s.workspace i written ∧ Untouched w (s.report l n).workspace i written := by
  obtain ⟨names, logged, kept⟩ := kept_of_setUp ready
  have stays (target : Location) (away : ∀ p, written = some p → ¬w.Names p target)
      (unlogged : ∀ name, i.logFile = some name → name ≠ "" → ¬w.Names (.ofString name) target) :
      l.copy ≠ some target ∧ s.workspace.tree.entry? target = w.tree.entry? target := by
    have copy : l.copy ≠ some target := by
      intro hc
      obtain ⟨name, hn, named, logs⟩ := logged target hc
      exact unlogged name hn named logs
    have course := (Deployment.course_of_run h).entry?_eq copy fun output tests hr found ↦ by
      have earlier := Session.names_report.1 ((Script.names_of_run h).1 found)
      exact away output (hw output tests hr) ((names _ _).1 earlier)
    exact ⟨copy, course.trans ((Session.entry?_report copy _).trans (kept target copy))⟩
  constructor
  · intro target away unlogged
    exact (stays target away unlogged).2
  · intro target away unlogged
    obtain ⟨copy, same⟩ := stays target away unlogged
    exact (Session.entry?_report copy n).trans same

theorem runLogged_failed (h : (deploy i).run l (started l w i) = (.error failure, s)) :
    runLogged l w i console = ⟨1, "", (s.report l (.failed failure)).shown.map .notice,
      (s.report l (.failed failure)).workspace⟩ := by
  have ran : (script i).run l { workspace := w } = (.error failure, s) := by
    rw [script, Script.run_tell_bind]
    exact Script.run_bind_error h
  rw [runLogged, ran]

theorem runLogged_shown (h : (deploy i).run l (started l w i) = (.ok (.rendered text), s)) :
    runLogged l w i console = ⟨0, text ++ "\n", s.shown.map .notice, s.workspace⟩ := by
  have ran : (script i).run l { workspace := w } = (.ok (.rendered text), s) := by
    rw [script, Script.run_tell_bind]
    exact Script.run_bind_ok h
  rw [runLogged, ran]
  rfl

theorem script_run_written
    (h : (deploy i).run l (started l w i) = (.ok (.written output tests), s)) :
    (script i).run l { workspace := w } =
      (.ok (.written output tests), s.report l (.wrote tests output)) := by
  rw [script, Script.run_tell_bind]
  exact Script.run_bind_ok h

theorem runLogged_written
    (h : (deploy i).run l (started l w i) = (.ok (.written output tests), s)) :
    runLogged l w i console = ⟨0, successMessage i.source console ++ "\n",
      (s.report l (.wrote tests output)).shown.map .notice,
      (s.report l (.wrote tests output)).workspace⟩ := by
  rw [runLogged, script_run_written h]
  rfl

/-- The line that confirms a manifest, in colours on a terminal that has them. -/
def confirmation (console : Console) (source : String) : String :=
  if console.terminal ∧ console.colours then
    "\x1b[32mJSON created successfully for folder\x1b[0m " ++ Terminal.setOff "\x1b[1m" source ++ "\n"
  else "JSON created successfully for folder " ++ source ++ "\n"

theorem successMessage_eq (source : String) (console : Console) :
    successMessage source console ++ "\n" = confirmation console source := by
  rcases console with ⟨_ | _, _ | _, styles⟩
  · rfl
  · rfl
  · rfl
  · have made : Terminal.setOff Terminal.green "JSON created successfully for folder" ++ " " =
        "\x1b[32mJSON created successfully for folder\x1b[0m " := by decide +kernel
    exact congrArg (· ++ Terminal.setOff Terminal.bold source ++ "\n") made

/-- What a terminal shows of a confirmation in colours. -/
theorem plain_confirmation (source : String) (h : console.terminal ∧ console.colours) :
    Terminal.plain (confirmation console source) =
      "JSON created successfully for folder " ++ Terminal.plain source ++ "\n" := by
  have made : Terminal.Legible "JSON created successfully for folder" := by decide +kernel
  have space : Terminal.Legible " " := by decide +kernel
  have line : Terminal.Legible "\n" := by decide +kernel
  have first := (made.shows_wrap Terminal.silent_green).append space.shows
  have second := Terminal.shows_setOff Terminal.silent_bold source
  rw [confirmation, if_pos h]
  exact ((first.append second).append line.shows).plain_eq

theorem confirmation_eq (source : String) (h : console.terminal ∧ console.colours)
    (clean : '\x1b' ∉ source.toList) : confirmation console source =
      "\x1b[32mJSON created successfully for folder\x1b[0m \x1b[1m" ++ source ++ "\x1b[0m\n" := by
  have front : "\x1b[32mJSON created successfully for folder\x1b[0m \x1b[1m" =
      "\x1b[32mJSON created successfully for folder\x1b[0m " ++ "\x1b[1m" := by decide +kernel
  have back : "\x1b[0m\n" = Terminal.reset ++ "\n" := by decide +kernel
  rw [confirmation, if_pos h, Terminal.setOff_eq_wrap clean, Terminal.wrap, front, back]
  simp only [String.append_assoc]

inductive Ending
  | displayed (d : Arguments.Display)
  | refused (fault : Arguments.Fault)
  | unlogged (i : Invocation) (e : SystemError)
  | failed (i : Invocation) (failure : Failure)
  | shown (i : Invocation) (text : String)
  | saved (i : Invocation) (output : Path) (tests : Nat)
deriving DecidableEq

structure Deployed (clock : Nat → String) (w : Workspace) (arguments : List Bytes) (i : Invocation)
    (l : Logger) (w' : Workspace) (result : Except Failure Deployment) : Prop where
  parsed : Arguments.parse arguments = .ok (.run i)
  ready : setUp clock w i = .ok (l, w')
  came_to : ((deploy i).run l (started l w' i)).1 = result

/-- What an ending means: where it comes from, and what the outcome shows of it. -/
def Ending.Holds (clock : Nat → String) (w : Workspace) (arguments : List Bytes)
    (console : Console) (o : Outcome) : Ending → Prop
  | displayed d =>
    Arguments.parse arguments =
        .ok (.display d (d.text (Arguments.calledName arguments))) ∧
      o.output = (if console.styles then d.styled (Arguments.calledName arguments)
        else d.text (Arguments.calledName arguments)) ∧
      Terminal.plain o.output = d.text (Arguments.calledName arguments) ∧
      o.status = 0 ∧ o.messages = [] ∧ o.workspace = w
  | refused fault =>
    Arguments.parse arguments = .error fault ∧
      o.status = 1 ∧ o.output = usage ++ "\n" ∧
      o.messages = [.plain ("Wrong arguments: " ++ fault.message)] ∧ o.workspace = w
  | unlogged i e =>
    Arguments.parse arguments = .ok (.run i) ∧
      (∃ file, i.logFile = some file ∧ file ≠ "" ∧ w.openFile (.ofString file) = .error e) ∧
      o.status = 1 ∧ o.output = "" ∧
      o.messages = [.plain ("Failed to initialise logging: " ++ e.message)] ∧ o.workspace = w
  | failed i failure =>
    ∃ l w', Deployed clock w arguments i l w' (.error failure) ∧
      o.status = 1 ∧ o.output = "" ∧
      (∃ earlier, o.messages = earlier ++ [.notice (.failed failure)]) ∧
      (Message.notice (.failed failure)).text =
        "\x1b[31m" ++ ": ".intercalate failure.chain ++ "\x1b[0m" ++ "\n" ∧
      Untouched w o.workspace i none
  | shown i text =>
    ∃ l w', Deployed clock w arguments i l w' (.ok (.rendered text)) ∧
      (∃ settings m before, Deployment.Prepared l (started l w' i) i settings m before ∧
        i.dryRun = true ∧ text = m.render settings.pretty) ∧
      o.status = 0 ∧ o.output = text ++ "\n" ∧ Untouched w o.workspace i none
  | saved i output tests =>
    ∃ l w', Deployed clock w arguments i l w' (.ok (.written output tests)) ∧
      (∃ settings m before after content tail,
        Deployment.Prepared l (started l w' i) i settings m before ∧
        i.dryRun = false ∧ output = settings.output ∧ tests = m.size ∧
        content = Utf8.encode (m.render settings.pretty) ∧
        (Deployment.writing l before i settings m).workspace.write output content = .ok after ∧
        after.read output = .ok content ∧ o.workspace.read output = .ok (content ++ tail) ∧
        (¬SharesLog o.workspace i output → tail = [])) ∧
      Untouched w o.workspace i (some output) ∧
      (∃ word ∈ arguments.tail, Arguments.Gives word (Utf8.encode i.source)) ∧
      o.status = 0 ∧ o.output = confirmation console i.source ∧
      (console.terminal ∧ console.colours →
        Terminal.plain o.output =
          "JSON created successfully for folder " ++ Terminal.plain i.source ++ "\n" ∧
        ('\x1b' ∉ i.source.toList → o.output =
          "\x1b[32mJSON created successfully for folder\x1b[0m \x1b[1m" ++ i.source ++ "\x1b[0m\n"))

def ending (clock : Nat → String) (w : Workspace) (arguments : List Bytes) : Ending :=
  match Arguments.parse arguments with
  | .error fault => .refused fault
  | .ok (.display d _) => .displayed d
  | .ok (.run i) =>
    match setUp clock w i with
    | .error e => .unlogged i e
    | .ok (l, w') =>
      match ((deploy i).run l (started l w' i)).1 with
      | .error failure => .failed i failure
      | .ok (.rendered text) => .shown i text
      | .ok (.written output tests) => .saved i output tests

theorem Ending.Holds.eq_ending {o : Outcome} {e : Ending}
    (h : e.Holds clock w arguments console o) : e = ending clock w arguments := by
  cases e with
  | displayed d => rw [ending, h.1]
  | refused fault => rw [ending, h.1]
  | unlogged i e =>
    obtain ⟨parsed, refused, -⟩ := h
    simp only [ending, parsed, setUp_eq_error_iff.2 refused]
  | failed i failure =>
    obtain ⟨l, w', ⟨parsed, ready, came_to⟩, -⟩ := h
    simp only [ending, parsed, ready, came_to]
  | shown i text =>
    obtain ⟨l, w', ⟨parsed, ready, came_to⟩, -⟩ := h
    simp only [ending, parsed, ready, came_to]
  | saved i output tests =>
    obtain ⟨l, w', ⟨parsed, ready, came_to⟩, -⟩ := h
    simp only [ending, parsed, ready, came_to]

theorem text_of_display {d : Arguments.Display} {text : String}
    (h : Arguments.parse arguments = .ok (.display d text)) :
    text = d.text (Arguments.calledName arguments) := by
  rw [Arguments.parse] at h
  split at h
  · obtain ⟨-, -, h⟩ := ok_of_bind h
    obtain ⟨_, -, h⟩ := ok_of_bind h
    cases h
  · cases h
  · cases h
    rfl

theorem failed_text (failure : Failure) : (Message.notice (.failed failure)).text =
    "\x1b[31m" ++ ": ".intercalate failure.chain ++ "\x1b[0m" ++ "\n" := by
  have colour : "\x1b[" ++ toString Level.error.colour ++ "m" = "\x1b[31m" := by decide
  rw [← failure.report_eq_intercalate, ← colour]
  rfl

theorem holds_failed (parsed : Arguments.parse arguments = .ok (.run i))
    (ready : setUp clock w i = .ok (l, w'))
    (h : (deploy i).run l (started l w' i) = (.error failure, s)) :
    (Ending.failed i failure).Holds clock w arguments console (runLogged l w' i console) := by
  have stays := untouched_of_deploy none ready h (.failed failure) nofun
  have told := Logger.shows_failed (threshold_of_setUp ready) failure
  have last : (s.report l (.failed failure)).shown = s.shown ++ [.failed failure] := by
    rw [Session.shown_report, List.filter_cons_of_pos told, List.filter_nil]
  rw [runLogged_failed h, last, List.map_append]
  exact ⟨l, w', ⟨parsed, ready, congrArg Prod.fst h⟩, rfl, rfl, ⟨_, rfl⟩, failed_text failure,
    stays.2⟩

theorem holds_shown (parsed : Arguments.parse arguments = .ok (.run i))
    (ready : setUp clock w i = .ok (l, w'))
    (h : (deploy i).run l (started l w' i) = (.ok (.rendered text), s)) :
    (Ending.shown i text).Holds clock w arguments console (runLogged l w' i console) := by
  have came_to := congrArg Prod.fst h
  have stays := untouched_of_deploy none ready h (.ready i.verbosity) nofun
  rw [runLogged_shown h]
  exact ⟨l, w', ⟨parsed, ready, came_to⟩, Deployment.prepared_of_rendered came_to, rfl, rfl,
    stays.1⟩

theorem holds_saved (parsed : Arguments.parse arguments = .ok (.run i))
    (ready : setUp clock w i = .ok (l, w'))
    (h : (deploy i).run l (started l w' i) = (.ok (.written output tests), s)) :
    (Ending.saved i output tests).Holds clock w arguments console (runLogged l w' i console) := by
  have names (path : Path) (n : Nat) (same : (Except.ok (.written output tests) :
      Except Failure Deployment) = .ok (.written path n)) : some output = some path := by
    cases same
    rfl
  have stays := untouched_of_deploy (some output) ready h (.wrote tests output) names
  have deployed : Deployed clock w arguments i l w' (.ok (.written output tests)) :=
    ⟨parsed, ready, congrArg Prod.fst h⟩
  have ran := script_run_written h
  rw [runLogged_written h, successMessage_eq]
  cases Deployment.course_of_run h with
  | @written settings m before after prepared asked hw =>
    obtain ⟨back, -, target, -, -, located, -⟩ := Workspace.write_spec hw
    obtain ⟨tail, read, alone⟩ := read_saved_append ready ran located
    refine ⟨l, w', deployed, ?_, stays.2, Arguments.source_of_parse parsed, rfl, rfl,
      fun h ↦ ⟨plain_confirmation i.source h, confirmation_eq i.source h⟩⟩
    exact ⟨settings, m, before, after, _, tail, prepared, asked, rfl, rfl, rfl, hw, back, read,
      alone⟩

theorem holds_ending (clock : Nat → String) (w : Workspace) (arguments : List Bytes)
    (console : Console) :
    (ending clock w arguments).Holds clock w arguments console
      (run clock w arguments console) := by
  rw [ending, run]
  cases hp : Arguments.parse arguments with
  | error fault => exact ⟨hp, rfl, rfl, rfl, rfl⟩
  | ok request =>
    cases request with
    | display d text =>
      have told := text_of_display hp
      subst told
      refine ⟨hp, rfl, ?_, rfl, rfl, rfl⟩
      cases console.styles with
      | true => exact d.plain_styled _
      | false => exact d.plain_text _
    | run i =>
      dsimp only
      rw [invoke_eq]
      cases hs : setUp clock w i with
      | error e => exact ⟨hp, setUp_eq_error_iff.1 hs, rfl, rfl, rfl, rfl⟩
      | ok ready =>
        obtain ⟨l, w'⟩ := ready
        rcases hd : (deploy i).run l (started l w' i) with ⟨failure | made, s⟩
        · simp only [hd]
          exact holds_failed hp hs hd
        · simp only [hd]
          cases made with
          | rendered text => exact holds_shown hp hs hd
          | written output tests => exact holds_saved hp hs hd

theorem head?_append {s : String} {c : Char} (h : s.toList.head? = some c) (t : String) :
    (s ++ t).toList.head? = some c := by
  rw [String.toList_append, List.head?_append, h, Option.some_or]

theorem head?_set (face : Arguments.Face) (d : Arguments.Display) (name : String) :
    (d.set face name).toList.head? = some 'D' ∨ (d.set face name).toList.head? = some 't' := by
  cases d with
  | version =>
    have text : Arguments.Display.version.set face name =
        programName ++ " " ++ programVersion ++ "\n" := rfl
    rw [text]
    exact .inr (by decide)
  | help =>
    left
    iterate 9 apply head?_append
    decide

theorem head?_render (m : Manifest) (pretty : Bool) :
    (m.render pretty).toList.head? = some '\x7b' := by
  rw [Manifest.render, String.toList_ofList]
  rfl

theorem head?_confirmation (console : Console) (source : String) :
    (confirmation console source).toList.head? = some 'J' ∨
      (confirmation console source).toList.head? = some '\x1b' := by
  rw [confirmation]
  split
  · exact .inr (head?_append (head?_append (by decide) _) "\n")
  · exact .inl (head?_append (head?_append (by decide) source) "\n")

/-- What a run prints tells by its first character whether it is a confirmation. -/
theorem saved_of_confirmation {o : Outcome} {e : Ending} {source : String}
    (h : e.Holds clock w arguments console o) (ho : o.output = confirmation console source) :
    ∃ i output tests, e = .saved i output tests := by
  have first := head?_confirmation console source
  rw [← ho] at first
  cases e with
  | displayed d =>
    have written : ∃ face name, o.output = d.set face name := by
      rw [h.2.1]
      split
      · exact ⟨_, _, rfl⟩
      · exact ⟨_, _, rfl⟩
    obtain ⟨face, name, same⟩ := written
    rw [same] at first
    rcases head?_set face d name with hd | hd <;> simp [hd] at first
  | refused fault =>
    rw [h.2.2.1] at first
    exact absurd first (by decide)
  | unlogged i e =>
    obtain ⟨-, -, -, empty, -⟩ := h
    simp [empty] at first
  | failed i failure =>
    obtain ⟨l, w', -, -, empty, -⟩ := h
    simp [empty] at first
  | shown i text =>
    obtain ⟨l, w', -, ⟨settings, m, before, -, -, rfl⟩, -, shown, -⟩ := h
    rw [shown, head?_append (head?_render m settings.pretty)] at first
    exact absurd first (by decide)
  | saved i output tests => exact ⟨i, output, tests, rfl⟩

theorem errors_ne_empty {o : Outcome} {earlier : List Message} {m : Message}
    (h : o.messages = earlier ++ [m]) : o.errors ≠ "" := by
  intro empty
  rw [Outcome.errors, h, List.map_append, String.join_append, String.append_eq_empty_iff] at empty
  obtain ⟨-, empty⟩ := empty
  rw [List.map_singleton, String.join_cons, String.append_eq_empty_iff] at empty
  cases m <;> simp [Message.text] at empty

/-- A failing run says why, and prints nothing but the usage text. -/
theorem Ending.Holds.reported {o : Outcome} {e : Ending}
    (h : e.Holds clock w arguments console o) (hs : o.status ≠ 0) :
    o.errors ≠ "" ∧ (o.output = "" ∨ o.output = usage ++ "\n") := by
  cases e with
  | displayed d => exact absurd h.2.2.2.1 hs
  | refused fault =>
    obtain ⟨-, -, output, messages, -⟩ := h
    exact ⟨errors_ne_empty (messages.trans (List.nil_append _).symm), .inr output⟩
  | unlogged i e =>
    obtain ⟨-, -, -, output, messages, -⟩ := h
    exact ⟨errors_ne_empty (messages.trans (List.nil_append _).symm), .inl output⟩
  | failed i failure =>
    obtain ⟨l, w', -, -, output, ⟨earlier, messages⟩, -⟩ := h
    exact ⟨errors_ne_empty messages, .inl output⟩
  | shown i text =>
    obtain ⟨l, w', -, -, status, -⟩ := h
    exact absurd status hs
  | saved i output tests =>
    obtain ⟨l, w', -, -, -, -, status, -⟩ := h
    exact absurd status hs

/-- A run ends in exactly one of its ways. It confirms if and only if the manifest has been written,
and no run fails in silence. -/
theorem run_ends (clock : Nat → String) (w : Workspace) (arguments : List Bytes)
    (console : Console) :
    (∃ e : Ending, e.Holds clock w arguments console (run clock w arguments console) ∧
      ∀ e' : Ending, e'.Holds clock w arguments console (run clock w arguments console) → e' = e) ∧
    ((∃ source, (run clock w arguments console).output = confirmation console source) ↔
      ∃ i output tests, (Ending.saved i output tests).Holds clock w arguments console
        (run clock w arguments console)) ∧
    ((run clock w arguments console).status ≠ 0 →
      (run clock w arguments console).errors ≠ "" ∧
      ((run clock w arguments console).output = "" ∨
        (run clock w arguments console).output = usage ++ "\n")) := by
  have holds := holds_ending clock w arguments console
  refine ⟨⟨_, holds, fun e' h ↦ h.eq_ending⟩, ⟨fun h ↦ ?_, fun h ↦ ?_⟩, holds.reported⟩
  · obtain ⟨source, ho⟩ := h
    obtain ⟨i, output, tests, he⟩ := saved_of_confirmation holds ho
    exact ⟨i, output, tests, he ▸ holds⟩
  · obtain ⟨i, output, tests, l, w', -, -, -, -, -, ho, -⟩ := h
    exact ⟨i.source, ho⟩

end Program

end TestMatrix
