import TestMatrix.Proofs.Arguments.Counting
import TestMatrix.Proofs.Text.Lowercase
namespace TestMatrix

open Text

namespace Level

inductive Names : String → Level → Prop
  | error : Names "error" .error
  | warn : Names "warn" .warning
  | warning : Names "warning" .warning
  | info : Names "info" .info
  | debug : Names "debug" .debug
  | trace : Names "trace" .trace

/-- The text names the level, in letters of either case. -/
def Called (s : String) (l : Level) : Prop := ∃ word, Names word l ∧ SameLetters s word

variable {s t word : String} {l : Level}

theorem lookup_words_eq_some_iff : words.lookup t = some l ↔ Names t l := by
  constructor
  · intro h
    obtain ⟨before, after, split, -⟩ := List.lookup_eq_some_iff.1 h
    have mem : (t, l) ∈ words := by simp [split]
    simp only [words, List.mem_cons, Prod.mk.injEq, List.not_mem_nil, or_false] at mem
    rcases mem with ⟨rfl, rfl⟩ | ⟨rfl, rfl⟩ | ⟨rfl, rfl⟩ | ⟨rfl, rfl⟩ | ⟨rfl, rfl⟩ | ⟨rfl, rfl⟩ <;>
      constructor
  · intro h
    cases h <;> rfl

/-- No level has the one letter that stands in a small form beyond ASCII. -/
theorem Names.plain (h : Names word l) : ∀ d ∈ word.toList, d.toNat < 0x80 ∧ d ≠ 'k' := by
  intro d hd
  have all : word.toList.all fun d ↦ d.toNat < 0x80 && d != 'k' := by cases h <;> decide
  simpa using List.all_eq_true.1 all d hd

theorem Names.small (h : Names word l) : word.toList.map Char.toLower = word.toList := by
  cases h <;> decide

/-- Whichever form its sigmas take, a text is looked up by its letters. -/
theorem lookup_lowered_eq_some_iff (h : Lowercase.Lowers s.toList t.toList) :
    words.lookup t = some l ↔ Called s l := by
  rw [lookup_words_eq_some_iff]
  constructor
  · intro named
    have same := (h.eq_iff named.plain).1 rfl
    exact ⟨t, named, same.trans named.small.symm⟩
  · intro called
    obtain ⟨word, named, same⟩ := called
    have whole := (h.eq_iff named.plain).2 (same.trans named.small)
    rwa [String.toList_inj.1 whole]

theorem ofWord?_eq_some_iff : ofWord? s = some l ↔ Called s l := by
  apply lookup_lowered_eq_some_iff
  rw [Lowercase.ofString, String.toList_ofList]
  exact Lowercase.lowers_flatMap s.toList

theorem Called.unique {l' : Level} (h : Called s l) (h' : Called s l') : l = l' := by
  rw [← ofWord?_eq_some_iff] at h h'
  exact Option.some.inj (h.symm.trans h')

theorem Called.ascii (h : Called s l) : ∀ c ∈ s.toList, c.toNat < 0x80 := by
  obtain ⟨word, named, same⟩ := h
  have lowered := Lowercase.lowers_flatMap s.toList
  have whole := (lowered.eq_iff named.plain).2 (same.trans named.small)
  exact lowered.ascii (whole ▸ named.plain)

end Level

namespace Arguments

open Parameter Parsing

variable {os os' : List Occurrence} {words : List Bytes} {i : Invocation} {s : String}
  {takes : Parameter.logLevel.takesValue}

theorem called_of_run (lined : Lined os words) {name : Bytes}
    (stands : .valued .logLevel takes (Utf8.encode s) ∈ os)
    (run : parse (name :: words) = .ok (.run i)) : Level.Called s i.verbosity := by
  obtain ⟨words', spelled⟩ := exists_spelled os
  rw [parse_of_lined name lined spelled] at run
  have accepted := accepted_of_run spelled run
  obtain ⟨j, run', holds⟩ := run_of_accepted name spelled accepted
  cases run.symm.trans run'
  obtain ⟨t, same, level⟩ := holds.level takes _ stands
  rw [Utf8.encode_injective same]
  exact Level.ofWord?_eq_some_iff.1 level

theorem Accepted.insert (accepted : Accepted (os ++ os')) (unset : .logLevel ∉ given (os ++ os'))
    (quiet : .verbose ∉ given (os ++ os')) {l : Level} (called : Level.Called s l) :
    Accepted (os ++ .valued .logLevel takes (Utf8.encode s) :: os') := by
  apply Accepted.of_perm List.perm_middle
  refine ⟨?_, ?_, ?_, ?_⟩
  · have other : (Occurrence.valued .logLevel takes (Utf8.encode s)).parameter ≠ .source := nofun
    rw [given, List.map_cons, List.count_cons_of_ne other]
    exact accepted.source
  · intro p hp
    rw [given, List.map_cons, List.count_cons]
    split
    · next same =>
      have unnamed := List.count_eq_zero.2 unset
      rw [← eq_of_beq same]
      exact Nat.le_of_eq (congrArg (· + 1) unnamed)
    · exact accepted.single p hp
  · intro both
    rcases List.mem_cons.1 both.1 with same | flag
    · cases same
    · exact quiet flag
  · rw [List.forall_mem_cons]
    exact ⟨⟨s, l, rfl, Level.ofWord?_eq_some_iff.2 called⟩, accepted.values⟩

theorem add_of_fault {t : Parsing} {p : Parameter} {f : Fault}
    (once : p ∉ t.choices.map Choice.parameter) : t.add p (.error f) = .error (.fault f) := by
  have given : ¬(p ≠ .verbose ∧ t.choices.any (·.parameter = p)) := by
    intro twice
    apply once
    simpa using twice.2
  unfold add
  rw [if_neg given]

/-- The first value that is not taken is what a line is refused for. -/
theorem parse_of_fault {o : Occurrence} {f : Fault} (name : Bytes)
    (lined : Lined (os ++ o :: os') words) (values : ∀ o ∈ os, o.Acceptable)
    (single : Single (given os)) (once : o.parameter ∉ given os) (fault : o.choice = .error f) :
    parse (name :: words) = .error f := by
  obtain ⟨made, hm⟩ := exists_makes_iff.2 values
  have added : addAll os {} = .ok { choices := made } :=
    (foldlM_add_eq_ok_iff (by simp [Single])).2 ⟨made, hm, single, rfl⟩
  have refused : ({ choices := made } : Parsing).add o.parameter o.choice = .error (.fault f) := by
    rw [fault]
    apply add_of_fault
    rwa [hm.parameters]
  have order : addAll (os ++ o :: os') {} =
      (addAll os {} >>= fun t ↦ t.add o.parameter o.choice >>= addAll os') := by
    rw [addAll, List.foldlM_append]
    rfl
  have stopped : addAll (os ++ o :: os') {} = .error (.fault f) := by
    rw [order, added]
    exact congrArg (· >>= addAll os') refused
  rw [parse, List.tail_cons, choices_of_lined lined, stopped]
  rfl

theorem choose_of_unknown (unknown : Level.ofWord? s = none) :
    Parameter.logLevel.choose (Utf8.encode s) = .error (.unknownLevel s) := by
  have text : Parameter.text (Utf8.encode s) = .ok s := Parameter.text_eq_ok_iff.2 rfl
  have level : Parameter.level (Utf8.encode s) = .error (.unknownLevel s) := by
    rw [Parameter.level, text]
    dsimp only [bind, Except.bind]
    rw [unknown]
    rfl
  exact congrArg (Choice.logLevel <$> ·) level

/-- The words for a level are all that names it, in letters of either case. Nothing beyond ASCII is
taken for one of its letters, although two characters have ASCII letters in their small forms. A
command line that is good without a level stays so with one exactly if its value names one. -/
theorem level_called (s : String) :
    (∀ l, Level.ofWord? s = some l ↔ Level.Called s l) ∧
    (∀ t l, Lowercase.Lowers s.toList t.toList →
      (Level.words.lookup t = some l ↔ Level.Called s l)) ∧
    ((∃ c ∈ s.toList, 0x80 ≤ c.toNat) → Level.ofWord? s = none) ∧
    (∀ c : Char, 0x80 ≤ c.toNat →
      ((∃ d ∈ Lowercase.ofChar c, d.toNat < 0x80) ↔ c = '\u212a' ∨ c = '\u0130')) ∧
    (∀ os words takes name i, Lined os words → .valued .logLevel takes (Utf8.encode s) ∈ os →
      parse (name :: words) = .ok (.run i) → Level.Called s i.verbosity) ∧
    ∀ os os' words takes name, Lined (os ++ .valued .logLevel takes (Utf8.encode s) :: os') words →
      Accepted (os ++ os') → .logLevel ∉ given (os ++ os') → .verbose ∉ given (os ++ os') →
      (∀ l, (∃ i, parse (name :: words) = .ok (.run i) ∧ i.verbosity = l) ↔ Level.Called s l) ∧
      ((∀ l, ¬Level.Called s l) → parse (name :: words) = .error (.unknownLevel s)) := by
  have unknown (h : ∀ l, ¬Level.Called s l) : Level.ofWord? s = none := by
    rw [Option.eq_none_iff_forall_ne_some]
    intro l found
    exact h l (Level.ofWord?_eq_some_iff.1 found)
  refine ⟨fun l ↦ Level.ofWord?_eq_some_iff, fun t l ↦ Level.lookup_lowered_eq_some_iff, ?_,
    fun c ↦ Lowercase.ascii_mem_ofChar_iff, ?_, ?_⟩
  · intro beyond
    obtain ⟨c, hc, high⟩ := beyond
    apply unknown
    intro l called
    have low := called.ascii c hc
    omega
  · intro os words takes name i lined stands run
    exact called_of_run lined stands run
  · intro os os' words takes name lined accepted unset quiet
    have stands : .valued .logLevel takes (Utf8.encode s) ∈
        os ++ .valued .logLevel takes (Utf8.encode s) :: os' := by simp
    refine ⟨fun l ↦ ⟨?_, ?_⟩, ?_⟩
    · intro ran
      obtain ⟨i, run, rfl⟩ := ran
      exact called_of_run lined stands run
    · intro called
      obtain ⟨i, run, -⟩ := run_of_lined name lined (accepted.insert unset quiet called)
      exact ⟨i, run, (called_of_run lined stands run).unique called⟩
    · intro strange
      have fault := choose_of_unknown (unknown strange)
      have front : (given os).Sublist (given (os ++ os')) := (List.sublist_append_left os os').map _
      apply parse_of_fault name lined
      · exact fun o ho ↦ accepted.values o (List.mem_append_left os' ho)
      · exact accepted.single.sublist front
      · exact fun twice ↦ unset (front.subset twice)
      · exact fault

theorem lined_level (takes : Parameter.logLevel.takesValue) {value : Bytes}
    (plain : value.head? ≠ some hyphen) :
    Lined ([.valued .source source_takes (Utf8.encode "t")] ++ [.valued .logLevel takes value])
      [shortName 's' ++ Utf8.encode "t", longName .logLevel, value] := by
  have source : Packed [.valued .source source_takes (Utf8.encode "t")]
      [shortName 's' ++ Utf8.encode "t"] := .one (.shortJoined rfl rfl (by decide) (by decide))
  have level : Packed [.valued .logLevel takes value] [longName .logLevel, value] :=
    .one (.longNext takes plain)
  exact .cons source (.cons level .nil)

/-- Letters of either case name a level. A dotted I is none of them, although its small form begins
with one. -/
theorem level_called_samples :
    (∃ i, parse (["x", "-st", "--log-level", "wArNiNg"].map Utf8.encode) = .ok (.run i) ∧
      i.verbosity = .warning) ∧
    Level.ofWord? "\u0130nfo" = none ∧
    parse (["x", "-st", "--log-level", "\u0130nfo"].map Utf8.encode) =
      .error (.unknownLevel "\u0130nfo") := by
  have takes : Parameter.logLevel.takesValue := rfl
  have accepted : Accepted ([.valued .source source_takes (Utf8.encode "t")] ++ []) :=
    ⟨by decide, by intro p _; cases p <;> decide, by decide, List.forall_mem_singleton.2 ⟨"t", rfl⟩⟩
  obtain ⟨-, -, -, -, -, runs⟩ := level_called "wArNiNg"
  obtain ⟨read, -, beyond, -, -, refused⟩ := level_called "\u0130nfo"
  have nameless : Level.ofWord? "\u0130nfo" = none := beyond ⟨'\u0130', by decide, by decide⟩
  have strange (l : Level) : ¬Level.Called "\u0130nfo" l := by
    intro called
    cases nameless.symm.trans ((read l).2 called)
  refine ⟨?_, nameless, ?_⟩
  · have called : Level.Called "wArNiNg" .warning := ⟨"warning", .warning, by decide⟩
    exact ((runs _ _ _ takes _ (lined_level takes (by decide)) accepted (by decide) (by decide)).1
      .warning).2 called
  · exact (refused _ _ _ takes _ (lined_level takes (by decide)) accepted (by decide)
      (by decide)).2 strange

end Arguments

end TestMatrix
