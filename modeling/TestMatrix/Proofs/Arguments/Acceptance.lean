import TestMatrix.Proofs.Arguments.Making
namespace TestMatrix.Arguments

open Text Parameter

variable {o : Occurrence} {os : List Occurrence} {made : List Choice} {c : Choice} {i j : Invocation}
  {p : Parameter} {value : Bytes}

structure Accepted (os : List Occurrence) : Prop where
  source : (given os).count .source = 1
  single : Single (given os)
  level : ¬(.verbose ∈ given os ∧ .logLevel ∈ given os)
  values : ∀ o ∈ os, o.Acceptable

/-- The run holds the values of the command line and nothing else. -/
structure Holds (os : List Occurrence) (i : Invocation) : Prop where
  values : ∀ p takes value, p ≠ .logLevel →
    (i.value? p = some value ↔ .valued p takes value ∈ os)
  dryRun : i.dryRun = true ↔ .dryRun ∈ os
  pretty : i.overrides.pretty = true ↔ .pretty ∈ os
  level : ∀ takes value, .valued .logLevel takes value ∈ os →
    ∃ s, value = Utf8.encode s ∧ Level.ofWord? s = some i.verbosity
  count : .logLevel ∉ given os →
    i.verbosity = .ofCount (UInt8.ofNat (min ((given os).count .verbose) 255))

theorem holds_of_invocation (hm : Makes os made) (single : Single (given os))
    (h : invocation made = .ok i) : Holds os i := by
  have chosen : Single (made.map Choice.parameter) := hm.parameters ▸ single
  obtain ⟨dry, pretty, level⟩ := flags_of_invocation h
  refine ⟨fun p takes value other ↦ ?_, ?_, ?_, fun takes value ho ↦ ?_, fun unset ↦ ?_⟩
  · rw [value?_of_invocation h chosen takes other, hm.valued_iff takes other]
  · rw [dry, hm.flag_iff .dryRun rfl rfl]
  · rw [pretty, hm.flag_iff .pretty rfl rfl]
  · obtain ⟨c, hc, made⟩ := hm.exists_choice ho
    obtain ⟨hp, -, read⟩ := Parameter.choose_spec (p := .logLevel) made
    cases c with
    | logLevel l =>
      rw [level, verbosity_of_level chosen hc]
      exact read l rfl
    | _ => cases hp
  · rw [← hm.parameters] at unset ⊢
    rw [level, verbosity_of_count unset]

attribute [ext] Overrides Invocation

theorem Holds.unique (h : Holds os i) (h' : Holds os j) : i = j := by
  have same (p : Parameter) (takes : p.takesValue) (other : p ≠ .logLevel) :
      i.value? p = j.value? p :=
    Option.ext fun v ↦ (h.values p takes v other).trans (h'.values p takes v other).symm
  have text {a b : Option String} (h : a.map Utf8.encode = b.map Utf8.encode) : a = b :=
    (Option.map_inj_right fun _ _ ↦ Utf8.encode_injective).1 h
  have path {a b : Option Path} (h : a.map Path.bytes = b.map Path.bytes) : a = b :=
    (Option.map_inj_right fun ⟨_⟩ ⟨_⟩ same ↦ congrArg Path.mk same).1 h
  have source := Utf8.encode_injective (Option.some.inj (same .source rfl (by simp)))
  have output := path (same .output rfl (by simp))
  have config := path (same .config rfl (by simp))
  have extension := text (same .extension rfl (by simp))
  have testMarker := text (same .testMarker rfl (by simp))
  have targetMarker := text (same .targetMarker rfl (by simp))
  have logFile := text (same .logFile rfl (by simp))
  have dryRun := Bool.eq_iff_iff.2 (h.dryRun.trans h'.dryRun.symm)
  have pretty := Bool.eq_iff_iff.2 (h.pretty.trans h'.pretty.symm)
  have verbosity : i.verbosity = j.verbosity := by
    by_cases hl : .logLevel ∈ given os
    · obtain ⟨o, ho, hp⟩ := List.mem_map.1 hl
      obtain ⟨value, rfl⟩ := Occurrence.eq_valued hp rfl
      obtain ⟨s, hs, read⟩ := h.level _ _ ho
      obtain ⟨s', hs', read'⟩ := h'.level _ _ ho
      obtain rfl := Utf8.encode_injective (hs.symm.trans hs')
      exact Option.some.inj (read.symm.trans read')
    · rw [h.count hl, h'.count hl]
  exact Invocation.ext source config
    (Overrides.ext output pretty extension testMarker targetMarker) dryRun verbosity logFile

theorem Accepted.of_perm {os' : List Occurrence} (same : os'.Perm os) (h : Accepted os) :
    Accepted os' := by
  have given : (given os').Perm (given os) := same.map _
  refine ⟨?_, fun p hp ↦ ?_, ?_, fun o ho ↦ h.values o (same.mem_iff.1 ho)⟩
  · rw [given.count_eq]
    exact h.source
  · rw [given.count_eq]
    exact h.single p hp
  · rw [given.mem_iff, given.mem_iff]
    exact h.level

theorem Holds.of_perm {os' : List Occurrence} (same : os'.Perm os) (h : Holds os i) :
    Holds os' i := by
  have given : (given os').Perm (given os) := same.map _
  refine ⟨fun p takes value other ↦ ?_, ?_, ?_, fun takes value ho ↦ ?_, fun unset ↦ ?_⟩
  · rw [same.mem_iff]
    exact h.values p takes value other
  · rw [same.mem_iff]
    exact h.dryRun
  · rw [same.mem_iff]
    exact h.pretty
  · exact h.level takes value (same.mem_iff.1 ho)
  · rw [given.count_eq]
    exact h.count fun hl ↦ unset (given.mem_iff.2 hl)

section Parse

variable {words : List Bytes} {name : Bytes}

theorem accepted_iff : Accepted os ↔ (∃ made, Makes os made) ∧ Single (given os) ∧
    .source ∈ given os ∧ ¬(.verbose ∈ given os ∧ .logLevel ∈ given os) := by
  rw [exists_makes_iff]
  constructor
  · intro h
    have stands : .source ∈ given os := List.count_pos_iff.1 (by rw [h.source]; exact Nat.one_pos)
    exact ⟨h.values, h.single, stands, h.level⟩
  · intro h
    obtain ⟨values, single, stands, level⟩ := h
    have once := single .source (by simp)
    have present := List.count_pos_iff.2 stands
    exact ⟨by omega, single, level, values⟩

theorem parse_of_check (arguments : List Bytes) (read : choices arguments.tail = .ok made)
    (checked : check made = .ok ()) :
    ∃ i, invocation made = .ok i ∧ parse arguments = .ok (.run i) := by
  obtain ⟨i, hi⟩ := invocation_of_check checked
  refine ⟨i, hi, ?_⟩
  rw [parse, read]
  dsimp only
  rw [checked, hi]
  rfl

theorem run_of_accepted (name : Bytes) (h : Spelled os words) (accepted : Accepted os) :
    ∃ i, parse (name :: words) = .ok (.run i) ∧ Holds os i := by
  obtain ⟨⟨made, hm⟩, single, whole⟩ := accepted_iff.1 accepted
  have read := (choices_eq_ok_iff h).2 ⟨hm, single⟩
  rw [← hm.parameters] at whole
  obtain ⟨i, hi, run⟩ := parse_of_check (name :: words) read (check_eq_ok_iff.2 whole)
  exact ⟨i, run, holds_of_invocation hm single hi⟩

theorem accepted_of_run (h : Spelled os words) (run : parse (name :: words) = .ok (.run i)) :
    Accepted os := by
  rw [parse, List.tail_cons] at run
  split at run
  · next made read =>
    obtain ⟨hm, single⟩ := (choices_eq_ok_iff h).1 read
    obtain ⟨_, checked, _⟩ := ok_of_bind run
    have whole := check_eq_ok_iff.1 checked
    rw [hm.parameters] at whole
    exact accepted_iff.2 ⟨⟨made, hm⟩, single, whole⟩
  · cases run
  · cases run

theorem fault_or_run (h : Spelled os words) :
    (∃ fault, parse (name :: words) = .error fault) ∨
      ∃ i, parse (name :: words) = .ok (.run i) := by
  cases read : choices words with
  | ok made =>
    cases hc : check made with
    | error fault =>
      rw [parse, List.tail_cons, read]
      dsimp only
      rw [hc]
      exact .inl ⟨fault, rfl⟩
    | ok =>
      obtain ⟨i, -, run⟩ := parse_of_check (name :: words) read hc
      exact .inr ⟨i, run⟩
  | error stop =>
    obtain ⟨fault, rfl⟩ := fault_of_choices h read
    rw [parse, List.tail_cons, read]
    exact .inl ⟨fault, rfl⟩

/-- However its occurrences are spelled, a command line is refused or runs, and it runs exactly if
the source is given once, nothing but `verbose` twice, one way to set the level at most, and each
value is one that its parameter takes. The run holds the values as they are given, in whatever
order. Whatever the arguments, a source is there by the time the run is made of the choices. -/
theorem parse_spelled (name : Bytes) (h : Spelled os words) :
    (∀ i, parse (name :: words) = .ok (.run i) ↔ Accepted os ∧ Holds os i) ∧
    ((∃ i, parse (name :: words) = .ok (.run i)) ↔ Accepted os) ∧
    (¬Accepted os → ∃ fault, parse (name :: words) = .error fault) ∧
    (∀ name' os' words', os'.Perm os → Spelled os' words' → Accepted os →
      parse (name' :: words') = parse (name :: words)) ∧
    ∀ arguments made, choices arguments.tail = .ok made → check made = .ok () →
      invocation made ≠ .error .sourceRequired ∧ ∃ i, parse arguments = .ok (.run i) := by
  have runs (i : Invocation) :
      parse (name :: words) = .ok (.run i) ↔ Accepted os ∧ Holds os i := by
    constructor
    · intro run
      have accepted := accepted_of_run h run
      obtain ⟨j, hj, holds⟩ := run_of_accepted name h accepted
      cases run.symm.trans hj
      exact ⟨accepted, holds⟩
    · intro asked
      obtain ⟨accepted, holds⟩ := asked
      obtain ⟨j, hj, holds'⟩ := run_of_accepted name h accepted
      rw [holds.unique holds', hj]
  refine ⟨runs, ?_, ?_, ?_, ?_⟩
  · constructor
    · intro run
      obtain ⟨i, run⟩ := run
      exact accepted_of_run h run
    · intro accepted
      obtain ⟨i, run, -⟩ := run_of_accepted name h accepted
      exact ⟨i, run⟩
  · intro refused
    refine (fault_or_run h).resolve_right fun run ↦ ?_
    obtain ⟨i, run⟩ := run
    exact refused (accepted_of_run h run)
  · intro name' os' words' same h' accepted
    obtain ⟨j, run, holds⟩ := run_of_accepted name' h' (accepted.of_perm same)
    rw [run, (runs j).2 ⟨accepted, holds.of_perm same.symm⟩]
  · intro arguments made read checked
    obtain ⟨i, hi, run⟩ := parse_of_check arguments read checked
    refine ⟨fun missing ↦ ?_, i, run⟩
    cases hi.symm.trans missing

end Parse

def asked : List Occurrence :=
  [.verbose, .valued .source rfl (Utf8.encode "t"), .valued .output rfl (Utf8.encode "o")]

def clashing : List Occurrence :=
  [.verbose, .valued .source rfl (Utf8.encode "t"), .valued .logLevel rfl (Utf8.encode "info")]

theorem parse_spelled_asked :
    (∃ i, parse (["x", "-v", "--source=t", "-o", "o"].map Utf8.encode) = .ok (.run i) ∧
      Holds asked i ∧
      parse (["y", "--output=o", "--verbose", "-st"].map Utf8.encode) = .ok (.run i)) ∧
    ∃ fault, parse (["x", "-v", "-s=t", "--log-level", "info"].map Utf8.encode) = .error fault := by
  have first : Spelled asked (["-v", "--source=t", "-o", "o"].map Utf8.encode) := by
    change Spelled _ ([shortName 'v'] ++ ([longName .source ++ Parsing.equals :: Utf8.encode "t"] ++
      ([shortName 'o', Utf8.encode "o"] ++ [])))
    exact .cons (.short rfl rfl) (.cons (.longAttached rfl _)
      (.cons (.shortNext rfl rfl (by decide)) .nil))
  have second : Spelled [asked[2], asked[0], asked[1]]
      (["--output=o", "--verbose", "-st"].map Utf8.encode) := by
    change Spelled _ ([longName .output ++ Parsing.equals :: Utf8.encode "o"] ++
      ([longName .verbose] ++ ([shortName 's' ++ Utf8.encode "t"] ++ [])))
    exact .cons (.longAttached rfl _) (.cons (.long rfl)
      (.cons (.shortJoined rfl rfl (by decide) (by decide)) .nil))
  have third : Spelled clashing (["-v", "-s=t", "--log-level", "info"].map Utf8.encode) := by
    change Spelled _ ([shortName 'v'] ++ ([shortName 's' ++ Parsing.equals :: Utf8.encode "t"] ++
      ([longName .logLevel, Utf8.encode "info"] ++ [])))
    exact .cons (.short rfl rfl) (.cons (.shortAttached rfl _ rfl)
      (.cons (.longNext rfl (by decide)) .nil))
  have values : ∀ o ∈ asked, o.Acceptable := by
    simp only [asked, List.mem_cons, List.not_mem_nil, or_false, forall_eq_or_imp, forall_eq]
    have path : Utf8.encode "o" ≠ [] := by decide
    exact ⟨trivial, ⟨"t", rfl⟩, path⟩
  have accepted : Accepted asked :=
    ⟨by decide, by intro p _; cases p <;> decide, by decide, values⟩
  have same : [asked[2], asked[0], asked[1]].Perm asked := by decide
  obtain ⟨runs, succeeds, -, spellings, -⟩ := parse_spelled (Utf8.encode "x") first
  obtain ⟨i, run⟩ := succeeds.2 accepted
  have other := spellings (Utf8.encode "y") _ _ same second accepted
  refine ⟨⟨i, run, ((runs i).1 run).2, other.trans run⟩, ?_⟩
  exact (parse_spelled (Utf8.encode "x") third).2.2.1 fun h ↦ h.level ⟨by decide, by decide⟩

end TestMatrix.Arguments
