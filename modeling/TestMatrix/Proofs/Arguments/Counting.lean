import TestMatrix.Proofs.Arguments.Lines
namespace TestMatrix

open Text

/-- The level for a number of `verbose` flags, however large. -/
def Level.ofFlags : Nat → Level
  | 0 => .warning
  | 1 => .info
  | 2 => .debug
  | _ => .trace

namespace Level

/-- The count in one byte stays at 255 from there on, so it never comes back to a quieter level. -/
theorem ofCount_saturated (n : Nat) : ofCount (UInt8.ofNat (min n 255)) = ofFlags n := by
  match n with
  | 0 | 1 | 2 => rfl
  | n + 3 =>
    have count : (UInt8.ofNat (min (n + 3) 255)).toNat = min (n + 3) 255 := by
      rw [UInt8.toNat_ofNat']
      omega
    have other (m : UInt8) (hm : m.toNat < 3) : UInt8.ofNat (min (n + 3) 255) ≠ m := by
      intro same
      rw [same] at count
      omega
    rw [ofCount, if_neg (other 0 (by decide)), if_neg (other 1 (by decide)),
      if_neg (other 2 (by decide))]
    rfl

theorem rank_ofFlags (n : Nat) : (ofFlags n).rank = min (n + 1) 4 := by
  match n with
  | 0 | 1 | 2 => rfl
  | n + 3 =>
    change 4 = _
    omega

end Level

namespace Arguments

open Parameter Parsing

variable {os : List Occurrence} {words : List Bytes} {i : Invocation} {p : Parameter}

def unflagged (os : List Occurrence) : List Occurrence := os.filter (· ≠ .verbose)

theorem count_unflagged (other : p ≠ .verbose) :
    (given (unflagged os)).count p = (given os).count p := by
  induction os with
  | nil => rfl
  | cons o os ih =>
    by_cases flag : o = .verbose
    · subst flag
      rw [unflagged, List.filter_cons_of_neg (by simp), given, given, List.map_cons,
        List.count_cons_of_ne (show Occurrence.verbose.parameter ≠ p from Ne.symm other)]
      exact ih
    · rw [unflagged, List.filter_cons_of_pos (by simpa using flag), given, given, List.map_cons,
        List.map_cons, List.count_cons, List.count_cons]
      exact congrArg (· + _) ih

theorem Accepted.of_unflagged (h : Accepted (unflagged os)) (unset : .logLevel ∉ given os) :
    Accepted os where
  source := by
    rw [← count_unflagged (by decide)]
    exact h.source
  single p hp := by
    rw [← count_unflagged hp]
    exact h.single p hp
  level both := unset both.2
  values o ho := by
    by_cases flag : o = .verbose
    · subst flag
      trivial
    · exact h.values o (List.mem_filter.2 ⟨ho, decide_eq_true flag⟩)

theorem run_of_lined (name : Bytes) (h : Lined os words) (accepted : Accepted os) :
    ∃ i, parse (name :: words) = .ok (.run i) ∧ Holds os i := by
  obtain ⟨words', spelled⟩ := exists_spelled os
  rw [parse_of_lined name h spelled]
  exact run_of_accepted name spelled accepted

theorem lined_of_run {name : Bytes} (run : parse (name :: words) = .ok (.run i)) :
    ∃ os, Lined os words ∧ Accepted os := by
  have read : ∃ made, choices words = .ok made := by
    cases hc : choices words with
    | ok made => exact ⟨made, rfl⟩
    | error stop =>
      rw [parse, List.tail_cons, hc] at run
      cases stop <;> cases run
  obtain ⟨made, read⟩ := read
  obtain ⟨os, lined⟩ := exists_lined read
  obtain ⟨words', spelled⟩ := exists_spelled os
  rw [parse_of_lined name lined spelled] at run
  exact ⟨os, lined, accepted_of_run spelled run⟩

theorem count_of_lined (h : Lined os words) (accepted : Accepted os) :
    ∃ made, choices words = .ok made ∧
      (verboseCount made).toNat = min ((given os).count .verbose) 255 := by
  obtain ⟨words', spelled⟩ := exists_spelled os
  obtain ⟨⟨made, hm⟩, single, -⟩ := accepted_iff.1 accepted
  refine ⟨made, ?_, ?_⟩
  · rw [choices_of_lined_spelled h spelled]
    exact (choices_eq_ok_iff spelled).2 ⟨hm, single⟩
  · rw [verboseCount_eq, hm.parameters, UInt8.toNat_ofNat']
    omega

/-- The number of `verbose` flags sets the level, wherever in the command line they stand and
whatever words they share, and each command line that runs is one of those. The count stops at 255,
and one more flag never makes a run quieter. -/
theorem verbosity_counted (name : Bytes) (words : List Bytes) :
    (∀ i, parse (name :: words) = .ok (.run i) → ∃ os, Lined os words ∧ Accepted os) ∧
    ∀ os, Lined os words → Accepted (unflagged os) → .logLevel ∉ given os →
      ∃ i made, parse (name :: words) = .ok (.run i) ∧ choices words = .ok made ∧
        (verboseCount made).toNat = min ((given os).count .verbose) 255 ∧
        i.verbosity = .ofFlags ((given os).count .verbose) ∧
        ∀ name' words' os', Lined os' words' → os'.Perm (.verbose :: os) →
          ∃ j, parse (name' :: words') = .ok (.run j) ∧ i.verbosity.rank ≤ j.verbosity.rank := by
  refine ⟨fun i ↦ lined_of_run, fun os lined accepted unset ↦ ?_⟩
  have whole := accepted.of_unflagged unset
  obtain ⟨i, run, holds⟩ := run_of_lined name lined whole
  obtain ⟨made, read, count⟩ := count_of_lined lined whole
  have level : i.verbosity = .ofFlags ((given os).count .verbose) :=
    (holds.count unset).trans (Level.ofCount_saturated _)
  refine ⟨i, made, run, read, count, level, fun name' words' os' lined' more ↦ ?_⟩
  have given' : (given os').Perm (.verbose :: given os) := more.map _
  have unset' : .logLevel ∉ given os' := by
    rw [given'.mem_iff]
    simpa using unset
  have same : (unflagged os').Perm (unflagged os) := by
    have kept := more.filter (· ≠ .verbose)
    rwa [List.filter_cons_of_neg (by simp)] at kept
  obtain ⟨j, run', holds'⟩ :=
    run_of_lined name' lined' ((accepted.of_perm same).of_unflagged unset')
  refine ⟨j, run', ?_⟩
  rw [level, holds'.count unset', Level.ofCount_saturated, given'.count_eq, List.count_cons_self,
    Level.rank_ofFlags, Level.rank_ofFlags]
  omega

theorem lined_flags (n : Nat) (h : Lined os words) :
    Lined (List.replicate n .verbose ++ os) (List.replicate n (shortName 'v') ++ words) := by
  have flag : Packed [.verbose] [shortName 'v'] := .one (.short rfl rfl)
  induction n with
  | zero => exact h
  | succ n ih =>
    have longer := Lined.cons flag ih
    exact longer

theorem unflagged_flags (n : Nat) (os : List Occurrence) :
    unflagged (List.replicate n .verbose ++ os) = unflagged os := by
  simp [unflagged]

theorem given_flags (n : Nat) (os : List Occurrence) :
    given (List.replicate n .verbose ++ os) = List.replicate n .verbose ++ given os := by
  simp [given, Occurrence.parameter]

theorem source_takes : Parameter.source.takesValue := rfl

theorem output_takes : Parameter.output.takesValue := rfl

def clustered : List Occurrence :=
  [.verbose, .dryRun, .pretty, .valued .source source_takes (Utf8.encode "t"), .verbose, .verbose,
   .valued .output output_takes [hyphen]]

theorem clustered_lined :
    Lined clustered (["-vnps=t", "--verbose", "-vo", "-", "--"].map Utf8.encode) := by
  have source : Packed [.valued .source source_takes (Utf8.encode "t")]
      [hyphen :: 0x73 :: Utf8.encode "=t"] :=
    .one (.shortAttached (c := 's') rfl (Utf8.encode "t") rfl)
  have pretty : Packed _ [hyphen :: 0x70 :: Utf8.encode "s=t"] :=
    .join (o := .pretty) rfl rfl (by decide) source
  have dryRun : Packed _ [hyphen :: 0x6e :: Utf8.encode "ps=t"] :=
    .join (o := .dryRun) rfl rfl (by decide) pretty
  have first : Packed _ [Utf8.encode "-vnps=t"] :=
    .join (o := .verbose) rfl rfl (by decide) dryRun
  have output : Packed [.valued .output output_takes [hyphen]] [[hyphen, 0x6f], [hyphen]] :=
    .shortHyphen (c := 'o') rfl rfl
  have last : Packed _ [Utf8.encode "-vo", [hyphen]] :=
    .join (o := .verbose) rfl rfl (by decide) output
  have flag : Packed [.verbose] [Utf8.encode "--verbose"] := .one (.long rfl)
  exact .cons first (.cons flag (.cons last .closed))

theorem clustered_accepted : Accepted (unflagged clustered) := by
  have values : ∀ o ∈ unflagged clustered, o.Acceptable := by
    have path : [hyphen] ≠ [] := nofun
    rw [show unflagged clustered = [.dryRun, .pretty,
      .valued .source source_takes (Utf8.encode "t"), .valued .output output_takes [hyphen]]
      by decide]
    simp only [List.forall_mem_cons]
    exact ⟨trivial, trivial, ⟨"t", rfl⟩, path, by simp⟩
  exact ⟨by decide, by intro p _; cases p <;> decide, by decide, values⟩

def flagged : List Occurrence :=
  List.replicate 300 .verbose ++ [.valued .source source_takes (Utf8.encode "t")]

theorem flagged_accepted : Accepted (unflagged flagged) := by
  have source : Accepted [.valued .source source_takes (Utf8.encode "t")] :=
    ⟨by decide, by intro p _; cases p <;> decide, by decide,
      List.forall_mem_singleton.2 ⟨"t", rfl⟩⟩
  rw [flagged, unflagged_flags]
  exact source

theorem verbosity_counted_samples :
    (∃ i, parse (["x", "-vnps=t", "--verbose", "-vo", "-", "--"].map Utf8.encode) = .ok (.run i) ∧
      i.verbosity = .trace) ∧
    ∃ i, parse (Utf8.encode "x" :: (List.replicate 300 (shortName 'v') ++
      [shortName 's' ++ Utf8.encode "t"])) = .ok (.run i) ∧ i.verbosity = .trace := by
  have lined : Lined flagged
      (List.replicate 300 (shortName 'v') ++ [shortName 's' ++ Utf8.encode "t"]) :=
    lined_flags 300 (.cons (.one (.shortJoined rfl rfl (by decide) (by decide))) .nil)
  have unset : .logLevel ∉ given flagged := by
    rw [flagged, given_flags, List.mem_append, List.mem_replicate]
    decide
  obtain ⟨i, _, run, -, -, level, -⟩ :=
    (verbosity_counted (Utf8.encode "x") _).2 _ clustered_lined clustered_accepted (by decide)
  obtain ⟨j, _, run', -, -, level', -⟩ :=
    (verbosity_counted (Utf8.encode "x") _).2 _ lined flagged_accepted unset
  rw [flagged, given_flags, List.count_append, List.count_replicate_self] at level'
  exact ⟨⟨i, run, level⟩, j, run', level'⟩

end Arguments

end TestMatrix
