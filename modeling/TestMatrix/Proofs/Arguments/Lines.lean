import TestMatrix.Proofs.Arguments.Clusters
namespace TestMatrix.Arguments

open Text Parameter Parsing

namespace Parsing

def Awaits (s : Parsing) : Prop := ∃ p, s.pending = some ⟨p, none⟩

def IsValue (word : Bytes) : Prop := word.head? ≠ some hyphen ∨ word = [hyphen]

/-- The word gives some occurrences, the last of them perhaps with a value that comes next. -/
structure Gathers (s : Parsing) (word : Bytes) (s' : Parsing) : Prop where
  free : ¬s.Awaits
  kept : s'.closed = s.closed
  words : (¬s'.Awaits ∧ ∃ os, Packed os [word]) ∨
    s'.Awaits ∧ ∀ value, IsValue value → ∃ os, Packed os [word, value]

variable {s s' t : Parsing} {p : Parameter} {c : Char} {word : Bytes}

theorem ofShort?_eq_some (h : ofShort? c = some p) : p.short? = some c := by
  rw [ofShort?] at h
  simpa using List.find?_some h

theorem ofLong?_eq_some {name : Bytes} (h : ofLong? name = some p) : name = Utf8.encode p.long := by
  rw [ofLong?] at h
  simpa [eq_comm] using List.find?_some h

theorem free_of_settle (h : s.settle = .ok t) : ¬s.Awaits := by
  rintro ⟨p, waiting⟩
  rw [settle, waiting] at h
  cases h

theorem not_awaits_of_none (h : s.pending = none) : ¬s.Awaits := by
  rintro ⟨p, waiting⟩
  cases h.symm.trans waiting

theorem settle_add_of_ok {made : Except Fault Choice}
    (h : (s.settle >>= fun t ↦ t.add p made) = .ok s') :
    ¬s.Awaits ∧ s'.closed = s.closed ∧ ¬s'.Awaits := by
  obtain ⟨t, settled, added⟩ := ok_of_bind h
  obtain ⟨free, same⟩ := settle_kept settled
  obtain ⟨free', same'⟩ := add_kept added
  exact ⟨free_of_settle settled, same'.trans same, not_awaits_of_none (free'.trans free)⟩

theorem valued_of_ok (h : s.valued p none = .ok s') :
    ¬s.Awaits ∧ s'.closed = s.closed ∧ s'.Awaits := by
  obtain ⟨t, settled, waiting⟩ := ok_of_bind h
  cases waiting
  exact ⟨free_of_settle settled, (settle_kept settled).2, p, rfl⟩

theorem flag_of_ok (h : s.flag p = .ok s') : (¬s.Awaits ∧ s'.closed = s.closed ∧ ¬s'.Awaits) ∧
    ∃ o : Occurrence, o.parameter = p ∧ p.takesValue = false := by
  cases p with
  | dryRun => exact ⟨settle_add_of_ok h, .dryRun, rfl, rfl⟩
  | pretty => exact ⟨settle_add_of_ok h, .pretty, rfl, rfl⟩
  | verbose => exact ⟨settle_add_of_ok h, .verbose, rfl, rfl⟩
  | _ =>
    obtain ⟨t, -, stopped⟩ := ok_of_bind h
    cases stopped

theorem long_bare (s : Parsing) (bare : p.takesValue = false) (value : Bytes) :
    s.long (Utf8.encode p.long ++ equals :: value) =
      .error (.fault (.unexpectedValue p value)) := by
  have name := takeWhile_long p (equals :: value)
  rw [List.takeWhile_cons_of_neg (by simp), List.append_nil] at name
  rw [long]
  simp only [name, ofLong?_long]
  simp [bare]

theorem long_of_ok {body : Bytes} (h : s.long body = .ok s') : ∃ p : Parameter,
    body = Utf8.encode p.long ∨
      p.takesValue ∧ ∃ value, body = Utf8.encode p.long ++ equals :: value := by
  have parts := List.takeWhile_append_dropWhile (p := (· ≠ equals)) (l := body)
  cases known : ofLong? (body.takeWhile (· ≠ equals)) with
  | none =>
    rw [long, known] at h
    cases h
  | some p =>
    rw [ofLong?_eq_some known] at parts
    refine ⟨p, ?_⟩
    cases behind : body.dropWhile (· ≠ equals) with
    | nil =>
      rw [behind, List.append_nil] at parts
      exact .inl parts.symm
    | cons b value =>
      have sign : b = equals := by
        have first := List.head?_dropWhile_not (· ≠ equals) body
        rw [behind] at first
        simpa using first
      rw [behind, sign] at parts
      refine .inr ⟨?_, value, parts.symm⟩
      cases bare : p.takesValue with
      | true => rfl
      | false =>
        rw [← parts, long_bare s bare] at h
        cases h

theorem gathers_long {body : Bytes} (h : s.long body = .ok s') :
    s.Gathers (hyphen :: hyphen :: body) s' := by
  obtain ⟨p, rfl | ⟨takes, value, rfl⟩⟩ := long_of_ok h
  · have word : hyphen :: hyphen :: Utf8.encode p.long = longName p := (longName_eq p).symm
    rw [word]
    rw [long_name] at h
    split at h
    · next takes =>
      obtain ⟨free, kept, waiting⟩ := valued_of_ok h
      refine ⟨free, kept, .inr ⟨waiting, fun value hv ↦ ?_⟩⟩
      rcases hv with other | rfl
      · exact ⟨_, .one (.longNext takes other)⟩
      · exact ⟨_, .longHyphen takes⟩
    · obtain ⟨⟨free, kept, last⟩, o, rfl, flag⟩ := flag_of_ok h
      exact ⟨free, kept, .inl ⟨last, _, .one (.long flag)⟩⟩
  · have word : hyphen :: hyphen :: (Utf8.encode p.long ++ equals :: value) =
        longName p ++ equals :: value := by rw [longName_eq]; rfl
    rw [word]
    rw [long_attached s takes] at h
    obtain ⟨free, kept, last⟩ := settle_add_of_ok h
    exact ⟨free, kept, .inl ⟨last, _, .one (.longAttached takes value)⟩⟩

/-- What stands behind the letter of a parameter that takes a value is the value, if any. -/
theorem gathers_valued {tail : Bytes} (takes : p.takesValue) (letter : p.short? = some c)
    (h : s.valued p (attached? tail) = .ok s') : s.Gathers (shortName c ++ tail) s' := by
  cases tail with
  | nil =>
    obtain ⟨free, kept, waiting⟩ := valued_of_ok h
    refine ⟨free, kept, .inr ⟨waiting, fun value hv ↦ ?_⟩⟩
    rw [List.append_nil]
    rcases hv with other | rfl
    · exact ⟨_, .one (.shortNext takes letter other)⟩
    · exact ⟨_, .shortHyphen takes letter⟩
  | cons first value =>
    obtain ⟨free, kept, last⟩ := settle_add_of_ok h
    refine ⟨free, kept, .inl ⟨last, ?_⟩⟩
    by_cases sign : first = equals
    · subst sign
      exact ⟨_, .one (.shortAttached takes value letter)⟩
    · exact ⟨_, .one (.shortJoined takes letter nofun fun same ↦ sign (Option.some.inj same))⟩

theorem Gathers.join {o : Occurrence} {b : UInt8} {tail : Bytes}
    (later : t.Gathers (hyphen :: b :: tail) s') (flag : o.parameter.takesValue = false)
    (letter : o.parameter.short? = some c) (short : b ≠ hyphen) (free : ¬s.Awaits)
    (kept : t.closed = s.closed) : s.Gathers (shortName c ++ b :: tail) s' := by
  refine ⟨free, later.kept.trans kept, ?_⟩
  rcases later.words with ⟨last, os, packed⟩ | ⟨waiting, values⟩
  · exact .inl ⟨last, _, .join flag letter short packed⟩
  · refine .inr ⟨waiting, fun value hv ↦ ?_⟩
    obtain ⟨os, packed⟩ := values value hv
    exact ⟨_, .join flag letter short packed⟩

theorem gathers_cluster {rest tail : Bytes} {letters : List Char} {b : UInt8}
    (whole : Utf8.encode (String.ofList letters) ++ rest = b :: tail)
    (h : s.cluster rest letters = .ok s') : b ≠ hyphen ∧ s.Gathers (hyphen :: b :: tail) s' := by
  induction letters generalizing s b tail with
  | nil =>
    have filled : rest ≠ [] := by
      rintro rfl
      cases whole
    rw [cluster, if_neg filled] at h
    cases h
  | cons c letters ih =>
    rw [cluster] at h
    split at h
    · cases h
    · next p known =>
      have letter := ofShort?_eq_some known
      obtain ⟨ascii, other⟩ := short_ascii letter
      have split : Utf8.encode (String.ofList (c :: letters)) =
          UInt8.ofNat c.toNat :: Utf8.encode (String.ofList letters) := by
        simp [Utf8.encode_eq_flatMap, Utf8.encodeChar_ascii ascii]
      rw [split, List.cons_append, List.cons.injEq] at whole
      obtain ⟨rfl, same⟩ := whole
      have word : hyphen :: UInt8.ofNat c.toNat :: tail = shortName c ++ tail := by
        rw [shortName_eq letter]
        rfl
      refine ⟨other, word ▸ ?_⟩
      split at h
      · next takes =>
        refine gathers_valued takes letter ?_
        rw [same] at h
        cases tail <;> exact h
      · obtain ⟨t, hf, more⟩ := ok_of_bind h
        obtain ⟨⟨free, kept, last⟩, o, rfl, flag⟩ := flag_of_ok hf
        cases tail with
        | nil =>
          obtain ⟨ended, rfl⟩ := List.append_eq_nil_iff.1 same
          have alone : letters = [] := by simpa [Utf8.encode_eq_nil_iff] using ended
          rw [alone, cluster, if_pos rfl] at more
          cases more
          rw [List.append_nil]
          exact ⟨free, kept, .inl ⟨last, _, .one (.short flag letter)⟩⟩
        | cons b tail =>
          obtain ⟨short, later⟩ := ih same more
          exact later.join flag letter short free kept

theorem step_of_ok (opened : s.closed = false) (h : s.step word = .ok s') :
    (word = [hyphen, hyphen] ∧ s' = { s with closed := true }) ∨
    (IsValue word ∧ s.plain word = .ok s') ∨ s.Gathers word s' := by
  match word with
  | [] =>
    have plain : ([] : Bytes).head? ≠ some hyphen := nofun
    exact .inr (.inl ⟨.inl plain, step_plain opened plain ▸ h⟩)
  | [b] =>
    by_cases named : b = hyphen
    · subst named
      exact .inr (.inl ⟨.inr rfl, step_one_hyphen opened ▸ h⟩)
    · have plain : [b].head? ≠ some hyphen := fun same ↦ named (Option.some.inj same)
      exact .inr (.inl ⟨.inl plain, step_plain opened plain ▸ h⟩)
  | first :: b :: tail =>
    by_cases named : first = hyphen
    · subst named
      rw [step_hyphen opened] at h
      split at h
      · next long =>
        subst long
        split at h
        · next empty =>
          cases h
          exact .inl ⟨by rw [empty], rfl⟩
        · exact .inr (.inr (gathers_long h))
      · obtain ⟨text, front⟩ := Utf8.exists_splitValid (b :: tail)
        have whole := Utf8.splitValid_append (b :: tail)
        rw [front] at whole h
        rw [Utf8.decode?_encode, Option.getD_some] at h
        exact .inr (.inr (gathers_cluster (by rwa [String.ofList_toList]) h).2)
    · have plain : (first :: b :: tail).head? ≠ some hyphen :=
        fun same ↦ named (Option.some.inj same)
      exact .inr (.inl ⟨.inl plain, step_plain opened plain ▸ h⟩)

theorem plain_of_ok (h : s.plain word = .ok s') : s.Awaits ∧ ¬s'.Awaits ∧ s'.closed = s.closed := by
  unfold plain at h
  split at h
  · next p waiting =>
    cases h
    exact ⟨⟨p, waiting⟩, by simp [Awaits], rfl⟩
  · cases h

/-- A line that is read gives occurrences, behind the value that may be awaited at its begin. -/
theorem lined_of_ok {words : List Bytes} (opened : s.closed = false)
    (read : (words.foldlM step s >>= settle) = .ok t) :
    (¬s.Awaits → ∃ os, Lined os words) ∧
      (s.Awaits → ∃ value rest os, words = value :: rest ∧ IsValue value ∧ Lined os rest) := by
  -- A word may leave its value to the next one, so the two readings are proved together.
  induction words generalizing s with
  | nil => exact ⟨fun _ ↦ ⟨_, .nil⟩, fun waiting ↦ absurd waiting (free_of_settle read)⟩
  | cons word rest ih =>
    rw [List.foldlM_cons, bind_assoc] at read
    obtain ⟨s', step, read⟩ := ok_of_bind read
    rcases step_of_ok opened step with ⟨rfl, rfl⟩ | ⟨value, plain⟩ | gathers
    · cases rest with
      | nil =>
        have free : ¬({ s with closed := true } : Parsing).Awaits := free_of_settle (t := t) read
        exact ⟨fun _ ↦ ⟨_, .closed⟩, fun waiting ↦ absurd waiting free⟩
      | cons other rest => cases read
    · obtain ⟨waiting, free, kept⟩ := plain_of_ok plain
      obtain ⟨os, lined⟩ := (ih (kept.trans opened) read).1 free
      exact ⟨fun free ↦ absurd waiting free, fun _ ↦ ⟨word, rest, os, rfl, value, lined⟩⟩
    · obtain ⟨free, awaiting⟩ := ih (gathers.kept.trans opened) read
      refine ⟨fun _ ↦ ?_, fun waiting ↦ absurd waiting gathers.free⟩
      rcases gathers.words with ⟨last, os, packed⟩ | ⟨waiting, values⟩
      · obtain ⟨os', lined⟩ := free last
        exact ⟨_, .cons packed lined⟩
      · obtain ⟨value, rest, os', rfl, hv, lined⟩ := awaiting waiting
        obtain ⟨os, packed⟩ := values value hv
        exact ⟨_, .cons packed lined⟩

end Parsing

theorem exists_lined {words : List Bytes} {made : List Choice} (h : choices words = .ok made) :
    ∃ os, Lined os words := by
  rw [choices, ← bind_assoc] at h
  obtain ⟨t, read, -⟩ := ok_of_bind h
  exact (lined_of_ok rfl read).1 (not_awaits_of_none rfl)

end TestMatrix.Arguments
