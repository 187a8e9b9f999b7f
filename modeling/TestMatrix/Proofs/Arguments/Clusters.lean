import TestMatrix.Proofs.Arguments.Acceptance
namespace TestMatrix.Arguments

open Text Parameter Parsing

/-- The words that give some occurrences: flags share a word with the short form that follows them.
A hyphen alone is a value like others. -/
inductive Packed : List Occurrence → List Bytes → Prop
  | one {o : Occurrence} {words : List Bytes} (h : Spells o words) : Packed [o] words
  | longHyphen {p : Parameter} (takes : p.takesValue) :
      Packed [.valued p takes [hyphen]] [longName p, [hyphen]]
  | shortHyphen {p : Parameter} {c : Char} (takes : p.takesValue) (letter : p.short? = some c) :
      Packed [.valued p takes [hyphen]] [shortName c, [hyphen]]
  | join {o : Occurrence} {os : List Occurrence} {c : Char} {b : UInt8} {tail : Bytes}
      {rest : List Bytes} (flag : o.parameter.takesValue = false)
      (letter : o.parameter.short? = some c) (short : b ≠ hyphen)
      (more : Packed os ((hyphen :: b :: tail) :: rest)) :
      Packed (o :: os) ((shortName c ++ b :: tail) :: rest)

/-- A command line without the name of the program. Two hyphens may close it. -/
inductive Lined : List Occurrence → List Bytes → Prop
  | nil : Lined [] []
  | closed : Lined [] [[hyphen, hyphen]]
  | cons {os os' : List Occurrence} {words rest : List Bytes} (first : Packed os words)
      (more : Lined os' rest) : Lined (os ++ os') (words ++ rest)

namespace Parsing

variable {s : Parsing} {os os' : List Occurrence} {words : List Bytes}
  {result : Except Stop Parsing}

def addAll (os : List Occurrence) (s : Parsing) : Except Stop Parsing :=
  os.foldlM (fun t o ↦ t.add o.parameter o.choice) s

theorem settle_addAll_append (s : Parsing) :
    (s.settle >>= addAll (os ++ os')) = ((s.settle >>= addAll os) >>= addAll os') := by
  rw [bind_assoc]
  exact congrArg (s.settle >>= ·) (funext fun _ ↦ List.foldlM_append)

structure TakesAll (s : Parsing) (os : List Occurrence) (result : Except Stop Parsing) : Prop where
  settled : (result >>= settle) = (s.settle >>= addAll os)
  kept : ∀ s', result = .ok s' → s'.closed = s.closed

theorem Takes.all {o : Occurrence} (h : s.Takes o result) : s.TakesAll [o] result := by
  refine ⟨h.settled.trans (congrArg (s.settle >>= ·) (funext fun t ↦ ?_)), h.kept⟩
  rw [addAll, List.foldlM_cons]
  exact (bind_pure _).symm

theorem TakesAll.trans {f : Parsing → Except Stop Parsing} (h : s.TakesAll os result)
    (h' : ∀ t, result = .ok t → t.TakesAll os' (f t)) : s.TakesAll (os ++ os') (result >>= f) := by
  have settled := h.settled
  cases result with
  | error e =>
    refine ⟨?_, fun s' failed ↦ by cases failed⟩
    rw [settle_addAll_append, ← settled]
    rfl
  | ok t =>
    have later := h' t rfl
    refine ⟨?_, fun s' hs ↦ (later.kept s' hs).trans (h.kept t rfl)⟩
    rw [settle_addAll_append, ← settled]
    exact later.settled

theorem takes_flag {o : Occurrence} (flag : o.parameter.takesValue = false) :
    s.Takes o (s.flag o.parameter) := flag_eq flag ▸ takes_add

/-- A flag in front of other letters is read as if it stood alone. -/
theorem step_join {o : Occurrence} {c : Char} {b : UInt8} (opened : s.closed = false)
    (flag : o.parameter.takesValue = false) (letter : o.parameter.short? = some c)
    (short : b ≠ hyphen) (tail : Bytes) : s.step (shortName c ++ b :: tail) =
      (s.flag o.parameter >>= fun t ↦ t.step (hyphen :: b :: tail)) := by
  obtain ⟨ascii, other⟩ := short_ascii letter
  have later {t : Parsing} (opened : t.closed = false) :=
    (step_hyphen opened b tail).trans (if_neg short)
  rw [shortName_eq letter, List.cons_append, List.cons_append, List.nil_append,
    step_cluster opened ascii other, cluster, ofShort?_short letter]
  simp only [flag, Bool.false_eq_true, if_false]
  generalize ((Utf8.decode? (Utf8.splitValid (b :: tail)).1).getD "").toList = letters at later ⊢
  generalize (Utf8.splitValid (b :: tail)).2 = rest at later ⊢
  cases hf : s.flag o.parameter with
  | error e => rfl
  | ok t => exact (later (((takes_flag flag).kept t hf).trans opened)).symm

theorem step_one_hyphen (opened : s.closed = false) : s.step [hyphen] = s.plain [hyphen] := by
  simp [step, opened]

theorem takesAll_of_packed (opened : s.closed = false) (h : Packed os words) :
    s.TakesAll os (words.foldlM step s) := by
  induction h generalizing s with
  | one h => exact (takes_of_spells opened h).all
  | @longHyphen p takes =>
    have read := step_long opened p []
    rw [List.append_nil, List.append_nil, long_name, takes, if_pos rfl] at read
    rw [List.foldlM_cons, read]
    simpa using (takes_next opened takes fun _ ↦ step_one_hyphen).all
  | @shortHyphen p c takes letter =>
    have read := step_short_valued opened letter takes []
    rw [List.append_nil] at read
    rw [List.foldlM_cons, read]
    simpa [attached?] using (takes_next opened takes fun _ ↦ step_one_hyphen).all
  | @join o os c b tail rest flag letter short _ ih =>
    have front := (takes_flag (s := s) flag).all
    rw [List.foldlM_cons, step_join opened flag letter short, bind_assoc]
    refine front.trans fun t ht ↦ ?_
    rw [← List.foldlM_cons]
    exact ih ((front.kept t ht).trans opened)

theorem settle_closed (s : Parsing) : (·.choices) <$> ({ s with closed := true } : Parsing).settle =
    (·.choices) <$> s.settle := by
  rw [settle, settle]
  dsimp only
  cases s.pending with
  | none => rfl
  | some waiting =>
    obtain ⟨p, _ | value⟩ := waiting
    · rfl
    · unfold add
      dsimp only
      split
      · rfl
      · cases p.choose value <;> rfl

theorem foldlM_lined (opened : s.closed = false) (h : Lined os words) :
    (·.choices) <$> (words.foldlM step s >>= settle) =
      (·.choices) <$> (s.settle >>= addAll os) := by
  induction h generalizing s with
  | nil => simp [addAll]
  | closed =>
    have last : s.step [hyphen, hyphen] = .ok { s with closed := true } := by
      simp [step_hyphen opened]
    have settled : (s.settle >>= addAll []) = s.settle := bind_pure _
    rw [List.foldlM_cons, last, settled]
    exact settle_closed s
  | @cons os os' words rest first _ ih =>
    have front := takesAll_of_packed opened first
    rw [settle_addAll_append, ← front.settled, List.foldlM_append]
    cases hr : words.foldlM step s with
    | error e => rfl
    | ok t => exact ih ((front.kept t hr).trans opened)

end Parsing

section

variable {os : List Occurrence} {words words' : List Bytes}

theorem choices_of_lined (h : Lined os words) :
    choices words = (·.choices) <$> addAll os ({} : Parsing) := by
  have read := foldlM_lined (s := {}) rfl h
  change _ = (·.choices) <$> addAll os {} at read
  rw [← read, choices, map_eq_pure_bind, bind_assoc]

theorem exists_spelled (os : List Occurrence) : ∃ words, Spelled os words := by
  induction os with
  | nil => exact ⟨_, .nil⟩
  | cons o os ih =>
    obtain ⟨rest, more⟩ := ih
    cases o with
    | dryRun | pretty | verbose => exact ⟨_, .cons (.long rfl) more⟩
    | valued p takes value => exact ⟨_, .cons (.longAttached takes value) more⟩

/-- A line is read like one that spells each of its occurrences by itself. -/
theorem choices_of_lined_spelled (h : Lined os words) (h' : Spelled os words') :
    choices words = choices words' :=
  (choices_of_lined h).trans (choices_of_spelled h').symm

theorem parse_of_lined (name : Bytes) (h : Lined os words) (h' : Spelled os words') :
    parse (name :: words) = parse (name :: words') := by
  rw [parse, parse, List.tail_cons, List.tail_cons, choices_of_lined_spelled h h']
  rfl

end

end TestMatrix.Arguments
