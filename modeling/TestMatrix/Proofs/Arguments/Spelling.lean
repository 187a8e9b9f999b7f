import TestMatrix.Arguments.Parsing
import TestMatrix.Proofs.Results
import TestMatrix.Proofs.Text.Validity
namespace TestMatrix.Arguments

open Text

/-- A parameter as a command line gives it, with the value it takes. -/
inductive Occurrence
  | dryRun
  | pretty
  | verbose
  | valued (p : Parameter) (takes : p.takesValue) (value : Bytes)
deriving DecidableEq

namespace Occurrence

def parameter : Occurrence → Parameter
  | dryRun => .dryRun
  | pretty => .pretty
  | verbose => .verbose
  | valued p _ _ => p

def choice : Occurrence → Except Fault Choice
  | dryRun => .ok .dryRun
  | pretty => .ok .pretty
  | verbose => .ok .verbose
  | valued p _ value => p.choose value

end Occurrence

namespace Parameter

def longName (p : Parameter) : Bytes := Utf8.encode ("--" ++ p.long)

def shortName (c : Char) : Bytes := Utf8.encode ("-" ++ c.toString)

end Parameter

open Parameter Parsing

/-- The words that give an occurrence. -/
inductive Spells : Occurrence → List Bytes → Prop
  | long {o : Occurrence} : o.parameter.takesValue = false → Spells o [longName o.parameter]
  | short {o : Occurrence} {c : Char} : o.parameter.takesValue = false →
      o.parameter.short? = some c → Spells o [shortName c]
  | longAttached {p : Parameter} (takes : p.takesValue) (value : Bytes) :
      Spells (.valued p takes value) [longName p ++ equals :: value]
  | longNext {p : Parameter} (takes : p.takesValue) {value : Bytes} :
      value.head? ≠ some hyphen → Spells (.valued p takes value) [longName p, value]
  | shortAttached {p : Parameter} {c : Char} (takes : p.takesValue) (value : Bytes) :
      p.short? = some c → Spells (.valued p takes value) [shortName c ++ equals :: value]
  | shortJoined {p : Parameter} {c : Char} (takes : p.takesValue) {value : Bytes} :
      p.short? = some c → value ≠ [] → value.head? ≠ some equals →
      Spells (.valued p takes value) [shortName c ++ value]
  | shortNext {p : Parameter} {c : Char} (takes : p.takesValue) {value : Bytes} :
      p.short? = some c → value.head? ≠ some hyphen →
      Spells (.valued p takes value) [shortName c, value]

inductive Spelled : List Occurrence → List Bytes → Prop
  | nil : Spelled [] []
  | cons {o : Occurrence} {os : List Occurrence} {words rest : List Bytes} :
      Spells o words → Spelled os rest → Spelled (o :: os) (words ++ rest)

namespace Parameter

variable {p : Parameter} {c : Char}

theorem longName_eq (p : Parameter) : p.longName = hyphen :: hyphen :: Utf8.encode p.long := by
  rw [longName, Utf8.encode_append]
  rfl

theorem ofLong?_long (p : Parameter) : ofLong? (Utf8.encode p.long) = some p := by
  cases p <;> rfl

theorem equals_not_mem_long (p : Parameter) : equals ∉ Utf8.encode p.long := by
  cases p <;> decide

theorem long_ne_nil (p : Parameter) : Utf8.encode p.long ≠ [] := by
  cases p <;> decide

theorem ofShort?_short (h : p.short? = some c) : ofShort? c = some p := by
  cases p <;> cases h <;> rfl

theorem short_ascii (h : p.short? = some c) : c.toNat < 0x80 ∧ UInt8.ofNat c.toNat ≠ hyphen := by
  cases p <;> cases h <;> decide

theorem shortName_eq (h : p.short? = some c) : shortName c = [hyphen, UInt8.ofNat c.toNat] := by
  have letter : Utf8.encode c.toString = [UInt8.ofNat c.toNat] := by
    rw [Utf8.encode_eq_flatMap, ← Utf8.encodeChar_ascii (short_ascii h).1]
    simp
  rw [shortName, Utf8.encode_append, letter]
  rfl

end Parameter

namespace Parsing

variable {s s' t : Parsing} {p : Parameter} {c : Char} {value : Bytes}

theorem takeWhile_long (p : Parameter) (tail : Bytes) :
    (Utf8.encode p.long ++ tail).takeWhile (· ≠ equals) =
      Utf8.encode p.long ++ tail.takeWhile (· ≠ equals) := by
  apply List.takeWhile_append_of_pos
  intro b hb
  have other : b ≠ equals := fun same ↦ equals_not_mem_long p (same ▸ hb)
  exact decide_eq_true other

theorem long_name (s : Parsing) (p : Parameter) :
    s.long (Utf8.encode p.long) = if p.takesValue then s.valued p none else s.flag p := by
  have name := takeWhile_long p []
  rw [List.append_nil, List.takeWhile_nil, List.append_nil] at name
  rw [long]
  simp only [name, ofLong?_long, Nat.lt_irrefl, if_false]

theorem long_attached (s : Parsing) (takes : p.takesValue) (value : Bytes) :
    s.long (Utf8.encode p.long ++ equals :: value) = s.valued p (some value) := by
  have name := takeWhile_long p (equals :: value)
  rw [List.takeWhile_cons_of_neg (by simp), List.append_nil] at name
  rw [long]
  simp only [name, ofLong?_long]
  simp [takes]

theorem step_hyphen (opened : s.closed = false) (second : UInt8) (body : Bytes) :
    s.step (hyphen :: second :: body) =
      if second = hyphen then if body = [] then .ok { s with closed := true } else s.long body
      else s.cluster (Utf8.splitValid (second :: body)).2
        ((Utf8.decode? (Utf8.splitValid (second :: body)).1).getD "").toList := by
  simp only [step, opened, Bool.false_eq_true, if_false, true_and, if_true]

theorem step_long (opened : s.closed = false) (p : Parameter) (tail : Bytes) :
    s.step (p.longName ++ tail) = s.long (Utf8.encode p.long ++ tail) := by
  rw [longName_eq]
  simp [step_hyphen opened, long_ne_nil p]

def attached? : Bytes → Option Bytes
  | [] => none
  | first :: value => some (if first = equals then value else first :: value)

theorem step_cluster (opened : s.closed = false) (ascii : c.toNat < 0x80)
    (letter : UInt8.ofNat c.toNat ≠ hyphen) (tail : Bytes) :
    s.step (hyphen :: UInt8.ofNat c.toNat :: tail) = s.cluster (Utf8.splitValid tail).2
      (c :: ((Utf8.decode? (Utf8.splitValid tail).1).getD "").toList) := by
  obtain ⟨text, front⟩ := Utf8.exists_splitValid tail
  have small : (UInt8.ofNat c.toNat).toNat ≤ 0x7f := by
    rw [UInt8.toNat_ofNat']
    omega
  have first : UInt8.ofNat c.toNat :: (Utf8.splitValid tail).1 =
      Utf8.encode (c.toString ++ text) := by
    rw [Utf8.encode_append, ← front, Utf8.encode_eq_flatMap c.toString]
    simp [Utf8.encodeChar_ascii ascii]
  rw [step_hyphen opened, if_neg letter, Utf8.splitValid_cons small, first, Utf8.decode?_encode,
    front, Utf8.decode?_encode]
  simp

theorem step_letter (opened : s.closed = false) (ascii : c.toNat < 0x80)
    (letter : UInt8.ofNat c.toNat ≠ hyphen) (tail : Bytes) : ∃ letters rest,
      Utf8.encode (String.ofList letters) ++ rest = tail ∧
      s.step (hyphen :: UInt8.ofNat c.toNat :: tail) = s.cluster rest (c :: letters) := by
  obtain ⟨text, front⟩ := Utf8.exists_splitValid tail
  have whole := Utf8.splitValid_append tail
  have read := step_cluster opened ascii letter tail
  rw [front] at whole read
  rw [Utf8.decode?_encode, Option.getD_some] at read
  exact ⟨text.toList, (Utf8.splitValid tail).2, by rwa [String.ofList_toList], read⟩

theorem step_short_valued (opened : s.closed = false) (h : p.short? = some c)
    (takes : p.takesValue) (tail : Bytes) :
    s.step (shortName c ++ tail) = s.valued p (attached? tail) := by
  obtain ⟨ascii, letter⟩ := short_ascii h
  obtain ⟨letters, rest, whole, read⟩ := step_letter opened ascii letter tail
  rw [shortName_eq h, List.cons_append, List.cons_append, List.nil_append, read, cluster,
    ofShort?_short h, whole]
  simp only [takes, if_true]
  cases tail <;> rfl

theorem step_short_flag (opened : s.closed = false) (h : p.short? = some c)
    (takes : p.takesValue = false) : s.step (shortName c) = s.flag p := by
  obtain ⟨ascii, letter⟩ := short_ascii h
  obtain ⟨letters, rest, whole, read⟩ := step_letter opened ascii letter []
  obtain ⟨hl, rfl⟩ := List.append_eq_nil_iff.1 whole
  have first : letters = [] := by simpa [Utf8.encode_eq_nil_iff] using hl
  rw [shortName_eq h, read, first, cluster, ofShort?_short h]
  simp only [takes, Bool.false_eq_true, if_false]
  cases s.flag p <;> rfl

theorem step_plain (opened : s.closed = false) {word : Bytes} (h : word.head? ≠ some hyphen) :
    s.step word = s.plain word := by
  simp only [step, opened, Bool.false_eq_true, if_false]
  split
  · next first second body =>
    have other : first ≠ hyphen := fun same ↦ h (congrArg some same)
    simp [other]
  · rfl

theorem add_kept {made : Except Fault Choice} (h : s.add p made = .ok t) :
    t.pending = s.pending ∧ t.closed = s.closed := by
  unfold add at h
  split at h
  · cases h
  split at h <;> cases h
  exact ⟨rfl, rfl⟩

theorem settle_kept (h : s.settle = .ok t) : t.pending = none ∧ t.closed = s.closed := by
  rw [settle] at h
  split at h
  · next hp =>
    cases h
    exact ⟨hp, rfl⟩
  · cases h
  · exact add_kept h

theorem settle_of_none (h : s.pending = none) : s.settle = .ok s := by
  rw [settle, h]

structure Takes (s : Parsing) (o : Occurrence) (result : Except Stop Parsing) : Prop where
  settled : (result >>= settle) = (s.settle >>= fun t ↦ t.add o.parameter o.choice)
  kept : ∀ s', result = .ok s' → s'.closed = s.closed

theorem takes_add {o : Occurrence} :
    s.Takes o (s.settle >>= fun t ↦ t.add o.parameter o.choice) := by
  cases hs : s.settle with
  | error e =>
    refine ⟨by rw [hs]; rfl, fun s' h ↦ ?_⟩
    cases h
  | ok t =>
    obtain ⟨free, same⟩ := settle_kept hs
    refine ⟨?_, fun s' h ↦ (add_kept h).2.trans same⟩
    rw [hs]
    change (t.add _ _ >>= settle) = t.add _ _
    cases ha : t.add o.parameter o.choice with
    | error e => rfl
    | ok s' => exact settle_of_none ((add_kept ha).1.trans free)

theorem takes_next (opened : s.closed = false) (takes : p.takesValue)
    (h : ∀ t : Parsing, t.closed = false → t.step value = t.plain value) :
    s.Takes (.valued p takes value) (s.valued p none >>= fun t ↦ t.step value) := by
  rw [valued]
  cases hs : s.settle with
  | error e =>
    refine ⟨by rw [hs]; rfl, fun s' h ↦ ?_⟩
    cases h
  | ok t =>
    obtain ⟨free, same⟩ := settle_kept hs
    have read : ({ t with pending := some ⟨p, none⟩ } : Parsing).step value =
        .ok { t with pending := some ⟨p, some value⟩ } := by
      have waiting : ({ t with pending := some ⟨p, none⟩ } : Parsing).closed = false :=
        same.trans opened
      rw [h _ waiting]
      rfl
    change s.Takes _ (({ t with pending := some ⟨p, none⟩ } : Parsing).step value)
    rw [read]
    refine ⟨?_, fun s' h ↦ ?_⟩
    · rw [hs]
      change ({ t with pending := none } : Parsing).add p (p.choose value) = t.add p (p.choose value)
      rw [← free]
    · cases h
      exact same

theorem flag_eq {o : Occurrence} (h : o.parameter.takesValue = false) :
    s.flag o.parameter = s.settle >>= fun t ↦ t.add o.parameter o.choice := by
  cases o with
  | dryRun | pretty | verbose => rfl
  | valued p takes value => exact absurd (h.symm.trans takes) Bool.false_ne_true

/-- However an occurrence is spelled, reading its words comes to the same. -/
theorem takes_of_spells {o : Occurrence} {words : List Bytes} (opened : s.closed = false)
    (h : Spells o words) : s.Takes o (words.foldlM step s) := by
  cases h with
  | long flag =>
    have read := step_long opened o.parameter []
    rw [List.append_nil, List.append_nil, long_name, flag, if_neg Bool.false_ne_true] at read
    rw [List.foldlM_cons, read, flag_eq flag]
    simpa using takes_add
  | short flag letter =>
    rw [List.foldlM_cons, step_short_flag opened letter flag, flag_eq flag]
    simpa using takes_add
  | longAttached takes value =>
    rw [List.foldlM_cons, step_long opened, long_attached s takes]
    simpa using! takes_add (o := .valued _ takes value)
  | @longNext p takes value next =>
    have read := step_long opened p []
    rw [List.append_nil, List.append_nil, long_name, takes, if_pos rfl] at read
    rw [List.foldlM_cons, read]
    simpa using takes_next opened takes fun _ opened ↦ step_plain opened next
  | shortAttached takes value letter =>
    rw [List.foldlM_cons, step_short_valued opened letter takes]
    simpa [attached?] using! takes_add (o := .valued _ takes value)
  | @shortJoined p c takes value letter some first =>
    have joined : attached? value = .some value := by
      cases value with
      | nil => exact absurd rfl some
      | cons b rest =>
        have other : b ≠ equals := fun same ↦ first (congrArg _ same)
        rw [attached?, if_neg other]
    rw [List.foldlM_cons, step_short_valued opened letter takes, joined]
    simpa using! takes_add (o := .valued _ takes value)
  | shortNext takes letter next =>
    have read := step_short_valued opened letter takes []
    rw [List.append_nil] at read
    rw [List.foldlM_cons, read]
    simpa [attached?] using takes_next opened takes fun _ opened ↦ step_plain opened next

theorem foldlM_step {os : List Occurrence} {words : List Bytes} (h : Spelled os words)
    (opened : s.closed = false) : (words.foldlM step s >>= settle) =
      (s.settle >>= os.foldlM fun t o ↦ t.add o.parameter o.choice) := by
  induction h generalizing s with
  | nil => simp
  | @cons o os words rest first _ ih =>
    obtain ⟨settled, kept⟩ := takes_of_spells opened first
    have front : (s.settle >>= (o :: os).foldlM fun t o ↦ t.add o.parameter o.choice) =
        ((s.settle >>= fun t ↦ t.add o.parameter o.choice) >>=
          os.foldlM fun t o ↦ t.add o.parameter o.choice) := by
      simp only [List.foldlM_cons, bind_assoc]
    rw [front, ← settled, List.foldlM_append]
    cases hr : words.foldlM step s with
    | error e => rfl
    | ok s' => exact ih ((kept s' hr).trans opened)

end Parsing

theorem choices_of_spelled {os : List Occurrence} {words : List Bytes} (h : Spelled os words) :
    choices words = (·.choices) <$>
      os.foldlM (fun t o ↦ t.add o.parameter o.choice) ({} : Parsing) := by
  have read := foldlM_step (s := {}) h rfl
  change _ = os.foldlM _ _ at read
  rw [← read, choices, map_eq_pure_bind, bind_assoc]

end TestMatrix.Arguments
