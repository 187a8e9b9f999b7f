import TestMatrix.Proofs.Json.Spelling
import TestMatrix.Proofs.Manifest.Members
namespace TestMatrix

open Json

variable {members : List (List Piece × Value)} {known : List (String × Value)} {name : String}
  {v w : Value}

def Json.Value.Tells (v : Value) (s : String) : Prop :=
  ∃ pieces, v = .string pieces ∧ Piece.Tells pieces s.toList

theorem textOf?_eq_some_iff {s : String} : textOf? v = some s ↔ v.Tells s := by
  constructor
  · intro h
    unfold textOf? at h
    split at h
    · exact ⟨_, rfl, tells_toList_iff.1 h⟩
    · cases h
  · rintro ⟨pieces, rfl, told⟩
    exact tells_toList_iff.2 told

namespace Json.Value.Holds

theorem found (h : v.Holds known) (distinct : (known.map Prod.fst).Nodup) :
    ∃ members named, v = .object members ∧ namedMembers? members = some named ∧
      ∀ m ∈ known, onlyMember? named m.1 = some m.2 := by
  obtain ⟨members, named, rfl, hn, among⟩ := h
  exact ⟨members, named, rfl, namedMembers?_eq_some_iff.2 hn, (among_iff distinct).1 among⟩

theorem of_found {named : List (String × Value)} (distinct : (known.map Prod.fst).Nodup)
    (hn : namedMembers? members = some named)
    (h : ∀ m ∈ known, onlyMember? named m.1 = some m.2) : (object members).Holds known :=
  ⟨members, named, rfl, namedMembers?_eq_some_iff.1 hn, (among_iff distinct).2 h⟩

section

variable (h : (object members).Holds known) (distinct : (known.map Prod.fst).Nodup)
  (hk : (name, w) ∈ known)

include h distinct hk

theorem only : ∃ named, Named members named ∧ onlyMember? named name = some w := by
  obtain ⟨_, named, ⟨⟩, hn, only⟩ := h.found distinct
  exact ⟨named, namedMembers?_eq_some_iff.1 hn, only _ hk⟩

theorem not_lacks : ¬Lacks members name := by
  obtain ⟨named, hn, only⟩ := h.only distinct hk
  have member : (name, w) ∈ named.filter (·.1 = name) := by
    rw [onlyMember?_eq_some_iff.1 only]
    exact .head _
  obtain ⟨key, found, told⟩ := hn.exists_mem (List.mem_filter.1 member).1
  exact fun lacking ↦ lacking _ found told

theorem not_repeats : ¬Repeats members name := by
  rintro ⟨m, m', both, told, told'⟩
  obtain ⟨named, hn, only⟩ := h.only distinct hk
  have few := (hn.sublist_of_only only both (by simp [told, told'])).length_le
  simp at few

theorem eq_of_mem {key : List Piece} (hm : (key, v) ∈ members)
    (told : Piece.Tells key name.toList) : v = w := by
  obtain ⟨named, hn, only⟩ := h.only distinct hk
  have alone := hn.sublist_of_only only (List.singleton_sublist.2 hm) (by simpa using told)
  exact List.mem_singleton.1 (List.singleton_sublist.1 alone)

end

end Json.Value.Holds

namespace Record

def fields : List String := ["name", "test_name", "path"]

def namedFields (name testName path : Value) : List (String × Value) :=
  [("name", name), ("test_name", testName), ("path", path)]

theorem distinct {name testName path : Value} :
    ((namedFields name testName path).map Prod.fst).Nodup :=
  show fields.Nodup by decide

/-- The values that stand for a record. An array of the texts in their order does too. -/
inductive Told (r : Record) : Value → Prop
  | object {v name testName path : Value} (hn : name.Tells r.name) (ht : testName.Tells r.testName)
      (hp : path.Tells r.path) (h : v.Holds (namedFields name testName path)) : Told r v
  | array {name testName path : Value} (hn : name.Tells r.name) (ht : testName.Tells r.testName)
      (hp : path.Tells r.path) : Told r (.array [name, testName, path])

/-- The objects that stand for no record. -/
inductive Broken : Value → Prop
  | lacks {members : List (List Piece × Value)} {name : String} (hf : name ∈ fields)
      (h : Lacks members name) : Broken (.object members)
  | repeats {members : List (List Piece × Value)} {name : String} (hf : name ∈ fields)
      (h : Repeats members name) : Broken (.object members)
  | noText {members : List (List Piece × Value)} {name : String} {key : List Piece} {v : Value}
      (hf : name ∈ fields) (member : (key, v) ∈ members) (told : Piece.Tells key name.toList)
      (h : ∀ pieces, v ≠ .string pieces) : Broken (.object members)

variable {r : Record}

theorem texts_eq_some_iff {name testName path : Value} :
    (do return ⟨← textOf? name, ← textOf? testName, ← textOf? path⟩ : Option Record) = some r ↔
      name.Tells r.name ∧ testName.Tells r.testName ∧ path.Tells r.path := by
  simp only [Option.bind_eq_bind, Option.bind_eq_some_iff, Option.pure_def, Option.some.injEq,
    textOf?_eq_some_iff]
  constructor
  · rintro ⟨_, hn, _, ht, _, hp, rfl⟩
    exact ⟨hn, ht, hp⟩
  · rintro ⟨hn, ht, hp⟩
    exact ⟨_, hn, _, ht, _, hp, rfl⟩

theorem ofValue?_eq_some_iff : ofValue? v = some r ↔ r.Told v := by
  constructor
  · intro h
    unfold ofValue? at h
    split at h
    · next members =>
      obtain ⟨named, hn, h⟩ := Option.bind_eq_some_iff.1 h
      obtain ⟨name, first, h⟩ := Option.bind_eq_some_iff.1 h
      obtain ⟨testName, second, h⟩ := Option.bind_eq_some_iff.1 h
      obtain ⟨path, third, h⟩ := Option.bind_eq_some_iff.1 h
      obtain ⟨told, told', told''⟩ := texts_eq_some_iff.1 h
      exact .object told told' told''
        (.of_found distinct hn (by simp [namedFields, first, second, third]))
    · obtain ⟨told, told', told''⟩ := texts_eq_some_iff.1 h
      exact .array told told' told''
    · cases h
  · intro h
    cases h with
    | object hn ht hp h =>
      obtain ⟨members, named, rfl, found, only⟩ := h.found distinct
      simp only [namedFields, List.forall_mem_cons] at only
      simp only [ofValue?, found, only, Option.bind_eq_bind, Option.bind_some]
      exact texts_eq_some_iff.2 ⟨hn, ht, hp⟩
    | array hn ht hp => exact texts_eq_some_iff.2 ⟨hn, ht, hp⟩

theorem Told.not_broken (h : r.Told v) : ¬Broken v := by
  rintro broken
  cases h with
  | array => cases broken
  | @object _ name testName path hn ht hp h =>
    have held : ∀ field ∈ fields,
        ∃ w s, w.Tells s ∧ (field, w) ∈ namedFields name testName path := by
      simp only [fields, List.forall_mem_cons]
      exact ⟨⟨_, _, hn, by simp [namedFields]⟩, ⟨_, _, ht, by simp [namedFields]⟩,
        ⟨_, _, hp, by simp [namedFields]⟩, by simp⟩
    cases broken with
    | lacks hf none =>
      obtain ⟨w, -, -, hw⟩ := held _ hf
      exact h.not_lacks distinct hw none
    | repeats hf twice =>
      obtain ⟨w, -, -, hw⟩ := held _ hf
      exact h.not_repeats distinct hw twice
    | noText hf member told other =>
      obtain ⟨w, s, ⟨pieces, rfl, -⟩, hw⟩ := held _ hf
      exact other pieces (h.eq_of_mem distinct hw member told)

end Record

namespace Manifest

inductive Told (m : Manifest) : Value → Prop
  | object {v : Value} {items : List Value}
      (records : List.Forall₂ (fun item r ↦ r.Told item) items m.records)
      (h : v.Holds [("include", .array items)]) : Told m v
  | array {items : List Value}
      (records : List.Forall₂ (fun item r ↦ r.Told item) items m.records) :
      Told m (.array [.array items])

inductive Broken : Value → Prop
  | lacks {members : List (List Piece × Value)} (h : Lacks members "include") :
      Broken (.object members)
  | repeats {members : List (List Piece × Value)} (h : Repeats members "include") :
      Broken (.object members)
  | noArray {members : List (List Piece × Value)} {key : List Piece} {v : Value}
      (member : (key, v) ∈ members) (told : Piece.Tells key "include".toList)
      (h : ∀ items, v ≠ .array items) : Broken (.object members)
  | record {members : List (List Piece × Value)} {key : List Piece} {items : List Value}
      {item : Value} (member : (key, .array items) ∈ members)
      (told : Piece.Tells key "include".toList) (hi : item ∈ items) (h : Record.Broken item) :
      Broken (.object members)
  | listed {items : List Value} {item : Value} (hi : item ∈ items) (h : Record.Broken item) :
      Broken (.array [.array items])

variable {m : Manifest}

theorem recordsOf?_eq_some_iff {records : List Record} : recordsOf? v = some records ↔
    ∃ items, v = .array items ∧ List.Forall₂ (fun item r ↦ r.Told item) items records := by
  simp only [← Record.ofValue?_eq_some_iff, ← mapM_eq_some_iff]
  cases v with
  | array items => simp [recordsOf?]
  | null | true | false | number | string | object => simp [recordsOf?]

theorem distinct {w : Value} : ([("include", w)].map Prod.fst).Nodup := by simp

theorem ofValue?_eq_some_iff : ofValue? v = some m ↔ m.Told v := by
  have list {w : Value} : (do return ⟨← recordsOf? w⟩ : Option Manifest) = some m ↔
      ∃ items, w = .array items ∧ List.Forall₂ (fun item r ↦ r.Told item) items m.records := by
    rw [← recordsOf?_eq_some_iff]
    cases m
    cases recordsOf? w <;> simp
  constructor
  · intro h
    unfold ofValue? at h
    split at h
    · next members =>
      obtain ⟨named, hn, h⟩ := Option.bind_eq_some_iff.1 h
      obtain ⟨w, only, h⟩ := Option.bind_eq_some_iff.1 h
      obtain ⟨items, rfl, told⟩ := list.1 h
      exact .object told (.of_found distinct hn (by simpa using only))
    · obtain ⟨items, rfl, told⟩ := list.1 h
      exact .array told
    · cases h
  · intro h
    cases h with
    | object told h =>
      obtain ⟨members, named, rfl, found, only⟩ := h.found distinct
      simp only [ofValue?, found, only _ (.head _), Option.bind_eq_bind, Option.bind_some]
      exact list.2 ⟨_, rfl, told⟩
    | array told => exact list.2 ⟨_, rfl, told⟩

theorem not_broken_of_records {items : List Value} {records : List Record}
    (h : List.Forall₂ (fun item r ↦ r.Told item) items records) :
    ∀ item ∈ items, ¬Record.Broken item := by
  induction h with
  | nil => simp
  | cons first _ ih => exact List.forall_mem_cons.2 ⟨first.not_broken, ih⟩

theorem Told.not_broken (h : m.Told v) : ¬Broken v := by
  intro broken
  cases h with
  | array told =>
    cases broken with
    | listed hi h => exact not_broken_of_records told _ hi h
  | object told h =>
    cases broken with
    | lacks none => exact h.not_lacks distinct (.head _) none
    | repeats twice => exact h.not_repeats distinct (.head _) twice
    | noArray member name other => exact other _ (h.eq_of_mem distinct (.head _) member name)
    | record member name hi broken =>
      cases h.eq_of_mem distinct (.head _) member name
      exact not_broken_of_records told _ hi broken
    | listed =>
      obtain ⟨_, _, ⟨⟩, -⟩ := h

def Spelled (m : Manifest) (s : List Char) : Prop := ∃ v, v.Spelled s ∧ m.Told v

theorem ofText?_eq_some_iff {text : String} : ofText? text = some m ↔ m.Spelled text.toList := by
  simp only [ofText?, Option.bind_eq_bind, Option.bind_eq_some_iff, Value.ofText?_eq_some_iff,
    ofValue?_eq_some_iff, Spelled]

/-- The manifest of a text is the one that it spells, in whatever order, layout and spelling. A text
is refused if a known member is missing, repeated or of another kind, or if anything but white space
follows the value. -/
theorem read_every_spelling (text : String) :
    (∀ m, ofText? text = some m ↔ m.Spelled text.toList) ∧
    (∀ v, v.Spelled text.toList → Broken v → ofText? text = none) ∧
    ∀ (v : Value) (front rest : List Char), text.toList = front ++ rest → v.Spelled front →
      (¬∀ c ∈ rest, Token.isSpace c) → ofText? text = none := by
  refine ⟨fun _ ↦ ofText?_eq_some_iff, fun v spelled broken ↦ ?_, ?_⟩
  · refine Option.eq_none_iff_forall_ne_some.2 fun m read ↦ ?_
    obtain ⟨w, h, told⟩ := ofText?_eq_some_iff.1 read
    rw [h.unique spelled] at told
    exact told.not_broken broken
  · intro v front rest same begun more
    refine Option.eq_none_iff_forall_ne_some.2 fun m read ↦ ?_
    obtain ⟨w, h, told⟩ := ofText?_eq_some_iff.1 read
    rw [same] at h
    obtain ⟨-, rfl⟩ := begun.alone more h
    cases told with
    | object _ h => obtain ⟨_, _, ⟨⟩, -⟩ := h

def rewritten : String := " \x7b\"x\" : [\x7b\"x\": -0.5E+3, \"\\uD800\":null\x7d, []],\r\n" ++
  "\t\"\\u0069nclude\": [\x7b\"path\":\"./t\\/a\", \"name\":\"\\ud83D\\uDe00\", \"y\":\x7b\x7d," ++
  "\"test_name\":\"\\ta\"\x7d]\x7d\n"

/-- The name is there twice, and once it is written with an escape. -/
def repeated : String := "\x7b\"include\":[],\"\\u0069nclude\":[]\x7d"

theorem read_every_spelling_samples :
    Spelled ⟨[⟨"😀", "\ta", "./t/a"⟩]⟩ rewritten.toList ∧ ofText? repeated = none ∧
    ofText? "\x7b\"include\":[]\x7d ]" = none := by
  have spells {s : String} {v : Value} (h : Token.ofText? s.toList = some v.tokens) :
      v.Spelled s.toList := Token.lexemes_of_ofText? h
  let key : List Piece := "include".toList.map .char
  have told : Piece.Tells key "include".toList := Piece.text?_eq_some_iff.1 (by decide +kernel)
  have twice : Value.Spelled (.object [(key, .array []), (key, .array [])]) repeated.toList :=
    spells (by decide +kernel)
  have alone : Value.Spelled (.object [(key, .array [])]) "\x7b\"include\":[]\x7d".toList :=
    spells (by decide +kernel)
  refine ⟨((read_every_spelling rewritten).1 _).1 (by decide +kernel), ?_, ?_⟩
  · exact (read_every_spelling repeated).2.1 _ twice (.repeats ⟨_, _, .refl _, told, told⟩)
  · have more : ¬∀ c ∈ [' ', ']'], Token.isSpace c :=
      fun blank ↦ absurd (blank ']' (by simp)) (by decide)
    exact (read_every_spelling _).2.2 _ _ _ (by decide +kernel) alone more

end Manifest

end TestMatrix
