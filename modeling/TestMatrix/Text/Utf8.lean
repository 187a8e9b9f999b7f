namespace TestMatrix

abbrev Bytes := List UInt8

namespace Text.Utf8

def encode (s : String) : Bytes := s.toUTF8.data.toList

def decode? (bytes : Bytes) : Option String := String.fromUTF8? ⟨bytes.toArray⟩

theorem decode?_eq_some_iff {bytes : Bytes} {s : String} :
    decode? bytes = some s ↔ bytes = encode s := by
  simp only [decode?, String.fromUTF8?, encode]
  constructor
  · intro h
    split at h
    · cases h
      simp [String.fromUTF8, String.toUTF8]
    · cases h
  · rintro rfl
    simp [String.toUTF8, String.fromUTF8, s.isValidUTF8]

@[simp] theorem decode?_encode (s : String) : decode? (encode s) = some s :=
  decode?_eq_some_iff.2 rfl

theorem encode_injective {s t : String} (h : encode s = encode t) : s = t := by
  have := decode?_encode s
  rw [h, decode?_encode] at this
  exact (Option.some.inj this).symm

@[simp] theorem encode_append (s t : String) : encode (s ++ t) = encode s ++ encode t := by
  simp [encode, String.toUTF8]

abbrev Range := UInt8 × UInt8

def Range.contains (r : Range) (b : UInt8) : Bool := r.1 ≤ b && b ≤ r.2

def tail : Range := (0x80, 0xbf)

/-- What must follow a first byte; none if no character begins with it. -/
def following? (b : UInt8) : Option (List Range) :=
  if b ≤ 0x7f then some []
  else if b < 0xc2 then none
  else if b ≤ 0xdf then some [tail]
  else if b = 0xe0 then some [(0xa0, 0xbf), tail]
  else if b = 0xed then some [(0x80, 0x9f), tail]
  else if b ≤ 0xef then some [tail, tail]
  else if b = 0xf0 then some [(0x90, 0xbf), tail, tail]
  else if b ≤ 0xf3 then some [tail, tail, tail]
  else if b = 0xf4 then some [(0x80, 0x8f), tail, tail]
  else none

/-- Why a byte string is no text: `length` bytes at `index` begin no character, or the string ends
inside one. -/
inductive Fault
  | invalid (index length : Nat)
  | incomplete (index : Nat)
deriving DecidableEq, Repr

def Fault.message : Fault → String
  | .invalid index length => s!"invalid utf-8 sequence of {length} bytes from index {index}"
  | .incomplete index => s!"incomplete utf-8 byte sequence from index {index}"

/-- A maximal run of bytes that is one character, or that begins one and does not finish it. -/
structure Piece where
  bytes : Bytes
  whole : Bool
deriving DecidableEq, Repr

structure Progress where
  begun : Bytes := []
  due : List Range := []

def Progress.start (b : UInt8) : List Piece × Progress :=
  match following? b with
  | none => ([⟨[b], false⟩], {})
  | some [] => ([⟨[b], true⟩], {})
  | some due => ([], ⟨[b], due⟩)

def Progress.step (p : Progress) (b : UInt8) : List Piece × Progress :=
  match p.due with
  | [] => start b
  | r :: due =>
    if r.contains b then
      if due.isEmpty then ([⟨p.begun ++ [b], true⟩], {}) else ([], ⟨p.begun ++ [b], due⟩)
    else
      let (out, next) := start b
      (⟨p.begun, false⟩ :: out, next)

def Progress.run (p : Progress) : Bytes → List Piece
  | [] => if p.begun.isEmpty then [] else [⟨p.begun, false⟩]
  | b :: rest =>
    let (out, next) := p.step b
    out ++ next.run rest

def pieces (bytes : Bytes) : List Piece := ({} : Progress).run bytes

def Piece.text (p : Piece) : String :=
  if p.whole then (decode? p.bytes).getD "\ufffd" else "\ufffd"

def lossy (bytes : Bytes) : String :=
  (decode? bytes).getD (String.join ((pieces bytes).map Piece.text))

def splitValid (bytes : Bytes) : Bytes × Bytes :=
  let front := ((pieces bytes).takeWhile (·.whole)).flatMap (·.bytes)
  (front, bytes.drop front.length)

def fault? (bytes : Bytes) : Option Fault :=
  match (pieces bytes).dropWhile (·.whole) with
  | [] => none
  | broken :: rest =>
    let index := (splitValid bytes).1.length
    if rest.isEmpty && (due? broken.bytes) then some (.incomplete index)
    else some (.invalid index broken.bytes.length)
where
  due? : Bytes → Bool
    | b :: _ => (following? b).isSome
    | [] => false

end Text.Utf8

end TestMatrix
