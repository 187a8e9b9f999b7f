import TestMatrix.Json.Layout
import TestMatrix.Proofs.Json.ValueTokens
namespace TestMatrix.Json

variable {m m' m'' : Token.Mode} {s t : List Char} {out out' : List Token}

namespace Token.Mode

/-- Reading `s` takes `m` to `m'` and gives the tokens `out`, whatever comes after `s`. -/
def Reads (m : Mode) (s : List Char) (out : List Token) (m' : Mode) : Prop :=
  ∀ rest, m.run? (s ++ rest) = (m'.run? rest).map (out ++ ·)

namespace Reads

theorem nil (m : Mode) : m.Reads [] [] m := fun rest ↦ by simp

theorem one {c : Char} (h : m.step? c = some (out, m')) : m.Reads [c] out m' := by
  intro rest
  simp only [List.singleton_append, run?, h, Option.bind_eq_bind, Option.bind_some]
  cases m'.run? rest <;> rfl

theorem trans (hs : m.Reads s out m') (ht : m'.Reads t out' m'') :
    m.Reads (s ++ t) (out ++ out') m'' := by
  intro rest
  rw [List.append_assoc, hs, ht, Option.map_map]
  exact congrArg (Option.map · _) (funext fun x ↦ (List.append_assoc out out' x).symm)

theorem cons {c : Char} (h : m.step? c = some (out, m')) (ht : m'.Reads t out' m'') :
    m.Reads (c :: t) (out ++ out') m'' := (one h).trans ht

theorem inside {c : Char} (m' : Mode) (h : m.step? c = some ([], m')) (ht : m'.Reads t out m'') :
    m.Reads (c :: t) out m'' := cons h ht

end Reads

end Token.Mode

open Token Token.Mode

theorem hexDigit?_hexDigit : ∀ d < 16, hexDigit? (hexDigit d) = some d := by decide

/-- A control is spelled by its number, which four digits hold. -/
theorem control_reads {c : Char} (hc : c.toNat < 0x20) (acc : List Piece) :
    (Mode.string acc).Reads
      ['\\', 'u', '0', '0', hexDigit (c.toNat / 16), hexDigit (c.toNat % 16)] []
      (.string (.char c :: acc)) := by
  have high := hexDigit?_hexDigit (c.toNat / 16) (by omega)
  have low := hexDigit?_hexDigit (c.toNat % 16) (by omega)
  have value : c.toNat / 16 * 16 + c.toNat % 16 = c.toNat := by omega
  have piece : Piece.ofUnit c.toNat = .char c := by
    rw [Piece.ofUnit, if_neg, Char.ofNat_toNat]
    simp only [Piece.isHigh, Piece.isLow, Bool.or_eq_true, Bool.and_eq_true, decide_eq_true_eq]
    omega
  refine .inside (.escape acc) rfl ?_
  refine .inside (.unit acc 0 4) rfl ?_
  refine .inside (.unit acc 0 3) rfl ?_
  refine .inside (.unit acc 0 2) rfl ?_
  refine .inside (.unit acc (c.toNat / 16) 1) ?_ (.one ?_)
  · simp [step?, high]
  · simp only [step?, low, Option.bind_eq_bind, Option.bind_some, Nat.le_refl, if_true, value,
      piece, Option.pure_def]

theorem escape_reads (c : Char) (acc : List Piece) :
    (Mode.string acc).Reads (escape c) [] (.string (.char c :: acc)) := by
  have short {d : Char} (h : shortEscapes.lookup d = some c) (hd : d ≠ 'u') :
      (Mode.string acc).Reads ['\\', d] [] (.string (.char c :: acc)) := by
    refine .inside (.escape acc) rfl (.one ?_)
    rw [step?, if_neg hd, h]
    rfl
  unfold escape
  split
  · next h => subst h; exact short rfl (by decide)
  split
  · next h => subst h; exact short rfl (by decide)
  split
  · next h => subst h; exact short rfl (by decide)
  split
  · next h => subst h; exact short rfl (by decide)
  split
  · next h => subst h; exact short rfl (by decide)
  split
  · next h => subst h; exact short rfl (by decide)
  split
  · next h => subst h; exact short rfl (by decide)
  split
  · next h => exact control_reads h acc
  · next quote backslash _ _ _ _ _ control =>
    exact .one (by rw [step?, if_neg quote, if_neg backslash, if_neg control])

theorem text_reads (s : List Char) (acc : List Piece) :
    (Mode.string acc).Reads (s.flatMap escape) [] (.string ((s.map .char).reverse ++ acc)) := by
  induction s generalizing acc with
  | nil => exact .nil _
  | cons c s ih =>
    have h := (escape_reads c acc).trans (ih (.char c :: acc))
    simpa only [List.flatMap_cons, List.map_cons, List.reverse_cons, List.append_assoc,
      List.singleton_append, List.nil_append] using h

namespace Token

abbrev Scans (s : List Char) (out : List Token) : Prop := Mode.between.Reads s out .between

theorem Scans.mark (c : Char) (out : List Token) (h : Mode.begin? c = some (out, .between))
    (ht : Scans t out') : Scans (c :: t) (out ++ out') := .cons h ht

theorem quote_scans (s : String) : Scans (quote s) (Value.ofString s).tokens := by
  have body := text_reads s.toList []
  rw [List.append_nil] at body
  have last : (Mode.string (s.toList.map .char).reverse).Reads ['"']
      (Value.ofString s).tokens .between :=
    .one (by rw [step?, if_pos rfl, List.reverse_reverse]; rfl)
  exact .inside (.string []) rfl (body.trans last)

theorem Scans.ofText? (h : Scans s out) : Token.ofText? s = some out := by
  have := h []
  rwa [List.append_nil, run?, finish?, Option.map_some, List.append_nil] at this

end Token

namespace Layout

variable (l : Layout)

theorem spaces_scan (n : Nat) : Scans (List.replicate n ' ') [] := by
  induction n with
  | zero => exact .nil _
  | succ n ih => exact .mark ' ' [] rfl ih

theorem lineBreak_scans (depth : Nat) : Scans (l.lineBreak depth) [] := by
  cases l with
  | compact => exact .nil _
  | pretty => exact .mark '\n' [] rfl (spaces_scan _)

theorem colon_scans : Scans l.colon [.colon] := by
  cases l with
  | compact => exact .mark ':' [.colon] rfl (.nil _)
  | pretty => exact .mark ':' [.colon] rfl (.mark ' ' [] rfl (.nil _))

theorem items_scan {α : Type} (depth : Nat) (f : α → List Char) (g : α → List Token)
    (items : List α) (h : ∀ a ∈ items, Scans (f a) (g a)) :
    Scans (l.items depth (items.map f)) ([Token.comma].intercalate (items.map g)) := by
  induction items with
  | nil => exact l.lineBreak_scans depth
  | cons a rest ih =>
    have first := (l.lineBreak_scans (depth + 1)).trans (h a (by simp))
    cases rest with
    | nil =>
      have alone := first.trans (l.lineBreak_scans depth)
      simpa only [List.map_cons, List.map_nil, Layout.items, List.intercalate_singleton,
        List.nil_append, List.append_nil] using alone
    | cons b rest =>
      have others := ih fun x hx ↦ h x (List.mem_cons_of_mem _ hx)
      have all := first.trans (Scans.mark ',' [.comma] rfl others)
      simpa only [List.map_cons, Layout.items, List.intercalate_cons_cons, List.nil_append,
        List.append_assoc] using all

theorem bracketed_scans {s : List Char} {out : List Token} (opening closing : Char)
    (first last : Token) (ho : Mode.begin? opening = some ([first], .between))
    (hc : Mode.begin? closing = some ([last], .between)) (h : Scans s out) :
    Scans (opening :: (s ++ [closing])) (first :: (out ++ [last])) :=
  .mark opening [first] ho (h.trans (Scans.mark closing [last] hc (.nil _)))

theorem array_scans {α : Type} (depth : Nat) (f : α → List Char) (v : α → Value)
    (items : List α) (h : ∀ a ∈ items, Scans (f a) (v a).tokens) :
    Scans (l.array depth (items.map f)) (Value.array (items.map v)).tokens := by
  have body := l.items_scan depth f (fun a ↦ (v a).tokens) items h
  rw [Value.tokens, Value.itemTokens_eq_map, List.map_map]
  unfold array
  split
  · next empty =>
    rw [List.map_eq_nil_iff.1 empty]
    exact bracketed_scans '[' ']' .openArray .closeArray rfl rfl (.nil _)
  · exact bracketed_scans '[' ']' .openArray .closeArray rfl rfl body

theorem object_scans {α : Type} (depth : Nat) (f : α → List Char) (v : α → Value)
    (members : List (String × α)) (h : ∀ m ∈ members, Scans (f m.2) (v m.2).tokens) :
    Scans (l.object depth (members.map fun m ↦ (m.1, f m.2)))
      (Value.ofMembers (members.map fun m ↦ (m.1, v m.2))).tokens := by
  have body := l.items_scan depth (fun m : String × α ↦ quote m.1 ++ l.colon ++ f m.2)
    (fun m ↦ (Value.ofString m.1).tokens ++ [.colon] ++ (v m.2).tokens) members
    fun m hm ↦ ((quote_scans m.1).trans l.colon_scans).trans (h m hm)
  rw [Value.ofMembers, Value.tokens, Value.memberTokens_eq_map, List.map_map, List.map_map]
  simp only [object, List.map_map]
  split
  · next empty =>
    rw [List.map_eq_nil_iff.1 empty]
    exact bracketed_scans '\x7b' '\x7d' .openObject .closeObject rfl rfl (.nil _)
  · exact bracketed_scans '\x7b' '\x7d' .openObject .closeObject rfl rfl body

end Layout

end TestMatrix.Json
