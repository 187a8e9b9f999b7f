import TestMatrix.Proofs.Json.Squeezing
import TestMatrix.Proofs.Manifest.RoundTrip
namespace TestMatrix

open Json

namespace Json

/-- Text on one line: no character in it controls the layout. -/
def OneLine (s : List Char) : Prop := ∀ c ∈ s, 0x20 ≤ c.toNat

instance (s : List Char) : Decidable (OneLine s) :=
  decidable_of_iff (s.all fun c ↦ 0x20 ≤ c.toNat) (by simp [OneLine])

variable {s t : List Char} {depth : Nat}

theorem OneLine.append (hs : OneLine s) (ht : OneLine t) : OneLine (s ++ t) := by
  intro c hc
  rcases List.mem_append.1 hc with hc | hc
  · exact hs c hc
  · exact ht c hc

theorem hexDigit_oneLine : ∀ d < 16, 0x20 ≤ (hexDigit d).toNat := by decide

theorem escape_oneLine (c : Char) : OneLine (escape c) := by
  unfold escape
  split
  · decide
  split
  · decide
  split
  · decide
  split
  · decide
  split
  · decide
  split
  · decide
  split
  · decide
  split
  · next control =>
    have high := hexDigit_oneLine (c.toNat / 16) (by omega)
    have low := hexDigit_oneLine (c.toNat % 16) (by omega)
    have front : OneLine ['\\', 'u', '0', '0'] := by decide
    refine front.append (t := [_, _]) ?_
    simp [OneLine, high, low]
  · next plain => simpa [OneLine] using plain

theorem quote_oneLine (s : String) : OneLine (quote s) := by
  have mark : OneLine ['"'] := by decide
  refine mark.append (OneLine.append (fun c hc ↦ ?_) mark)
  obtain ⟨d, -, hd⟩ := List.mem_flatMap.1 hc
  exact escape_oneLine d c hd

namespace Layout

theorem items_oneLine (contents : List (List Char)) (h : ∀ item ∈ contents, OneLine item) :
    OneLine (compact.items depth contents) := by
  have comma : OneLine [','] := by decide
  induction contents with
  | nil => simp [OneLine, items, lineBreak]
  | cons item rest ih =>
    have first : OneLine item := h item List.mem_cons_self
    cases rest with
    | nil => simpa [items, lineBreak] using first
    | cons other rest =>
      have others := ih fun x hx ↦ h x (List.mem_cons_of_mem item hx)
      exact first.append (comma.append others)

theorem array_oneLine (contents : List (List Char)) (h : ∀ item ∈ contents, OneLine item) :
    OneLine (compact.array depth contents) := by
  have first : OneLine ['['] := by decide
  have last : OneLine [']'] := by decide
  rw [array]
  split
  · exact first.append last
  · exact first.append ((items_oneLine contents h).append last)

theorem object_oneLine (members : List (String × List Char)) (h : ∀ m ∈ members, OneLine m.2) :
    OneLine (compact.object depth members) := by
  have first : OneLine ['\x7b'] := by decide
  have last : OneLine ['\x7d'] := by decide
  have colon : OneLine [':'] := by decide
  simp only [object]
  split
  · exact first.append last
  · refine first.append ((items_oneLine _ fun item hi ↦ ?_).append last)
    obtain ⟨m, hm, rfl⟩ := List.mem_map.1 hi
    exact ((quote_oneLine m.1).append colon).append (h m hm)

end Layout

end Json

namespace Record

theorem write_squeezed (r : Record) : Layout.Squeezed (r.write .pretty) (r.write .compact) := by
  have h := Layout.object_squeezed 2 quote quote
    [("name", r.name), ("test_name", r.testName), ("path", r.path)]
    fun m _ ↦ Region.quote_squeezes m.2
  simpa only [write, List.map_cons, List.map_nil] using h

theorem write_oneLine (r : Record) : OneLine (r.write .compact) := by
  refine Layout.object_oneLine _ fun m hm ↦ ?_
  simp only [List.mem_cons, List.not_mem_nil, or_false] at hm
  rcases hm with rfl | rfl | rfl <;> exact quote_oneLine _

end Record

namespace Manifest

theorem write_squeezed (m : Manifest) : Layout.Squeezed (m.write .pretty) (m.write .compact) := by
  have items (records : List Record) := Layout.array_squeezed 1 (·.write .pretty)
    (·.write .compact) records fun r _ ↦ r.write_squeezed
  have h := Layout.object_squeezed 0
    (fun records ↦ Layout.pretty.array 1 (records.map (·.write .pretty)))
    (fun records ↦ Layout.compact.array 1 (records.map (·.write .compact)))
    [("include", m.records)] fun records _ ↦ items records.2
  simpa only [write, List.map_cons, List.map_nil] using h

theorem write_oneLine (m : Manifest) : OneLine (m.write .compact) := by
  refine Layout.object_oneLine _ fun member hm ↦ ?_
  rw [List.mem_singleton.1 hm]
  refine Layout.array_oneLine _ fun item hi ↦ ?_
  obtain ⟨r, -, rfl⟩ := List.mem_map.1 hi
  exact r.write_oneLine

/-- The compact text stands on one line, and the pretty one is the same tokens laid out: without the
spaces and line breaks outside of its string literals it is the compact text. -/
theorem render_layouts (m : Manifest) :
    (∀ c ∈ (m.render false).toList, 0x20 ≤ c.toNat) ∧
    String.ofList (squeeze .outside (m.render true).toList) = m.render false ∧
    ∃ tokens, Token.ofText? (m.render true).toList = some tokens ∧
      Token.ofText? (m.render false).toList = some tokens := by
  have tokens (pretty : Bool) : Token.ofText? (m.render pretty).toList = some m.value.tokens := by
    rw [render, String.toList_ofList]
    exact (m.write_scans _).ofText?
  refine ⟨?_, ?_, m.value.tokens, tokens true, tokens false⟩
  · rw [render, String.toList_ofList]
    exact m.write_oneLine
  · have squeezed := m.write_squeezed []
    rw [List.append_nil, squeeze, List.append_nil] at squeezed
    rw [render, String.toList_ofList]
    exact congrArg String.ofList squeezed

def breaking : Manifest := ⟨[⟨"a\n\" b", "\\\" : \\", "[ ]"⟩]⟩

theorem render_layouts_breaking :
    '"' ∈ (breaking.render false).toList ∧ 0x20 ≤ '"'.toNat ∧
    String.ofList (squeeze .outside (breaking.render true).toList) = breaking.render false ∧
    breaking.render false ≠ breaking.render true ∧
    String.ofList (squeeze .outside "\x7b\n  \"include\": []\n\x7d".toList) =
      ({} : Manifest).render false := by
  have mark : '"' ∈ (breaking.render false).toList := by decide +kernel
  obtain ⟨oneLine, squeezed, -⟩ := render_layouts breaking
  have empty := (render_layouts {}).2.1
  exact ⟨mark, oneLine _ mark, squeezed, by decide +kernel, empty⟩

end Manifest

end TestMatrix
