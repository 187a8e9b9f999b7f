import TestMatrix.Arguments.Help
import TestMatrix.Proofs.Text.Terminal
namespace TestMatrix.Arguments

open Text Terminal

/-- On a terminal, what is set in the face looks like what is not. -/
structure Face.Plain (face : Face) : Prop where
  heading {s : String} (h : Legible s) : Shows (face.heading s) s
  literal {s : String} (h : Legible s) : Shows (face.literal s) s

theorem Face.bare_plain : bare.Plain := ⟨Legible.shows, Legible.shows⟩

theorem Face.styled_plain : styled.Plain :=
  ⟨fun h ↦ h.shows_wrap (silent_bold.append silent_underlined), fun h ↦ h.shows_wrap silent_bold⟩

variable {face : Face}

namespace Parameter

theorem legible_long (p : Parameter) : Legible s!"--{p.long}" := by
  cases p <;> decide +kernel

theorem legible_short {p : Parameter} {c : Char} (h : p.short? = some c) : Legible s!"-{c}" := by
  cases p <;> cases h <;> decide +kernel

theorem legible_suffix (p : Parameter) : Legible p.suffix := by
  cases p <;> decide +kernel

theorem legible_about (p : Parameter) : Legible p.about := by
  cases p <;> decide +kernel

theorem shows_forms (h : face.Plain) (p : Parameter) : Shows (p.forms face) (p.forms .bare) := by
  have long := h.literal p.legible_long
  have suffix := p.legible_suffix.shows
  rw [forms, forms]
  cases hs : p.short? with
  | none =>
    have indent : Legible "    " := by decide +kernel
    exact (indent.shows.append long).append suffix
  | some c =>
    have comma : Legible ", " := by decide +kernel
    exact (((h.literal (legible_short hs)).append comma.shows).append long).append suffix

theorem shows_helpLine (h : face.Plain) (width : Nat) (p : Parameter) :
    Shows (p.helpLine face width) (p.helpLine .bare width) := by
  have padding (n : Nat) : Legible (String.ofList (List.replicate n ' ')) := by
    simp [Legible, isVisible]
  have gap : Legible "  " := by decide +kernel
  have line : Legible "\n" := by decide +kernel
  exact ((((gap.shows.append (p.shows_forms h)).append (padding _).shows).append gap.shows).append
    p.legible_about.shows).append line.shows

end Parameter

namespace Display

theorem shows_set (h : face.Plain) {name shown : String} (named : Shows (face.literal name) shown)
    (d : Display) : Shows (d.set face name) (d.set .bare shown) := by
  cases d with
  | version =>
    have text : Legible s!"{programName} {programVersion}\n" := by decide +kernel
    exact text.shows
  | help =>
    have purpose : Legible
        "Discovers unit-test sources and writes the CI test matrix manifest\n\n" := by decide +kernel
    have usage : Legible "Usage:" := by decide +kernel
    have blank : Legible " " := by decide +kernel
    have options : Legible " [OPTIONS] " := by decide +kernel
    have source : Legible "--source" := by decide +kernel
    have folder : Legible " <DIR>\n\n" := by decide +kernel
    have title : Legible "Options:" := by decide +kernel
    have line : Legible "\n" := by decide +kernel
    have first := ((purpose.shows.append (h.heading usage)).append blank.shows).append named
    have second := ((first.append options.shows).append (h.literal source)).append folder.shows
    have third := (second.append (h.heading title)).append line.shows
    exact third.append (shows_join (Parameter.shows_helpLine h _) Parameter.all)

theorem plain_styled (name : String) (d : Display) : plain (d.styled name) = d.text name :=
  (shows_set Face.styled_plain (shows_wrap silent_bold name) d).plain_eq

theorem plain_text (name : String) (d : Display) : plain (d.text name) = d.text name :=
  (shows_set Face.bare_plain (legible_plain name).shows d).plain_eq

end Display

end TestMatrix.Arguments
