import TestMatrix.Yaml.Cursor
namespace TestMatrix.Yaml

/-- Blanks and line breaks between two words of a value. Texts are kept last character first. -/
structure Gap where
  blanks : List Char := []
  broken : Bool := false
  firstBreak : List Char := []
  moreBreaks : List Char := []
deriving DecidableEq, Repr

namespace Gap

def isEmpty (g : Gap) : Bool := g.blanks.isEmpty && !g.broken

def blank (g : Gap) (c : Char) : Gap := if g.broken then g else { g with blanks := c :: g.blanks }

def lineBreak (g : Gap) (b : Char) : Gap :=
  if g.broken then { g with moreBreaks := b :: g.moreBreaks }
  else { broken := true, firstBreak := [b] }

/-- What the gap adds to the value: its blanks, or its line breaks less a first plain one, or a
space for that one alone. -/
def text (g : Gap) : List Char :=
  if g.broken then
    if g.firstBreak = ['\n'] then (if g.moreBreaks = [] then [' '] else g.moreBreaks)
    else g.moreBreaks ++ g.firstBreak
  else g.blanks

end Gap

end TestMatrix.Yaml
