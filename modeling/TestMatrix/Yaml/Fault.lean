namespace TestMatrix.Yaml

inductive Fault
  | unprintable (c : Char)
  | unfinished
  | unfinishedKey
  | misplaced (indicator : Char)
  | strange (c : Char)
  | directive
  | version
  | repeatedDirective
  | anchorName
  | tag
  | tagEscape
  | escape
  | documentMarker
  | tabulator
  | blockHeader
  | colon
  | expectedDocument
  | expectedContent
  | expectedEntry
  | expectedKey
  | expectedComma
  | unknownHandle (handle : String)
  | unknownAnchor (name : String)
  | secondDocument
  | expectedText
  | expectedFlag
  | expectedMapping
  | repeatedField (name : String)
deriving DecidableEq, Repr

namespace Fault

/-- The wording is chosen here: what a YAML library says of a fault is not reproduced. -/
def message : Fault → String
  | unprintable c => s!"character {c.toNat} is not allowed"
  | unfinished => "the text ends inside a value"
  | unfinishedKey => "a key is not followed by a colon"
  | misplaced indicator => s!"'{indicator}' is not allowed here"
  | strange c => s!"'{c}' cannot begin a value"
  | directive => "malformed directive"
  | version => "unsupported version"
  | repeatedDirective => "repeated directive"
  | anchorName => "malformed anchor"
  | tag => "malformed tag"
  | tagEscape => "malformed escape in a tag"
  | escape => "unknown escape"
  | documentMarker => "a document marker inside quotes"
  | tabulator => "a tabulator where indentation is expected"
  | blockHeader => "malformed block scalar header"
  | colon => "unexpected ':'"
  | expectedDocument => "expected a document"
  | expectedContent => "expected a value"
  | expectedEntry => "expected '-'"
  | expectedKey => "expected a key"
  | expectedComma => "expected ','"
  | unknownHandle handle => s!"unknown tag handle {handle}"
  | unknownAnchor name => s!"unknown anchor {name}"
  | secondDocument => "more than one document"
  | expectedText => "expected a text"
  | expectedFlag => "expected a boolean"
  | expectedMapping => "expected a mapping"
  | repeatedField name => s!"repeated field {name}"

end Fault

end TestMatrix.Yaml
