import TestMatrix.Text.Printable
import TestMatrix.Text.Utf8
namespace TestMatrix.Text.Quoted

def hex (n : Nat) : String := String.ofList (Nat.toDigits 16 n)

/-- A character between double quotes, as a log shows it; `apostrophe` says whether the single
quote is escaped too. -/
def escape (apostrophe : Bool) (c : Char) : String :=
  match c with
  | '\x00' => "\\0"
  | '\t' => "\\t"
  | '\n' => "\\n"
  | '\r' => "\\r"
  | '"' => "\\\""
  | '\\' => "\\\\"
  | '\'' => if apostrophe then "\\'" else "'"
  | c =>
    if Printable.isMark c || !Printable.isPrintable c then s!"\\u\x7b{hex c.toNat}\x7d"
    else c.toString

def text (s : String) : String :=
  "\"" ++ String.join (s.toList.map (escape false)) ++ "\""

def byte (b : UInt8) : String :=
  let digits := [Nat.digitChar (b.toNat / 16), Nat.digitChar (b.toNat % 16)]
  "\\x" ++ String.ofList (digits.map Char.toUpper)

/-- A path need not be text: its broken pieces are shown byte by byte. -/
def bytes (b : Bytes) : String :=
  "\"" ++ String.join ((Utf8.pieces b).map piece) ++ "\""
where
  piece (p : Utf8.Piece) : String :=
    match p.whole, Utf8.decode? p.bytes with
    | true, some s => String.join (s.toList.map (escape true))
    | _, _ => String.join (p.bytes.map byte)

end TestMatrix.Text.Quoted
