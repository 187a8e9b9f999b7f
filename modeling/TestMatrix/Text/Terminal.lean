namespace TestMatrix.Text.Terminal

/-- What a terminal is reading: text, or one of the kinds of control sequence. -/
inductive Mode
  | text
  | escape
  | charset
  | control
  | command
  | device
deriving DecidableEq, Repr

def isLayout (c : Char) : Bool := c == '\t' || c == '\n' || c == '\x0c' || c == '\r'

def isControl (c : Char) : Bool := c.toNat < 0x20

def Mode.next : Mode → Char → Mode
  | .text, _ => .text
  | .escape, c =>
    if c == '[' then .control
    else if c == ']' then .command
    else if c == 'P' || c == 'X' || c == '^' || c == '_' then .device
    else if c.toNat < 0x30 then .charset
    else .text
  | .charset, c => if c.toNat < 0x30 then .charset else .text
  | .control, c => if c.toNat < 0x40 then .control else .text
  | .command, _ => .command
  | .device, _ => .device

/-- The characters shown for `c`, and the mode after it. What is shown ends any sequence. A character
beyond ASCII loses its first byte inside a sequence, and each other byte is shown as unreadable. -/
def Mode.step (mode : Mode) (c : Char) : List Char × Mode :=
  if c == '\x1b' then ([], .escape)
  else if c == '\x18' || c == '\x1a' then ([], .text)
  else if 0x80 ≤ c.toNat then
    if mode = .text then ([c], .text) else (List.replicate (c.utf8Size - 1) '\ufffd', .text)
  else if c == '\x7f' then ([], mode)
  else if isControl c then
    match mode with
    | .command => ([], if c == '\x07' then .text else .command)
    | .device => ([], .device)
    | _ => if isLayout c then ([c], .text) else ([], mode)
  else if mode = .text then ([c], .text)
  else ([], mode.next c)

def Mode.shown (mode : Mode) : List Char → List Char
  | [] => []
  | c :: rest =>
    let (out, next) := mode.step c
    out ++ next.shown rest

def plain (s : String) : String := String.ofList (Mode.text.shown s.toList)

def bold : String := "\x1b[1m"

def underlined : String := "\x1b[4m"

def green : String := "\x1b[32m"

def reset : String := "\x1b[0m"

def wrap (start text : String) : String := start ++ text ++ reset

/-- Where a text ends what it stands in, that is begun again. -/
def renew (start : List Char) : List Char → List Char
  | '\x1b' :: '[' :: '0' :: 'm' :: rest => reset.toList ++ start ++ renew start rest
  | c :: rest => c :: renew start rest
  | [] => []

def setOff (start text : String) : String :=
  wrap start (String.ofList (renew start.toList text.toList))

end TestMatrix.Text.Terminal
