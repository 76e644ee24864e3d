/-! Control sequences, by which a terminal is told how to show a text. A text for anything else does
without them.

* `styled` puts a text between control sequences.
* `plain` is a text without its control sequences and control characters. -/
namespace PLZero.Terminal
set_option autoImplicit false

/-- `s` in the graphic rendition of number `n`. -/
def styled (n s : String) : String := "\x1b[" ++ n ++ "m" ++ s ++ "\x1b[0m"

/-! ## Modes -/

/-- Where in a control sequence a text stands. -/
inductive Mode where
  /-- Outside. -/
  | ground
  /-- Behind the escape character. -/
  | escape
  /-- Behind the escape character and further signs. -/
  | signs
  /-- Behind the escape character and a bracket, up to a letter. -/
  | parameters
  /-- In a command to the terminal, up to a bell. -/
  | command
  /-- At the head of a message to a device. -/
  | device
  /-- In the parameters at the head of a message to a device. -/
  | deviceParameters
  /-- Behind signs at the head of a message to a device. -/
  | deviceSigns
  /-- In a message, up to the byte that ends one. -/
  | message
  deriving DecidableEq, Repr

/-- White space among the controls. -/
def isLayout (c : Char) : Bool := c == '\t' || c == '\n' || c == '\x0c' || c == '\r'

def isGraphic (c : Char) : Bool := decide (0x20 ≤ c.toNat) && c.toNat != 0x7F

/-- Whether the byte that ends a message is among the bytes of `c`. -/
def endsMessage (c : Char) : Bool := (String.utf8EncodeChar c).contains 0x9C

namespace Mode

/-- The mode behind the escape character and `c`. -/
def ofIntroducer (c : Char) : Mode :=
  if c = '[' then parameters
  else if c = ']' then command
  else if c = 'P' then device
  else if c = 'X' ∨ c = '^' ∨ c = '_' then message
  else if c.toNat < 0x30 then signs
  else ground

/-- The mode behind a graphic ASCII character, in a mode that such characters lead through. -/
def nextGraphic (m : Mode) (c : Char) : Mode :=
  match m with
  | escape => ofIntroducer c
  | signs => if c.toNat < 0x30 then signs else ground
  | parameters => if c.toNat < 0x40 then parameters else ground
  | device =>
    if c.toNat < 0x30 then deviceSigns
    else if c.toNat < 0x40 then deviceParameters
    else message
  | deviceParameters =>
    if c.toNat < 0x30 then deviceSigns
    else if c.toNat < 0x3C then deviceParameters
    else message
  | deviceSigns => if c.toNat < 0x30 then deviceSigns else message
  | m => m

/-- The mode behind `c`. The controls and what is not ASCII count for nothing, except at the end of
a command or a message. -/
def next (m : Mode) (c : Char) : Mode :=
  match m with
  | command => if c = '\x07' then ground else command
  | message => if endsMessage c then ground else message
  | m => if isGraphic c && decide (c.toNat < 0x80) then m.nextGraphic c else m

/-- Whether white space is shown. -/
def showsLayout (m : Mode) : Bool := m matches ground | escape | signs | parameters

end Mode

/-! ## Plain text -/

/-- What was read of a text. White space in a short sequence interrupts it: from there on the text
is shown, up to a control character, with which the sequence goes on. -/
structure Reading where
  mode : Mode
  isInterrupted : Bool
  deriving DecidableEq, Repr

namespace Reading

def ofMode (m : Mode) : Reading := ⟨m, false⟩

/-- What was read after `c`, and whether `c` is shown. An escape character begins a new sequence
anywhere, and the controls CAN and SUB end each. What is not ASCII ends an interrupted one. -/
def step (r : Reading) (c : Char) : Reading × Bool :=
  if c = '\x1b' then (ofMode .escape, false)
  else if c = '\x18' ∨ c = '\x1a' then (ofMode .ground, false)
  else if (r.isInterrupted || r.mode == .ground) && isGraphic c then
    (if c.toNat < 0x80 then r else ofMode .ground, true)
  else if isLayout c && r.mode.showsLayout then (⟨r.mode, true⟩, true)
  else (ofMode (r.mode.next c), false)

end Reading

def plainFrom : Reading → List Char → List Char
  | _, [] => []
  | r, c :: cs =>
    let (r, isShown) := r.step c
    if isShown then c :: plainFrom r cs else plainFrom r cs

def plain (s : String) : String := String.ofList (plainFrom (.ofMode .ground) s.toList)

end PLZero.Terminal
