import PLZero.Toml.Reader

/-! What stands between the values of a document: blanks, line ends and comments. -/
namespace PLZero.Toml.Reader
set_option autoImplicit false

/-- Characters that may stand in comments and strings: all but the controls other than the tab. -/
def isPlain (c : Char) : Bool := c == '\t' || (decide (0x20 ≤ c.toNat) && c.toNat != 0x7F)

def isIndent (c : Char) : Bool := c == ' ' || c == '\t'

def blanks : Reader Unit := do let _ ← takeWhile isIndent

/-- A line feed, with or without a carriage return before it. -/
def newline : Reader Unit := char '\n' <|> (do char '\r'; char '\n')

/-- Blanks and line ends, at least one of them. -/
def emptiness : Reader Unit := (do let _ ← next isIndent) <|> newline

def comment : Reader Unit := do
  char '#'
  let _ ← takeWhile isPlain

def lineEnd : Reader Unit := newline <|> atEnd

/-- What may stand on a line behind what it says. -/
def lineTail : Reader Unit := expecting [.newline, .mark "#"] do
  blanks
  let _ ← maybe comment
  lineEnd

/-- Lines that say nothing, at most as many as there are characters, and the blanks before what
comes next. A comment needs a line end here. -/
def emptyLines : List Char → Reader Unit
  | [] => blanks
  | _ :: cs => do
    blanks
    match ← peek with
    | some '#' => do comment; newline; emptyLines cs
    | some '\n' | some '\r' => do newline; emptyLines cs
    | _ => pure ()

/-- What may stand between the items of an array. -/
def gap : Reader Unit := do emptyLines (← unread).rest

end PLZero.Toml.Reader
