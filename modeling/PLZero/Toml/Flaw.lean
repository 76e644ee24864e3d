import PLZero.Text.Quoted

/-! What is wrong with a text that is no TOML document.

* `Flaw` names the part that cannot be read, what would fit in its place, and a cause. Any of them
  may be missing.
* `Flaw.text` is what is said of a flaw. -/
namespace PLZero.Toml
set_option autoImplicit false

open Text (named)

/-! ## Parts and hints -/

/-- The parts of a document that are called by a name. -/
inductive Part where
  | key
  | tableHeader
  | string
  | basicString
  | literalString
  | longBasicString
  | longLiteralString
  | escape
  | shortCode
  | longCode
  | integer
  | hexadecimal
  | octal
  | binary
  | float
  | datetime
  | time
  | offset
  | array
  | inlineTable
  deriving DecidableEq, Repr

def Part.name : Part → String
  | key => "key"
  | tableHeader => "table header"
  | string => "string"
  | basicString => "basic string"
  | literalString => "literal string"
  | longBasicString => "multiline basic string"
  | longLiteralString => "multiline literal string"
  | escape => "escape sequence"
  | shortCode => "unicode 4-digit hex code"
  | longCode => "unicode 8-digit hex code"
  | integer => "integer"
  | hexadecimal => "hexadecimal integer"
  | octal => "octal integer"
  | binary => "binary integer"
  | float => "floating-point number"
  | datetime => "date-time"
  | time => "time"
  | offset => "time offset"
  | array => "array"
  | inlineTable => "inline table"

/-- What may stand at a place. -/
inductive Hint where
  | mark (s : String)
  | newline
  | digit
  | leadingDigit
  deriving DecidableEq, Repr

def Hint.text : Hint → String
  | mark s => named s
  | newline => "newline"
  | digit => "digit"
  | leadingDigit => "leading digit"

/-! ## Causes -/

/-- The shapes of values that no path leads through. -/
inductive Shape where
  | string
  | integer
  | float
  | boolean
  | datetime
  | array
  | inlineTable
  deriving DecidableEq, Repr

def Shape.name : Shape → String
  | string => "string"
  | integer => "integer"
  | float => "float"
  | boolean => "boolean"
  | datetime => "datetime"
  | array => "array"
  | inlineTable => "inline table"

inductive Flaw.Cause where
  /-- The key is taken already. Its table may be given, by the path that leads there. -/
  | duplicateKey (key : String) (table : Option (List String))
  /-- The path leads to a value of this shape, and on. -/
  | pathThrough (path : List String) (shape : Shape)
  | outOfRange
  | tooDeep
  | tooLarge
  | tooSmall
  deriving DecidableEq, Repr

def dotted (path : List String) : String := String.intercalate "." path

def Flaw.Cause.text : Flaw.Cause → String
  | duplicateKey key none => "duplicate key " ++ named key
  | duplicateKey key (some []) => "duplicate key " ++ named key ++ " in document root"
  | duplicateKey key (some path) =>
    "duplicate key " ++ named key ++ " in table " ++ named (dotted path)
  | pathThrough path shape =>
    "dotted key " ++ named (dotted path) ++ " attempted to extend non-table type ("
      ++ shape.name ++ ")"
  | outOfRange => "value is out of range"
  | tooDeep => "recursion limit exceeded"
  | tooLarge => "number too large to fit in target type"
  | tooSmall => "number too small to fit in target type"

/-! ## Flaws -/

structure Flaw where
  part : Option Part
  hints : List Hint
  cause : Option Flaw.Cause
  deriving DecidableEq, Repr

namespace Flaw

/-- A flaw of which nothing is known. -/
def plain : Flaw := ⟨none, [], none⟩

def ofCause (c : Cause) : Flaw := ⟨none, [], some c⟩

/-- The flaw, found while `p` was read. The smallest part counts, so a part that is known stays. -/
def inside (p : Part) (f : Flaw) : Flaw := { f with part := f.part <|> some p }

/-- The flaw, found where `hints` might have stood too. -/
def hinted (hints : List Hint) (f : Flaw) : Flaw := { f with hints := f.hints ++ hints }

def hintsText? (hints : List Hint) : Option String :=
  if hints.isEmpty then none
  else some ("expected " ++ String.intercalate ", " (hints.map Hint.text))

/-- What is known of the flaw, thing by thing. -/
def lines (f : Flaw) : List String :=
  (f.part.map fun p => "invalid " ++ p.name).toList ++ (hintsText? f.hints).toList
    ++ (f.cause.map Cause.text).toList

def text (f : Flaw) : String := String.intercalate "\n" f.lines

end Flaw

end PLZero.Toml
