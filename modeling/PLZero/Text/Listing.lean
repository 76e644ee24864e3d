import PLZero.Text.Layout
import PLZero.Text.Position
import PLZero.Text.Quoted
import PLZero.Text.Slice

/-! A named text as a sequence of lines. A line begins at the start of the text and after every
line feed; its content is shown without the line feeds and carriage returns at its end.

* `Listing.lineStarts` is the table of the offsets where lines begin.
* `Listing.lineAt?` is a line by its number, counted from one.
* `Listing.underlined?` shows an extent: where it is, the line, and carets below its characters. -/
namespace PLZero
set_option autoImplicit false

namespace Text

/-- The offsets just after the line feeds of `cs`, if `cs` begins at offset `n`. -/
def lineStartsAfter (n : Nat) : List Char → List Nat
  | [] => []
  | c :: cs =>
    if c = '\n' then (n + c.utf8Size) :: lineStartsAfter (n + c.utf8Size) cs
    else lineStartsAfter (n + c.utf8Size) cs

/-- `cs` without the line feeds and carriage returns at its end. -/
def trimLineEnd (cs : List Char) : List Char :=
  (cs.reverse.dropWhile fun c => c == '\n' || c == '\r').reverse

end Text

structure Listing where
  name : String
  content : String
  deriving DecidableEq, Repr

namespace Listing

open Text (row alignRight slice? trimLineEnd)

def lineStarts (l : Listing) : List Nat :=
  0 :: Text.lineStartsAfter 0 l.content.toList

def lineCount (l : Listing) : Nat := l.lineStarts.length

/-- The content of line `k`, counted from one. -/
def lineAt? (l : Listing) : Nat → Option String
  | 0 => none
  | k + 1 =>
    match l.lineStarts[k]? with
    | none => none
    | some i =>
      let j := l.lineStarts[k + 1]?.getD l.content.utf8ByteSize
      (slice? l.content.toList i j).map fun cs => String.ofList (trimLineEnd cs)

/-- The place of an extent: the name of the text, the line and the column. -/
def location (l : Listing) (e : Extent) : String :=
  "--> " ++ l.name ++ ":" ++ e.line.toNat.repr ++ ":" ++ e.column.toNat.repr

/-- The width of the column of line numbers: room for the largest, and at least three. -/
def gutter (l : Listing) : Nat := max 3 l.lineCount.repr.length

/-- The number of carets below an extent: one for each character, and at least one, also if the
extent is no piece of the text. -/
def caretCount (l : Listing) (e : Extent) : Nat :=
  max 1 ((slice? l.content.toList e.start e.stop).getD []).length

/-- The location of an extent, its line behind the line number, and the carets below it; `none` if
the text has no such line. -/
def underlined? (l : Listing) (e : Extent) : Option String :=
  (l.lineAt? e.line.toNat).map fun line =>
    l.location e ++ "\n"
      ++ alignRight l.gutter e.line.toNat.repr ++ " | " ++ line ++ "\n"
      ++ row l.gutter ' ' ++ " | " ++ row (e.column.toNat - 1) ' ' ++ row (l.caretCount e) '^'

/-- A summary of the listing: its quoted name and the number of its lines. -/
def summary (l : Listing) : String :=
  "SourceFile \x7b name: " ++ Text.quoted l.name ++ ", line_count: " ++ l.lineCount.repr ++ " \x7d"

end Listing

end PLZero
