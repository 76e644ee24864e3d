import PLZero.Text.Layout
import PLZero.Toml.Reader

/-! Complaints about a text: what is wrong with one piece of it, shown with the line on which the
piece begins and carets below the piece.

The line is shown up to its line feed. There is one caret for each byte of the piece, at least one;
there are none beyond the end of the line, where the columns before the piece count as one byte
each. -/
namespace PLZero.Toml
set_option autoImplicit false

open Text (row)

/-- Line `k` of a text, counted from one, without its line feed. -/
def lineOf (text : String) (k : Nat) : String :=
  String.ofList ((text.toList.splitOn '\n')[k - 1]?.getD [])

def complaint (text : String) (e : Extent) (message : String) : String :=
  let number := e.line.toNat.repr
  let margin := row (number.length + 1) ' '
  let line := lineOf text e.line.toNat
  let carets := max 1 (min e.length (line.utf8ByteSize - (e.column.toNat - 1)))
  "TOML parse error at line " ++ number ++ ", column " ++ e.column.toNat.repr ++ "\n"
    ++ margin ++ "|\n"
    ++ number ++ " | " ++ line ++ "\n"
    ++ margin ++ "|" ++ row e.column.toNat ' ' ++ row carets '^' ++ "\n"
    ++ message ++ "\n"

/-- The column behind the end of line `k`. -/
def columnBehind (text : String) (k : Nat) : UInt32 := ((lineOf text k).length + 1).toUInt32

/-- The extent of the next character of `text`. Before a character that is not ASCII, the column
counts bytes. Behind the line feed that ends a text, there is one more column on its line. -/
def Unread.extentIn (text : String) (u : Unread) : Extent :=
  let p := u.here
  match u.rest with
  | c :: _ =>
    let before := (lineOf text p.line.toNat).toList.take (p.column.toNat - 1)
    let bytes := (String.ofList before).utf8ByteSize
    let column := if c.toNat < 0x80 then p.column else (bytes + 1).toUInt32
    ⟨p.offset, p.offset + c.utf8Size, p.line, column⟩
  | [] =>
    if 1 < p.line ∧ p.column = 1 then
      ⟨p.offset, p.offset, p.line - 1, columnBehind text (p.line - 1).toNat + 1⟩
    else ⟨p.offset, p.offset, p.line, p.column⟩

end PLZero.Toml
