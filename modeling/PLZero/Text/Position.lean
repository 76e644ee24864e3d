/-! Places in a text. A `Position` tells where a character stands: its byte offset in the UTF-8
text, and its line and column, both counted from one, the column in characters. An `Extent` is a
half-open range of bytes together with the line and column at which it begins.

* `Position.advance` moves past one character, `Position.advanceBy` past a run of characters.
* Positions are ordered by offset, then by line, then by column. -/
namespace PLZero
set_option autoImplicit false

structure Position where
  offset : Nat
  line : UInt32
  column : UInt32
  deriving DecidableEq, Repr

namespace Position

/-- The position of the first character of every text. -/
def start : Position := ⟨0, 1, 1⟩

instance : Inhabited Position := ⟨start⟩

instance : Ord Position where
  compare p q :=
    (compare p.offset q.offset).then ((compare p.line q.line).then (compare p.column q.column))

instance : LE Position := ⟨fun p q => (compare p q).isLE = true⟩

instance (p q : Position) : Decidable (p ≤ q) :=
  inferInstanceAs (Decidable ((compare p q).isLE = true))

/-- Where the next character stands if `c` stands at `p`: a line feed begins a line, any other
character fills one column. -/
def advance (p : Position) (c : Char) : Position :=
  if c = '\n' then ⟨p.offset + c.utf8Size, p.line + 1, 1⟩
  else ⟨p.offset + c.utf8Size, p.line, p.column + 1⟩

def advanceBy (p : Position) (cs : List Char) : Position :=
  cs.foldl advance p

@[simp] theorem advanceBy_nil (p : Position) : p.advanceBy [] = p := rfl

@[simp] theorem advanceBy_cons (p : Position) (c : Char) (cs : List Char) :
    p.advanceBy (c :: cs) = (p.advance c).advanceBy cs := rfl

theorem advanceBy_append (p : Position) (cs ds : List Char) :
    p.advanceBy (cs ++ ds) = (p.advanceBy cs).advanceBy ds := List.foldl_append

theorem advance_offset (p : Position) (c : Char) :
    (p.advance c).offset = p.offset + c.utf8Size := by
  unfold advance; split <;> rfl

/-- A position is written as its line and column. -/
def text (p : Position) : String :=
  p.line.toNat.repr ++ ":" ++ p.column.toNat.repr

end Position

/-! ## Extents -/

structure Extent where
  start : Nat
  stop : Nat
  line : UInt32
  column : UInt32
  deriving DecidableEq, Repr

namespace Extent

def between (p q : Position) : Extent := ⟨p.offset, q.offset, p.line, p.column⟩

/-- The length in bytes; none if the range ends before it begins. -/
def length (e : Extent) : Nat := e.stop - e.start

def isEmpty (e : Extent) : Bool := e.start == e.stop

/-- The extent from the beginning of `e` to the end of `f`. -/
def upTo (e f : Extent) : Extent := { e with stop := f.stop }

end Extent

end PLZero
