import PLZero.Text.Position
import PLZero.Text.Slice

/-! A text that is being read, character by character and only forwards.

* `Input.step` consumes one character, `Input.advance` a number of them, `Input.skipWhile` the
  longest run of a class of characters.
* `Input.opening` passes over a byte order mark at the very start; it acts only the first time. -/
namespace PLZero
set_option autoImplicit false

/-- The byte order mark, which may stand at the start of a text and is no part of it. -/
def byteOrderMark : Char := '\ufeff'

/-- What a look past the end of the text shows. -/
def endMark : Char := '\x00'

structure Input where
  /-- The whole text. -/
  source : String
  /-- The characters not yet consumed. -/
  rest : List Char
  /-- Where the next character stands. -/
  here : Position
  /-- Where the character consumed last stands. -/
  last : Position
  /-- Whether the text has been opened. -/
  opened : Bool
  deriving DecidableEq, Repr

namespace Input

def ofString (s : String) : Input := ⟨s, s.toList, .start, .start, false⟩

def atEnd (i : Input) : Bool := i.rest.isEmpty

def peek (i : Input) : Char := i.rest.headD endMark

/-- Consumes one character; at the end there is none to consume. -/
def step (i : Input) : Input :=
  match i.rest with
  | [] => i
  | c :: cs => { i with rest := cs, here := i.here.advance c, last := i.here }

def next (i : Input) : Char × Input := (i.peek, i.step)

def advance : Nat → Input → Input
  | 0, i => i
  | n + 1, i => advance n i.step

def skipWhile (p : Char → Bool) (i : Input) : Input :=
  i.advance (i.rest.takeWhile p).length

/-- Opens the text. A byte order mark at the very start is passed over: it counts in the offset but
fills no column. -/
def opening (i : Input) : Input :=
  if i.opened then i
  else
    match i.rest with
    | c :: cs =>
      if i.here.offset = 0 ∧ c = byteOrderMark then
        let p := { i.here with offset := c.utf8Size }
        { i with rest := cs, here := p, last := p, opened := true }
      else { i with opened := true }
    | [] => { i with opened := true }

def remaining (i : Input) : String := String.ofList i.rest

/-- The text between two positions; empty if it is not a piece of the text. -/
def slice (i : Input) (p q : Position) : String :=
  String.ofList ((Text.slice? i.source.toList p.offset q.offset).getD [])

/-! ## What the operations do to the unread characters -/

@[simp] theorem step_rest (i : Input) : i.step.rest = i.rest.drop 1 := by
  unfold step; split <;> simp_all

@[simp] theorem step_source (i : Input) : i.step.source = i.source := by
  unfold step; split <;> rfl

@[simp] theorem step_opened (i : Input) : i.step.opened = i.opened := by
  unfold step; split <;> rfl

@[simp] theorem advance_rest (n : Nat) (i : Input) : (i.advance n).rest = i.rest.drop n := by
  induction n generalizing i with
  | zero => rfl
  | succ n ih => rw [advance, ih, step_rest, List.drop_drop, Nat.add_comm]

@[simp] theorem advance_source (n : Nat) (i : Input) : (i.advance n).source = i.source := by
  induction n generalizing i with
  | zero => rfl
  | succ n ih => rw [advance, ih, step_source]

@[simp] theorem advance_opened (n : Nat) (i : Input) : (i.advance n).opened = i.opened := by
  induction n generalizing i with
  | zero => rfl
  | succ n ih => rw [advance, ih, step_opened]

theorem step_here (i : Input) : i.step.here = i.here.advanceBy (i.rest.take 1) := by
  unfold step; split <;> simp_all

theorem advance_here (n : Nat) (i : Input) :
    (i.advance n).here = i.here.advanceBy (i.rest.take n) := by
  induction n generalizing i with
  | zero => rfl
  | succ n ih =>
    rw [advance, ih, step_here, step_rest, ← Position.advanceBy_append]
    cases i.rest <;> simp

@[simp] theorem skipWhile_rest (p : Char → Bool) (i : Input) :
    (i.skipWhile p).rest = i.rest.dropWhile p := by
  rw [skipWhile, advance_rest]
  induction i.rest with
  | nil => rfl
  | cons c cs ih =>
    rw [List.takeWhile_cons, List.dropWhile_cons]
    split
    · exact ih
    · rfl

theorem opening_rest_length_le (i : Input) : i.opening.rest.length ≤ i.rest.length := by
  unfold opening
  split
  · exact Nat.le_refl _
  · split
    · split <;> simp_all
    · simp_all

end Input

end PLZero
