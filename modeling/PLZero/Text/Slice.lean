/-! Pieces of a text by byte offset. Offsets count bytes of the UTF-8 text, so a piece exists only
where both offsets fall between characters.

* `Text.charsIn` counts the characters of the first `n` bytes.
* `Text.slice?` is the piece between two offsets. -/
namespace PLZero.Text
set_option autoImplicit false

/-- The length of `cs` in bytes. -/
def bytes : List Char → Nat
  | [] => 0
  | c :: cs => c.utf8Size + bytes cs

@[simp] theorem bytes_nil : bytes [] = 0 := rfl

@[simp] theorem bytes_cons (c : Char) (cs : List Char) :
    bytes (c :: cs) = c.utf8Size + bytes cs := rfl

@[simp] theorem bytes_append (cs ds : List Char) : bytes (cs ++ ds) = bytes cs + bytes ds := by
  induction cs with
  | nil => rw [List.nil_append, bytes_nil, Nat.zero_add]
  | cons c cs ih => rw [List.cons_append, bytes_cons, bytes_cons, ih, Nat.add_assoc]

/-- How many characters the first `n` bytes of `cs` hold, added to `k`; `none` if byte `n` lies
inside a character or beyond the end. -/
def charsIn (k : Nat) : List Char → Nat → Option Nat
  | [], n => if n = 0 then some k else none
  | c :: cs, n =>
    if n = 0 then some k
    else if c.utf8Size ≤ n then charsIn (k + 1) cs (n - c.utf8Size)
    else none

/-- The characters of `cs` from byte `i` up to byte `j`. -/
def slice? (cs : List Char) (i j : Nat) : Option (List Char) :=
  if i ≤ j then
    match charsIn 0 cs i, charsIn 0 cs j with
    | some m, some n => some ((cs.take n).drop m)
    | _, _ => none
  else none

end PLZero.Text
