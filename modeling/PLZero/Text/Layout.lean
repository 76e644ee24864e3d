/-! Rows and columns of plain text. -/
namespace PLZero.Text
set_option autoImplicit false

/-- A row of `n` times the character `c`. -/
def row (n : Nat) (c : Char) : String := String.ofList (List.replicate n c)

@[simp] theorem length_row (n : Nat) (c : Char) : (row n c).length = n := by
  simp [row]

/-- `s` behind as many blanks as bring it to the width `w`. -/
def alignRight (w : Nat) (s : String) : String := row (w - s.length) ' ' ++ s

theorem length_alignRight (w : Nat) (s : String) :
    (alignRight w s).length = max w s.length := by
  simp only [alignRight, String.length_append, length_row]
  omega

end PLZero.Text
