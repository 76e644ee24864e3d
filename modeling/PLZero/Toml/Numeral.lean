import PLZero.Toml.Reader
import PLZero.Toml.Scalar

/-! How numbers are written in a TOML document.

* Digits may be grouped by single underscores. Decimal numbers may carry a sign, and do not begin
  with a needless zero.
* Integers have 64 bits; they may also be hexadecimal, octal or binary, without a sign.
* A float has an exponent or decimal places, and is refused if it is too large and positive. -/
namespace PLZero.Toml
set_option autoImplicit false

/-! ## Digits -/

def digitValue (c : Char) : Nat :=
  if c.isDigit then c.toNat - '0'.toNat
  else if c.isLower then c.toNat - 'a'.toNat + 10
  else c.toNat - 'A'.toNat + 10

/-- Whether `c` is a digit to the base `radix`, in either case. -/
def isDigitOf (radix : Nat) (c : Char) : Bool :=
  c.isAlphanum && decide (digitValue c < radix)

def digitsValue (radix : Nat) (cs : List Char) : Nat :=
  cs.foldl (fun n c => radix * n + digitValue c) 0

/-- The integer, if it has 64 bits. -/
def int64 (n : Int) : Except Flaw.Cause Int :=
  if 0x8000000000000000 ≤ n then .error .tooLarge
  else if n < -0x8000000000000000 then .error .tooSmall
  else .ok n

/-- The number if it is not too large. -/
def finitePositive? (x : Binary64) : Option Binary64 :=
  if x = .infinite false then none else some x

namespace Reader

def digit (radix : Nat) : Reader Char := next (isDigitOf radix)

/-- Digits, with single underscores between digits only. The underscores are left out. -/
def digits (radix : Nat) : Reader (List Char) := do
  let grouped : Reader Char := char '_' *> commit (expecting [.digit] (digit radix))
  return (← digit radix) :: (← many (digit radix <|> grouped))

/-- A sign that may be missing; the flag tells whether it is a minus. -/
def sign : Reader Bool := do
  return (← maybe (next fun c => c == '+' || c == '-')) == some '-'

/-- A decimal integer: the sign and the digits. -/
def decimal : Reader (Bool × List Char) := labelled .integer do
  let negative ← sign
  let leading (c : Char) : Bool := c.isDigit && c != '0'
  let ds ← (lookahead (next leading) *> digits 10) <|> (do return [← digit 10])
  return (negative, ds)

/-! ## Integers -/

/-- An integer behind a zero and a letter that tells its base. -/
def radixInteger (letter : Char) (radix : Nat) (part : Part) : Reader Int :=
  commit (check (labelled part (literal ['0', letter] *> digits radix)) fun ds =>
    int64 (digitsValue radix ds))

def decimalInteger : Reader Int := do
  let u ← unread
  let (negative, ds) ← decimal
  let n : Int := digitsValue 10 ds
  commit (accept u (int64 (if negative then -n else n)))

def integer : Reader Int := do
  match (← unread).rest with
  | '0' :: 'x' :: _ => radixInteger 'x' 16 .hexadecimal
  | '0' :: 'o' :: _ => radixInteger 'o' 8 .octal
  | '0' :: 'b' :: _ => radixInteger 'b' 2 .binary
  | _ => decimalInteger

/-! ## Floats -/

def exponent : Reader Int := do
  let _ ← next fun c => c == 'e' || c == 'E'
  let negative ← sign
  let n : Int := digitsValue 10 (← commit (digits 10))
  return if negative then -n else n

/-- The digits behind the point. -/
def places : Reader (List Char) := do
  char '.'
  commit (expecting [.digit] (digits 10))

/-- A decimal number with places or an exponent, or with both. -/
def decimalFloat : Reader Binary64 := do
  let u ← unread
  let (negative, whole) ← decimal
  let (places, e) ← (do return ([], ← exponent))
    <|> (do return (← places, (← maybe exponent).getD 0))
  match finitePositive? (.ofDecimal negative (digitsValue 10 (whole ++ places))
      (e - places.length)) with
  | some x => return x
  | none => do goTo u; commit fail

def infinity : Reader Unit := literal ['i', 'n', 'f']

def notANumber : Reader Unit := literal ['n', 'a', 'n']

def specialFloat : Reader Binary64 := do
  let negative ← sign
  (infinity *> pure (.infinite negative)) <|> (notANumber *> pure .nan)

def float : Reader Binary64 := labelled .float (decimalFloat <|> specialFloat)

end Reader

end PLZero.Toml
