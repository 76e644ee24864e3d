/-! Binary floating point numbers of 64 bits, with exact arithmetic on naturals: a finite number is
a mantissa below `2 ^ 53` times a power of two whose exponent is at least `-1074`.

* `Binary64.ofDecimal` is the number nearest to a decimal; of two nearest, the one with the even
  mantissa.
* `Binary64.shortest` is the decimal with the fewest digits that reads back as the number, and of
  those the nearest.
* `Binary64.text` writes that decimal without an exponent and with at least one decimal place. -/
namespace PLZero
set_option autoImplicit false

inductive Binary64 where
  | finite (negative : Bool) (mantissa : Nat) (exponent : Int)
  | infinite (negative : Bool)
  | nan
  deriving DecidableEq, Repr

namespace Binary64

/-- The least exponent of a finite number. -/
def minExponent : Int := -1074

/-- The greatest exponent of a finite number. -/
def maxExponent : Int := 971

/-- `a / b` rounded to the nearest natural, a half to the even one. -/
def roundQuotient (a b : Nat) : Nat :=
  let m := a / b
  let r := a % b
  if 2 * r < b then m else if b < 2 * r then m + 1 else m + m % 2

/-- The positive fraction `a / b` in units of `2 ^ q`, as a fraction. -/
def inUnits (a b : Nat) (q : Int) : Nat × Nat :=
  (a * Nat.pow 2 (-q).toNat, b * Nat.pow 2 q.toNat)

/-- The number nearest to the positive fraction `a / b`. -/
def ofFraction (negative : Bool) (a b : Nat) : Binary64 :=
  let q := max ((Nat.log2 a : Int) - Nat.log2 b - 53) minExponent
  let (c, d) := inUnits a b q
  let q := if Nat.pow 2 53 ≤ c / d then q + 1 else q
  let (c, d) := inUnits a b q
  let m := roundQuotient c d
  let (m, q) := if m = Nat.pow 2 53 then (Nat.pow 2 52, q + 1) else (m, q)
  if maxExponent < q then infinite negative
  else finite negative m q

/-- The number nearest to `n * 10 ^ e`. Decimals of more than 310 places before the point are too
large, and those with more than 330 zeros behind it round to zero. -/
def ofDecimal (negative : Bool) (n : Nat) (e : Int) : Binary64 :=
  let magnitude := (n.repr.length : Int) + e
  if n = 0 ∨ magnitude < -330 then finite negative 0 minExponent
  else if 310 < magnitude then infinite negative
  else ofFraction negative (n * Nat.pow 10 e.toNat) (Nat.pow 10 (-e).toNat)

/-! ## The shortest decimal -/

/-- The multiple of `10 ^ p`, as a factor, that reads back as `m * 2 ^ q`; the nearest if there are
several, and of two nearest the larger. The numbers that read back lie between the midpoints to the
neighbours, with the midpoints if `m` is even. -/
def onGrid (m : Nat) (q p : Int) : Option Nat :=
  let unit := Nat.pow 2 (q - 2).toNat * Nat.pow 10 (-p).toNat
  let grid := Nat.pow 10 p.toNat * Nat.pow 2 (2 - q).toNat
  let below := if m = Nat.pow 2 52 ∧ minExponent < q then 4 * m - 1 else 4 * m - 2
  let above := 4 * m + 2
  let inside (c : Nat) : Bool :=
    if m % 2 = 0 then below * unit ≤ c * grid && c * grid ≤ above * unit
    else below * unit < c * grid && c * grid < above * unit
  let f := 4 * m * unit / grid
  match inside f, inside (f + 1) with
  | true, true => if 2 * (4 * m * unit) < (2 * f + 1) * grid then some f else some (f + 1)
  | true, false => some f
  | false, true => some (f + 1)
  | false, false => none

/-- The coarsest grid from `10 ^ p` downwards, over `n` powers of ten, on which `m * 2 ^ q` has a
decimal that reads back. -/
def coarsest (m : Nat) (q : Int) : Nat → Int → Nat × Int
  | 0, p => (m, p)
  | n + 1, p =>
    match onGrid m q p with
    | some c => (c, p)
    | none => coarsest m q n (p - 1)

/-- The shortest decimal of the positive number `m * 2 ^ q`: digits and a power of ten. -/
def shortest (m : Nat) (q : Int) : Nat × Int :=
  if m = 0 then (0, 0) else coarsest m q 640 309

/-- `c * 10 ^ p` without an exponent. -/
def positional (c : Nat) (p : Int) : String :=
  let digits := c.repr.toList
  if 0 ≤ p then String.ofList (digits ++ List.replicate p.toNat '0' ++ ['.', '0'])
  else
    let places := (-p).toNat
    let padded := List.replicate (places + 1 - digits.length) '0' ++ digits
    let whole := padded.length - places
    String.ofList (padded.take whole ++ '.' :: padded.drop whole)

def text : Binary64 → String
  | finite negative m q =>
    let (c, p) := shortest m q
    (if negative then "-" else "") ++ positional c p
  | infinite negative => if negative then "-inf" else "inf"
  | nan => "NaN"

end Binary64

end PLZero
