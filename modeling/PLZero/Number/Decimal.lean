/-! Numbers in decimal digits, as they are written: with a sign or without, with a point or without,
and possibly with an exponent. The infinities and "not a number" are numbers too. -/
namespace PLZero.Decimal
set_option autoImplicit false

def isDigits (cs : List Char) : Bool := !cs.isEmpty && cs.all Char.isDigit

/-- What follows the sign, if there is one. -/
def unsigned (cs : List Char) : List Char :=
  if cs.head? = some '+' ∨ cs.head? = some '-' then cs.drop 1 else cs

/-- Whether `cs` is an exponent or nothing. -/
def isExponent (cs : List Char) : Bool :=
  match cs with
  | [] => true
  | c :: cs => (c == 'e' || c == 'E') && isDigits (unsigned cs)

/-- The names of numbers that have no digits, in lower case. -/
def names : List String := ["inf", "infinity", "nan"]

def isUnsigned (cs : List Char) : Bool :=
  let whole := cs.takeWhile Char.isDigit
  match cs.dropWhile Char.isDigit with
  | '.' :: cs =>
    let places := cs.takeWhile Char.isDigit
    !(whole.isEmpty && places.isEmpty) && isExponent (cs.dropWhile Char.isDigit)
  | cs => !whole.isEmpty && isExponent cs

def isNumber (s : String) : Bool :=
  let cs := unsigned s.toList
  names.contains (String.ofList (cs.map Char.toLower)) || isUnsigned cs

end PLZero.Decimal
