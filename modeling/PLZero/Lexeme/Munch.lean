import PLZero.Lexeme.Alphabet
import PLZero.Lexeme.Fault
import PLZero.Lexeme.Token

/-! The lexeme at the head of a text. A lexeme is as long as it can be: a run of digits, a letter
with the letters and digits after it, or else a single character.

* `lexemeTail` is the part of the lexeme after its first character.
* `meaning` is what the lexeme denotes, or why it denotes nothing. -/
namespace PLZero
set_option autoImplicit false

/-- The largest value of an integer literal. -/
def maxInteger : Nat := 2147483647

/-- A run of digits denotes its decimal value; leading zeros do not matter. -/
def integerMeaning (digits : List Char) : Except Fault.Cause (Kind × Value) :=
  let n := Nat.ofDigitChars 10 digits 0
  if n ≤ maxInteger then .ok (.unsignedInteger, .integer n) else .error .integerOverflow

/-- A word is a keyword if it is spelled like one, and an identifier otherwise. -/
def wordMeaning (word : List Char) : Kind × Value :=
  let s := String.ofList word
  match Keyword.ofSpelling? s with
  | some k => (.keyword k, .text s)
  | none => (.identifier, .text s)

def signMeaning (c : Char) : Except Fault.Cause (Kind × Value) :=
  match Punctuation.ofChar? c with
  | some p => .ok (.punctuation p, .char c)
  | none => .error .invalidInput

namespace Alphabet

/-- The characters after `c` that belong to the lexeme which `c` starts, if `cs` follows it. -/
def lexemeTail (a : Alphabet) (c : Char) (cs : List Char) : List Char :=
  if isDigit c then cs.takeWhile isDigit
  else if a.startsName c then cs.takeWhile a.continuesName
  else []

/-- What the lexeme `c :: tail` denotes. -/
def meaning (a : Alphabet) (c : Char) (tail : List Char) : Except Fault.Cause (Kind × Value) :=
  if isDigit c then integerMeaning (c :: tail)
  else if a.startsName c then .ok (wordMeaning (c :: tail))
  else signMeaning c

end Alphabet

end PLZero
