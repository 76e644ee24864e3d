import PLZero.Text.Position

/-! Lexical faults: why a lexeme could not be read, and where it starts. -/
namespace PLZero
set_option autoImplicit false

inductive Fault.Cause where
  /-- An integer literal exceeds the largest integer. -/
  | integerOverflow
  /-- No token starts with the character. -/
  | invalidInput
  deriving DecidableEq, Repr

structure Fault where
  cause : Fault.Cause
  place : Position
  deriving DecidableEq, Repr

namespace Fault

def Cause.name : Cause → String
  | integerOverflow => "IntegerOverflow"
  | invalidInput => "InvalidInput"

def Cause.ofName? (s : String) : Option Cause :=
  [integerOverflow, invalidInput].find? (·.name == s)

/-- The code by which reports name the cause. -/
def Cause.code : Cause → String
  | integerOverflow => "E0001"
  | invalidInput => "E0002"

def Cause.description : Cause → String
  | integerOverflow => "integer literal is too large"
  | invalidInput => "invalid input character"

def message (f : Fault) : String :=
  f.cause.description ++ " at " ++ f.place.text

end Fault

end PLZero
