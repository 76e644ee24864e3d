import PLZero.Number.Binary64
import PLZero.Toml.Flaw

/-! Values of a TOML document that stand for themselves. Dates and times are checked against the
calendar and the clock, and not kept. -/
namespace PLZero.Toml
set_option autoImplicit false

inductive Scalar where
  | string (s : String)
  | integer (n : Int)
  | float (x : Binary64)
  | boolean (b : Bool)
  | datetime
  deriving DecidableEq, Repr

def Scalar.shape : Scalar → Shape
  | string _ => .string
  | integer _ => .integer
  | float _ => .float
  | boolean _ => .boolean
  | datetime => .datetime

end PLZero.Toml
