import PLZero.Lexeme.Fault
import PLZero.Text.Listing

/-! Error reports: a headline with an optional code, and the place in a listing that it is about. -/
namespace PLZero
set_option autoImplicit false

structure Report where
  code : Option String
  message : String
  extent : Extent
  deriving DecidableEq, Repr

namespace Report

/-- A report without a code. -/
def error (message : String) (extent : Extent) : Report := ⟨none, message, extent⟩

def withCode (r : Report) (code : String) : Report := { r with code := some code }

/-- A fault is reported by its code, at the place where its lexeme starts. -/
def ofFault (f : Fault) : Report :=
  (error f.cause.description (.between f.place f.place)).withCode f.cause.code

def headline (r : Report) : String :=
  match r.code with
  | some code => "error[" ++ code ++ "]: " ++ r.message
  | none => "error: " ++ r.message

/-- The headline and the underlined extent, or its bare location if the listing has no such line. -/
def render (r : Report) (l : Listing) : String :=
  r.headline ++ "\n" ++ (l.underlined? r.extent).getD (l.location r.extent)

end Report

end PLZero
