import PLZero.Dump

/-! Why a run fails, and what it says then. A failure may have a deeper cause, which is named after
it; the report of a rejected listing stands for itself. -/
namespace PLZero
set_option autoImplicit false

inductive Failure where
  /-- The configuration file could not be read. -/
  | configuration (message : String)
  /-- The configuration file gives no settings. -/
  | settings (r : Settings.Rejection)
  /-- The input file could not be read. -/
  | input (path reason : String)
  /-- The input does not tokenize. -/
  | rejected (r : Rejected)
  deriving DecidableEq, Repr

namespace Failure

/-- What is said of a file that cannot be read. -/
def readMessage (path : String) : String := "failed to read " ++ path

def message : Failure → String
  | configuration m => "configuration error: " ++ m
  | settings r => "invalid configuration: " ++ r.text
  | input path _ => readMessage path
  | rejected r => r.report

def cause? : Failure → Option String
  | configuration _ => none
  | settings r => some r.text
  | input _ reason => some reason
  | rejected _ => none

/-- What a run that fails so writes at its end. -/
def console : Failure → String
  | rejected r => r.report ++ "\n"
  | f => "error: " ++ String.intercalate ": " (f.message :: f.cause?.toList) ++ "\n"

end Failure

end PLZero
