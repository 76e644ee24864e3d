import PLZero.Lexeme.Lexer
import PLZero.Report
import PLZero.Settings

/-! The token dump: one line for each token of a listing, the final one included.

* `Token.line` is the line of one token, with its source range in front if asked for.
* `Listing.tokens` are all tokens of a listing, or the report of the first fault.
* `Listing.dump` is the dump of a listing. -/
namespace PLZero
set_option autoImplicit false

/-- The token as text, behind `start-stop ` if `spans` is set. -/
def Token.line (t : Token) (spans : Bool) : String :=
  if spans then t.start.text ++ "-" ++ t.stop.text ++ " " ++ t.text else t.text

/-- The lines of the tokens, each ended by a line feed. -/
def dumpText (spans : Bool) (ts : List Token) : String :=
  String.join (ts.map fun t => t.line spans ++ "\n")

/-- A listing that does not tokenize: the first fault and its report. -/
structure Rejected where
  fault : Fault
  report : String
  deriving DecidableEq, Repr

namespace Listing

def tokens (l : Listing) (a : Alphabet) : Except Rejected (List Token) :=
  match (Lexer.ofString l.content a).tokens.1 with
  | .ok ts => .ok ts.toList
  | .error f => .error ⟨f, (Report.ofFault f).render l⟩

def dump (l : Listing) (s : Settings) : Except Rejected String :=
  (l.tokens s.alphabet).map (dumpText s.spans)

end Listing

end PLZero
