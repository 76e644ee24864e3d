import PLZero.Command.Terminal
import PLZero.Lexeme.Lexer
import PLZero.Settings

/-! The log of a run: what happened, and how it is written.

* `Event` is one thing that happened; it has a level, an area, a message and named details.
* `Event.render` writes an event on one line, plainly or in colours. -/
namespace PLZero
set_option autoImplicit false

/-! ## Events -/

inductive Level where
  | error
  | warn
  | info
  | debug
  | trace
  deriving DecidableEq, Repr

/-- How much a level tells: the more, the less urgent. -/
def Level.rank : Level → Nat
  | error => 1
  | warn => 2
  | info => 3
  | debug => 4
  | trace => 5

inductive Event where
  | configured (s : Settings)
  | token (kind : Kind) (start : Position)
  | fault (f : Fault)
  | tokenized (file : String) (tokens : Nat)
  deriving DecidableEq, Repr

namespace Event

def level : Event → Level
  | configured _ => .debug
  | token _ _ => .trace
  | fault _ => .debug
  | tokenized _ _ => .info

/-- The part of the program that the event belongs to, behind the larger parts that hold it. -/
def area : Event → String
  | configured _ => "pl0c"
  | token _ _ => "pl0c_lex::lexer::core"
  | fault _ => "pl0c_lex::lexer::core"
  | tokenized _ _ => "pl0c_drv"

def message : Event → String
  | configured _ => "configuration loaded"
  | token _ _ => "token"
  | fault _ => "tokenize error"
  | tokenized _ _ => "tokenized"

def details : Event → List (String × String)
  | configured s => [("config", s.summary)]
  | token kind start => [("kind", kind.name), ("start", start.text)]
  | fault f => [("code", Text.quoted f.cause.code), ("pos", f.place.text)]
  | tokenized file tokens => [("file", Text.quoted file), ("tokens", tokens.repr)]

/-- The names of all that the event tells. -/
def fields (e : Event) : List String := "message" :: e.details.map (·.1)

end Event

/-! ## Written events -/

/-- The level as written, all of one width. -/
def Level.label : Level → String
  | error => "ERROR"
  | warn => " WARN"
  | info => " INFO"
  | debug => "DEBUG"
  | trace => "TRACE"

/-- The number of the colour of a level on a terminal. -/
def Level.colour : Level → String
  | error => "31"
  | warn => "33"
  | info => "32"
  | debug => "34"
  | trace => "35"

/-- The event on one line, at the time `time`. In colours, the time and the equals signs are faint
and the names of details are slanted. -/
def Event.render (coloured : Bool) (time : String) (e : Event) : String :=
  let style (n s : String) : String := if coloured then Terminal.styled n s else s
  let detail (d : String × String) : String := " " ++ style "3" d.1 ++ style "2" "=" ++ d.2
  style "2" time ++ " " ++ style e.level.colour e.level.label ++ " " ++ e.message
    ++ String.join (e.details.map detail) ++ "\n"

end PLZero
