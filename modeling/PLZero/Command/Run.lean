import PLZero.Command.Arguments
import PLZero.Command.Files
import PLZero.Command.Filter
import PLZero.Command.Help
import PLZero.Failure

/-! Running the command. A run loads the settings, reads the input and dumps its tokens; it ends
with the whole dump or with the first failure, and never with a part of the dump.

* `Invocation.run` is the outcome: the events on the way, and the dump or the failure.
* `runCommand` is all that the command does: exit code, output and error output. -/
namespace PLZero
set_option autoImplicit false

/-- How a run reads a file by its path. -/
abbrev ReadFile := String → Except ReadFailure String

structure Outcome where
  events : List Event
  result : Except Failure String

namespace Invocation

/-- The settings of the configuration file, or the default if none is named. -/
def loadSettings (i : Invocation) (read : ReadFile) : Except Failure Settings :=
  match i.config with
  | none => .ok default
  | some path =>
    match read path with
    | .error r => .error (.configuration (Failure.readMessage path ++ ": " ++ r.reason))
    | .ok text => (Settings.ofText text).mapError .settings

/-- The settings `s`, changed by what the command line says. -/
def override (i : Invocation) (s : Settings) : Settings :=
  ⟨i.alphabet.getD s.alphabet, i.spans || s.spans⟩

def loadListing (i : Invocation) (read : ReadFile) : Except Failure Listing :=
  match read i.input with
  | .error r => .error (.input i.input r.reason)
  | .ok content => .ok ⟨i.input, content⟩

end Invocation

/-- What happens while a listing is tokenized. -/
def Listing.events (l : Listing) (a : Alphabet) : List Event :=
  (Lexer.ofString l.content a).yields.map (fun
    | .ok t => .token t.kind t.start
    | .error f => .fault f)
  ++ match l.tokens a with
    | .ok ts => [.tokenized l.name ts.length]
    | .error _ => []

def Invocation.run (i : Invocation) (read : ReadFile) : Outcome :=
  match i.loadSettings read with
  | .error f => ⟨[], .error f⟩
  | .ok s =>
    let s := i.override s
    match i.loadListing read with
    | .error f => ⟨[.configured s], .error f⟩
    | .ok l => ⟨.configured s :: l.events s.alphabet, (l.dump s).mapError .rejected⟩

/-! ## What is seen of a run -/

structure Response where
  code : Nat
  output : String
  errors : String
  deriving DecidableEq, Repr

namespace Outcome

/-- The events that the filter shows, each on its line. -/
def logText (o : Outcome) (f : Filter) (coloured : Bool) (time : String) : String :=
  String.join ((o.events.filter f.shows).map (Event.render coloured time))

def response (o : Outcome) (log : String) : Response :=
  match o.result with
  | .ok dump => ⟨0, dump, log⟩
  | .error f => ⟨1, "", log ++ f.console⟩

end Outcome

/-- The response to an invocation, where `filter` is the log filter that the environment asks for
and `time` the time of every event. -/
def Invocation.respond (i : Invocation) (filter : Option String) (read : ReadFile) (time : String) :
    Response :=
  let o := i.run read
  o.response (o.logText (.ofRun i.verbose filter) (!i.noColour) time)

def runCommand (args : List String) (env : Environment) (read : ReadFile) (time : String) :
    Response :=
  match Request.ofArguments args env with
  | .misuse => ⟨2, "", Help.misuse⟩
  | .help true => ⟨0, Help.long env, ""⟩
  | .help false => ⟨0, Help.short env, ""⟩
  | .version => ⟨0, Help.version, ""⟩
  | .run i => i.respond env.log read time

end PLZero
