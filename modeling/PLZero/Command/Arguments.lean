import PLZero.Lexeme.Alphabet

/-! The command line. Arguments are read from left to right; the first that asks for help or for
the version is answered, and the first that does not fit ends the reading.

* `Invocation` is a command line that names an input.
* `Request` is what a command line asks for.
* `Request.ofArguments` reads the arguments and the environment. -/
namespace PLZero
set_option autoImplicit false

structure Invocation where
  input : String
  alphabet : Option Alphabet
  spans : Bool
  config : Option String
  verbose : Bool
  noColour : Bool
  deriving DecidableEq, Repr

/-- The variables of the environment that stand in for arguments, and the log filter. -/
structure Environment where
  config : Option String
  verbose : Option String
  log : Option String
  deriving DecidableEq, Repr

inductive Request where
  | misuse
  | help (long : Bool)
  | version
  | run (i : Invocation)
  deriving DecidableEq, Repr

/-! ## Switches -/

inductive Flag where
  | spans
  | verbose
  | noColour
  | help (long : Bool)
  | version
  deriving DecidableEq, Repr

inductive Setting where
  | alphabet
  | config
  deriving DecidableEq, Repr

/-- A flag stands alone, a setting takes a value. -/
inductive Switch where
  | flag (f : Flag)
  | setting (s : Setting)
  deriving DecidableEq, Repr

def Switch.ofName? : String → Option Switch
  | "charset" => some (.setting .alphabet)
  | "config" => some (.setting .config)
  | "spans" => some (.flag .spans)
  | "verbose" => some (.flag .verbose)
  | "no-color" => some (.flag .noColour)
  | "help" => some (.flag (.help true))
  | "version" => some (.flag .version)
  | _ => none

def Switch.ofLetter? : Char → Option Switch
  | 'c' => some (.setting .config)
  | 'v' => some (.flag .verbose)
  | 'h' => some (.flag (.help false))
  | 'V' => some (.flag .version)
  | _ => none

/-! ## Reading -/

/-- What has been given so far. -/
structure Draft where
  input : Option String
  alphabet : Option Alphabet
  spans : Bool
  config : Option String
  verbose : Bool
  noColour : Bool
  deriving DecidableEq, Repr

/-- A reading that stops early knows its request. -/
abbrev Reading := Except Request

namespace Draft

def empty : Draft := ⟨none, none, false, none, false, false⟩

/-- The draft `d`, if `c` holds. -/
def ensure (c : Bool) (d : Draft) : Reading Draft := if c then .ok d else .error .misuse

/-- There is one input, and its path is not empty. -/
def setInput (d : Draft) (s : String) : Reading Draft :=
  ensure (d.input.isNone && !s.isEmpty) { d with input := some s }

/-- A flag is given at most once. -/
def setFlag (d : Draft) : Flag → Reading Draft
  | .spans => ensure (!d.spans) { d with spans := true }
  | .verbose => ensure (!d.verbose) { d with verbose := true }
  | .noColour => ensure (!d.noColour) { d with noColour := true }
  | .help long => .error (.help long)
  | .version => .error .version

/-- A setting is given at most once, with a value that it admits. -/
def setSetting (d : Draft) (s : Setting) (value : String) : Reading Draft :=
  match s with
  | .alphabet =>
    let a := Alphabet.ofName? value
    ensure (d.alphabet.isNone && a.isSome) { d with alphabet := a }
  | .config => ensure (d.config.isNone && !value.isEmpty) { d with config := some value }

/-- A row of letters behind one dash. A setting takes the rest of the row as its value, without an
equals sign at its front; at the end of the row it waits for the next argument. -/
def readLetters (d : Draft) : List Char → Reading (Draft × Option Setting)
  | [] => .ok (d, none)
  | c :: cs =>
    match Switch.ofLetter? c with
    | none => .error .misuse
    | some (.flag f) => do readLetters (← d.setFlag f) cs
    | some (.setting s) =>
      match cs with
      | [] => .ok (d, some s)
      | '=' :: value => do return (← d.setSetting s (String.ofList value), none)
      | value => do return (← d.setSetting s (String.ofList value), none)

/-- A name behind two dashes, possibly with a value behind an equals sign. -/
def readName (d : Draft) (cs : List Char) : Reading (Draft × Option Setting) :=
  let name := String.ofList (cs.takeWhile (· != '='))
  match Switch.ofName? name, cs.dropWhile (· != '=') with
  | some (.flag f), [] => do return (← d.setFlag f, none)
  | some (.setting s), [] => .ok (d, some s)
  | some (.setting s), _ :: value => do return (← d.setSetting s (String.ofList value), none)
  | _, _ => .error .misuse

/-- Whether an argument is a switch, and so no value for the one before it. -/
def isSwitch (s : String) : Bool :=
  match s.toList with
  | '-' :: _ :: _ => true
  | _ => false

/-- Reads arguments; `waiting` is the setting whose value comes next. Two dashes end the
switches. -/
def read (d : Draft) (waiting : Option Setting) : List String → Reading Draft
  | [] => ensure waiting.isNone d
  | arg :: args =>
    match waiting with
    | some s =>
      if isSwitch arg then .error .misuse else do read (← d.setSetting s arg) none args
    | none =>
      match arg.toList with
      | ['-', '-'] => args.foldlM setInput d
      | '-' :: '-' :: name => do
        let (d, waiting) ← d.readName name
        read d waiting args
      | '-' :: c :: cs => do
        let (d, waiting) ← d.readLetters (c :: cs)
        read d waiting args
      | _ => do read (← d.setInput arg) none args

/-! ## The environment -/

/-- The configuration path: from the arguments, or else from the environment, where it must not be
empty either. -/
def configPath (d : Draft) (env : Environment) : Reading (Option String) :=
  match d.config, env.config with
  | some path, _ => .ok (some path)
  | none, some "" => .error .misuse
  | none, path => .ok path

/-- Whether to be verbose; the environment is asked only if the arguments do not tell. -/
def verbosity (d : Draft) (env : Environment) : Reading Bool :=
  if d.verbose then .ok true
  else
    match env.verbose with
    | none => .ok false
    | some "true" => .ok true
    | some "false" => .ok false
    | some _ => .error .misuse

/-- The invocation that a draft amounts to; an input is needed. -/
def finish (d : Draft) (env : Environment) : Reading Invocation := do
  let config ← d.configPath env
  let verbose ← d.verbosity env
  match d.input with
  | none => .error .misuse
  | some input => .ok ⟨input, d.alphabet, d.spans, config, verbose, d.noColour⟩

end Draft

def Request.ofArguments (args : List String) (env : Environment) : Request :=
  match (Draft.empty.read none args) >>= (·.finish env) with
  | .ok i => .run i
  | .error r => r

end PLZero
