import PLZero.Command.Arguments
import PLZero.Command.Terminal
import PLZero.Text.Layout

/-! The texts about the command itself: usage, help in a short and a long form, and the version.
Help shows the values that the environment gives at the moment. -/
namespace PLZero.Help
set_option autoImplicit false

open Text (row)

def version : String := "pl0c 0.1.0\n"

def usage : String := "Usage: pl0c [OPTIONS] <INPUT>\n"

/-- What a command line that does not fit is answered with. -/
def misuse : String :=
  "error: the arguments do not fit\n\n" ++ usage ++ "\nFor more information, try '--help'.\n"

/-! ## Switches -/

/-- What help says about a switch. -/
structure Entry where
  /-- The spellings of the switch, the short one first. -/
  switches : List String
  /-- The name of its value, or nothing. -/
  value : String
  short : String
  long : String
  /-- Further lines of the long form. -/
  details : String

/-- A variable of the environment with its value, empty if it has none. -/
def variableNote (name : String) (value : Option String) : String :=
  "[env: " ++ name ++ "=" ++ value.getD "" ++ "]"

/-- The switch has the same description in both forms, with a note of the variable in its place. -/
def Entry.ofVariable (switches : List String) (value about note : String) : Entry :=
  ⟨switches, value, about ++ " " ++ note, about ++ "\n\n" ++ note, ""⟩

def alphabetDetails : String := "
          Possible values:
          - unicode: Unicode letters and ASCII digits
          - ascii:   ASCII letters, digits and underscore
"

def entries (env : Environment) : List Entry := [
  ⟨["--charset"], " <CHARSET>",
    "Characters identifiers are built from [possible values: unicode, ascii]",
    "Characters identifiers are built from", alphabetDetails⟩,
  ⟨["--spans"], "", "Prefix each token with its source range",
    "Prefix each token with its source range", ""⟩,
  .ofVariable ["-c", "--config"] " <CONFIG>" "Path to configuration file"
    (variableNote "PL0C_CONFIG" env.config),
  .ofVariable ["-v", "--verbose"] "" "Enable verbose output"
    (variableNote "PL0C_VERBOSE" env.verbose),
  ⟨["--no-color"], "", "Disable color output", "Disable color output", ""⟩,
  ⟨["-h", "--help"], "", "Print help (see more with '--help')",
    "Print help (see a summary with '-h')", ""⟩,
  ⟨["-V", "--version"], "", "Print version", "Print version", ""⟩]

namespace Entry

/-- The switch as it is written, with its spellings in the given style. -/
def label (e : Entry) (style : String → String) : String :=
  (if e.switches.length = 1 then "      " else "  ")
    ++ String.intercalate ", " (e.switches.map style) ++ e.value

/-- The label for a terminal, where the spellings are bold. -/
def boldLabel (e : Entry) : String := e.label (Terminal.styled "1")

/-- The text `s` with every line but the first behind `n` blanks. -/
def hanging (n : Nat) (s : String) : String :=
  String.intercalate ("\n" ++ row n ' ') ((s.toList.splitOn '\n').map String.ofList)

/-- The entry on one line, with the description in column 27. -/
def shortForm (e : Entry) : String :=
  e.boldLabel ++ row (27 - (e.label id).length) ' ' ++ hanging 27 e.short ++ "\n"

/-- The entry with its description below it, behind ten blanks. -/
def longForm (e : Entry) : String :=
  e.boldLabel ++ "\n" ++ row 10 ' ' ++ hanging 10 e.long ++ "\n" ++ e.details

end Entry

/-! ## Help -/

/-- The beginning of help, where `gap` stands between the input and its description. -/
def head (gap : String) : String :=
  "Tokenize PL/0 source files\n\n" ++ usage ++ "\nArguments:\n  <INPUT>" ++ gap
    ++ "Source file to tokenize\n\nOptions:\n"

def short (env : Environment) : String :=
  Terminal.plain (head "  " ++ String.join ((entries env).map Entry.shortForm))

def long (env : Environment) : String :=
  Terminal.plain
    (head ("\n" ++ row 10 ' ') ++ String.intercalate "\n" ((entries env).map Entry.longForm))

end PLZero.Help
