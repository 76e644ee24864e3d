import PLZero.Lexeme.Alphabet
import PLZero.Text.Quoted
import PLZero.Toml.Complaint
import PLZero.Toml.Statement

/-! The settings of a run, and the configuration files that give them. A configuration is a TOML
document with at most two sections: `lexer` with the key `charset`, and `output` with the key
`spans`. What is missing keeps its default, and nothing else is allowed.

* `Settings.ofTable` reads a document; a misfit is the first piece, in document order, that does
  not belong.
* `Settings.ofText` reads a text.
* `Settings.render` is the configuration that gives the settings. -/
namespace PLZero
set_option autoImplicit false

structure Settings where
  /-- The characters of which names consist. -/
  alphabet : Alphabet
  /-- Whether the dump shows where tokens stand. -/
  spans : Bool
  deriving DecidableEq, Repr

instance : Inhabited Settings := ⟨⟨default, false⟩⟩

/-! ## Misfits -/

/-- What stands where something else was expected. -/
inductive Misfit.Found where
  | scalar (s : Toml.Scalar)
  | sequence
  | map
  deriving DecidableEq, Repr

inductive Misfit.Expected where
  | boolean
  | lexerSection
  | outputSection
  deriving DecidableEq, Repr

inductive Misfit.Cause where
  | unknownField (name : String) (known : List String)
  | unknownVariant (name : String)
  | notString
  | wrongType (found : Misfit.Found) (expected : Misfit.Expected)
  deriving DecidableEq, Repr

structure Misfit where
  cause : Misfit.Cause
  extent : Extent
  deriving DecidableEq, Repr

namespace Misfit

open Text (named)

/-- The known names, joined by `or`. -/
def alternatives (names : List String) : String :=
  String.intercalate " or " (names.map named)

def Found.text : Found → String
  | scalar (.string s) => "string " ++ Text.quoted s
  | scalar (.integer n) => "integer " ++ named n.repr
  | scalar (.float x) => "floating point " ++ named x.text
  | scalar (.boolean b) => "boolean " ++ named (if b then "true" else "false")
  | scalar .datetime => "map"
  | sequence => "sequence"
  | map => "map"

def Expected.text : Expected → String
  | boolean => "a boolean"
  | lexerSection => "struct LexerConfig"
  | outputSection => "struct OutputConfig"

def Cause.text : Cause → String
  | unknownField name known =>
    "unknown field " ++ named name ++ ", expected " ++ alternatives known
  | unknownVariant name =>
    "unknown variant " ++ named name ++ ", expected " ++ alternatives (Alphabet.all.map (·.name))
  | notString => "wanted string or table"
  | wrongType found expected => "invalid type: " ++ found.text ++ ", expected " ++ expected.text

end Misfit

/-- What a value is found to be. -/
def Toml.Item.found : Toml.Item → Misfit.Found
  | .scalar s _ => .scalar s
  | .array _ _ => .sequence
  | .table _ => .map
  | .tables _ => .sequence

namespace Settings

open Toml (Key Item Table)

/-! ## From documents -/

/-- The extent of a value, or of its key if the value has none of its own. -/
def extentOf (k : Key) (v : Item) : Extent := v.extent.getD k.extent

def alphabetOf (k : Key) : Item → Except Misfit Alphabet
  | .scalar (.string s) e =>
    match Alphabet.ofName? s with
    | some a => .ok a
    | none => .error ⟨.unknownVariant s, e⟩
  | v => .error ⟨.notString, extentOf k v⟩

def flagOf (k : Key) : Item → Except Misfit Bool
  | .scalar (.boolean b) _ => .ok b
  | v => .error ⟨.wrongType v.found .boolean, extentOf k v⟩

/-- The key under which a date or time keeps its text, when it is looked into like a table. -/
def datetimeKey : String := "$__toml_private_datetime"

/-- The field of a section that has only one, named `field` and read by `read`. In place of a table
an array may stand, whose first element is the field. -/
def sectionOf {α : Type} (expected : Misfit.Expected) (field : String)
    (read : Key → Item → Except Misfit α) (absent : α) (k : Key) : Item → Except Misfit α
  | .table t =>
    t.entries.foldlM (fun _ e =>
      if e.1.name = field then read e.1 e.2
      else .error ⟨.unknownField e.1.name [field], e.1.extent⟩) absent
  | .array [] _ => .ok absent
  | .array (v :: _) _ => read k v
  | .tables [] => .ok absent
  | .tables (t :: _) => read k (.table t)
  | .scalar .datetime e => .error ⟨.unknownField datetimeKey [field], e⟩
  | v => .error ⟨.wrongType v.found expected, extentOf k v⟩

def lexerSection (k : Key) (v : Item) : Except Misfit Alphabet :=
  sectionOf .lexerSection "charset" alphabetOf default k v

def outputSection (k : Key) (v : Item) : Except Misfit Bool :=
  sectionOf .outputSection "spans" flagOf false k v

/-- The settings `s` changed by one entry of a document. -/
def addEntry (s : Settings) (e : Key × Item) : Except Misfit Settings :=
  if e.1.name = "lexer" then (lexerSection e.1 e.2).map fun a => { s with alphabet := a }
  else if e.1.name = "output" then (outputSection e.1 e.2).map fun b => { s with spans := b }
  else .error ⟨.unknownField e.1.name ["lexer", "output"], e.1.extent⟩

def ofTable (t : Table) : Except Misfit Settings := t.entries.foldlM addEntry default

/-! ## From texts -/

/-- Why a text gives no settings. -/
inductive Rejection where
  | notToml (flaw : Toml.Flaw) (extent : Extent) (text : String)
  | misfit (m : Misfit) (text : String)
  deriving DecidableEq, Repr

def Rejection.text : Rejection → String
  | notToml flaw extent text => Toml.complaint text extent flaw.text
  | misfit m text => Toml.complaint text m.extent m.cause.text

def ofText (text : String) : Except Rejection Settings :=
  match Table.ofText text with
  | .error (flaw, stop) => .error (.notToml flaw (stop.extentIn text) text)
  | .ok t =>
    match ofTable t with
    | .ok s => .ok s
    | .error m => .error (.misfit m text)

/-! ## Written forms -/

def spansText (s : Settings) : String := if s.spans then "true" else "false"

def render (s : Settings) : String :=
  "[lexer]\ncharset = \"" ++ s.alphabet.name ++ "\"\n\n[output]\nspans = " ++ s.spansText ++ "\n"

/-- The settings on one line, as the log shows them. -/
def summary (s : Settings) : String :=
  let charset := match s.alphabet with
    | .unicode => "Unicode"
    | .ascii => "Ascii"
  "Config \x7b lexer: LexerConfig \x7b charset: " ++ charset
    ++ " \x7d, output: OutputConfig \x7b spans: " ++ s.spansText ++ " \x7d \x7d"

end Settings

end PLZero
