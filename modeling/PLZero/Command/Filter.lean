import PLZero.Command.Log
import PLZero.Number.Decimal
import PLZero.Pattern.Reader
import PLZero.Text.Letter
import PLZero.Text.Numeral
import PLZero.Text.Slice
import PLZero.Text.Space

/-! Which events a log shows. A filter is a list of directives, and the one that describes an event
most closely decides about it.

* `Directive.parse?` reads a directive such as `area[span{field=value}]=level`, of which only the
  area or the level is needed.
* `Filter.parse?` reads directives separated by commas.
* `Filter.shows` tells whether an event is shown. -/
namespace PLZero
set_option autoImplicit false

open Text (bytes slice? isLetter isNumeral)

/-! ## Ranks -/

/-- The names of ranks; rank zero shows nothing, and each rank shows what those before it show. -/
def rankNames : List (String × Nat) :=
  [("off", 0), ("error", 1), ("warn", 2), ("info", 3), ("debug", 4), ("trace", 5)]

/-- The rank with a number, which may have a plus sign. -/
def numberedRank? (cs : List Char) : Option Nat :=
  let ds := if cs.head? = some '+' then cs.drop 1 else cs
  let n := ds.foldl (fun n c => 10 * n + (c.toNat - '0'.toNat)) 0
  if !ds.isEmpty && ds.all Char.isDigit && decide (n ≤ Level.trace.rank) then some n else none

/-- Ranks are given by number, or by name in upper or lower case. -/
def rank? (s : String) : Option Nat :=
  numberedRank? s.toList
  <|> (rankNames.find? fun e => e.1.toList == s.toList.map Char.toLower).map (·.2)

/-! ## Directives -/

/-- A field that events must have, possibly with a value that is a certain number or is described
by a pattern. -/
structure Requirement where
  name : String
  value : Option String
  deriving DecidableEq, Repr

/-- Shows events whose level has at most the rank `rank`. They may be narrowed down to the areas
that begin with `area`, to the inside of the span `span`, and to events with a field. -/
structure Directive where
  area : Option String
  span : Option String
  field : Option Requirement
  rank : Nat
  deriving DecidableEq, Repr

abbrev Filter := List Directive

namespace Requirement

/-- A name, or a name and a value with an equals sign between. From a second one on, nothing
counts. -/
def parse? (s : String) : Option Requirement :=
  match s.toList.splitOn '=' with
  | [] => none
  | [name] => some ⟨String.ofList name, none⟩
  | name :: value :: _ =>
    let value := String.ofList value
    if Decimal.isNumber value || Pattern.isPattern value then some ⟨String.ofList name, some value⟩
    else none

end Requirement

namespace Directive

/-- A directive about all events up to a rank. -/
def ofRank (n : Nat) : Directive := ⟨none, none, none, n⟩

/-! ### Written directives

The signs of a directive are found in the text without the white space at its ends, but what stands
between them is taken at the same bytes of the text as it is given. -/

/-- Whether a directive that does not begin with a bracket may begin with `c`. -/
def startsArea (c : Char) : Bool :=
  c == '-' || c == ':' || c == '_' || isLetter c || isNumeral c

/-- The rank behind an equals sign at byte `i`, where the signs that are left are `rest`. If there
is none, all is shown. -/
def rankAt? (given : List Char) (i : Nat) : List Char → Option Nat
  | [] => some Level.trace.rank
  | '=' :: _ => do
    let level ← slice? given (i + 1) (bytes given)
    if level.isEmpty then some Level.trace.rank else rank? (String.ofList level)
  | _ => none

/-- The span and the field in brackets, then the rank, where the opening bracket stands before byte
`i` and `rest` is what follows it. -/
def parseBrackets? (area : Option String) (given : List Char) (i : Nat) (rest : List Char) :
    Option Directive := do
  let isName (c : Char) : Bool := c != ']' && c != '\x7b'
  let j := i + bytes (rest.takeWhile isName)
  let span := String.ofList (← slice? given i j)
  match rest.dropWhile isName with
  | ']' :: rest => return ⟨area, some span, none, ← rankAt? given (j + 1) rest⟩
  | '\x7b' :: rest =>
    let k := j + 1 + bytes (rest.takeWhile (· != '\x7d'))
    let field := String.ofList (← slice? given (j + 1) k)
    let span := if span.isEmpty then none else some span
    match rest.dropWhile (· != '\x7d') with
    | '\x7d' :: ']' :: rest =>
      if field.isEmpty then none
      else return ⟨area, span, some (← Requirement.parse? field), ← rankAt? given (k + 2) rest⟩
    | _ => none
  | _ => none

/-- A text without signs is a rank, or else an area. -/
def parse? (s : String) : Option Directive := do
  let given := s.toList
  let read := Text.trim given
  let isArea (c : Char) : Bool := c != '=' && c != '['
  let i := bytes (read.takeWhile isArea)
  let area? := (slice? given 0 i).map String.ofList
  match read.head? with
  | none => none
  | some '[' => parseBrackets? none given 1 (read.drop 1)
  | some c =>
    if !startsArea c then none
    else
      match read.dropWhile isArea with
      | [] =>
        match rank? s with
        | some n => return ofRank n
        | none => return ⟨some s, none, none, Level.trace.rank⟩
      | '[' :: rest => parseBrackets? (some (← area?)) given (i + 1) rest
      | rest => return ⟨some (← area?), none, none, ← rankAt? given i rest⟩

/-! ### Events -/

/-- No event is inside a span, and the values of fields are not looked at. -/
def covers (d : Directive) (e : Event) : Bool :=
  (d.area.all fun a => a.toList.isPrefixOf e.area.toList) && d.span.isNone
    && d.field.all fun f => f.value.isNone && e.fields.contains f.name

/-- How closely the area is named. -/
def areaSize (d : Directive) : Nat :=
  match d.area with
  | none => 0
  | some a => a.utf8ByteSize + 1

def fieldName (d : Directive) : String :=
  match d.field with
  | none => ""
  | some f => f.name

/-- Whether `d` describes an event more closely than `b`, where both cover it. Fields count only
between directives about the same area; any field is closer than none, and a later name than an
earlier. -/
def closer (d b : Directive) : Bool :=
  decide (b.areaSize < d.areaSize)
    || (b.areaSize == d.areaSize && decide (b.fieldName < d.fieldName))

end Directive

/-! ## Filters -/

namespace Filter

/-- Directives separated by commas. No directive at all shows errors only. -/
def parse? (s : String) : Option Filter :=
  let parts := (s.toList.splitOn ',').filter (· != [])
  match parts.mapM fun cs => Directive.parse? (String.ofList cs) with
  | some [] => some [.ofRank Level.error.rank]
  | r => r

/-- The closest of the directives that cover an event decides; of two equally close, the later. -/
def decisive? (f : Filter) (e : Event) : Option Directive :=
  (f.filter (·.covers e)).foldl
    (fun best d =>
      match best with
      | some b => if b.closer d then some b else some d
      | none => some d) none

def shows (f : Filter) (e : Event) : Bool :=
  match f.decisive? e with
  | some d => decide (e.level.rank ≤ d.rank)
  | none => false

/-- The filter of a run that says what it does. -/
def verbose : Filter := [.ofRank Level.debug.rank]

/-- The filter of a run that asks for nothing else: warnings and errors. -/
def standard : Filter := [.ofRank Level.warn.rank]

/-- The filter in force: a verbose run is not filtered otherwise, and a filter that cannot be read
counts as none. -/
def ofRun (isVerbose : Bool) (asked : Option String) : Filter :=
  if isVerbose then verbose else ((asked.bind parse?).getD standard)

end Filter

end PLZero
