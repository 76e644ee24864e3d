import PLZero.Text.Position
import PLZero.Toml.Scalar

/-! The tree of a TOML document. Every key and value knows its extent in the text; keys keep the
order in which the document introduces them.

* `Statement` is what one line of a document says.
* `Draft.add` enters a statement into a document, unless it defines something twice or adds to
  something closed.
* `Table.inline` gathers assignments into a table in braces, under the same rules. -/
namespace PLZero.Toml
set_option autoImplicit false

structure Key where
  name : String
  extent : Extent
  deriving DecidableEq, Repr

/-- How a table came to be, which decides what may still be added to it. -/
inductive Origin where
  /-- It has a header of its own, or is the document. -/
  | header
  /-- It was named on the way to another header, and may still get a header. -/
  | path
  /-- It was named in a dotted key. -/
  | dotted
  /-- It was written in braces, and is closed. -/
  | inline
  deriving DecidableEq, Repr

mutual

inductive Item where
  | scalar (s : Scalar) (extent : Extent)
  | array (items : List Item) (extent : Extent)
  | table (t : Table)
  /-- An array of tables, each with a header. -/
  | tables (ts : List Table)

/-- A table without a header or braces of its own has no extent. -/
inductive Table where
  | mk (origin : Origin) (entries : List (Key × Item)) (extent : Option Extent)

end

namespace Table

def origin : Table → Origin
  | mk o _ _ => o

def entries : Table → List (Key × Item)
  | mk _ es _ => es

def extent : Table → Option Extent
  | mk _ _ e => e

def empty (o : Origin) (e : Option Extent) : Table := mk o [] e

end Table

namespace Item

/-- An array of tables extends from the first of them to the last. -/
def extent : Item → Option Extent
  | scalar _ e => some e
  | array _ e => some e
  | table t => t.extent
  | tables ts => do return (← (← ts.head?).extent).upTo (← (← ts.getLast?).extent)

/-- The shape of an item that is no table with entries to come. -/
def shape : Item → Shape
  | scalar s _ => s.shape
  | array _ _ => .array
  | table _ => .inlineTable
  | tables _ => .array

end Item

inductive Statement where
  /-- `path.key = value`. -/
  | assign (path : List Key) (key : Key) (value : Item)
  /-- `[path.key]`. -/
  | header (path : List Key) (key : Key) (extent : Extent)
  /-- `[[path.key]]`. -/
  | element (path : List Key) (key : Key) (extent : Extent)

/-! ## Keys -/

def names (path : List Key) : List String := path.map (·.name)

def isBareKeyChar (c : Char) : Bool := c.isAlphanum || c == '_' || c == '-'

/-- The spelling of a character in double quotes. -/
def escapeKeyChar (c : Char) : List Char :=
  match c with
  | '\x08' => ['\\', 'b']
  | '\t' => ['\\', 't']
  | '\n' => ['\\', 'n']
  | '\x0c' => ['\\', 'f']
  | '\r' => ['\\', 'r']
  | '"' => ['\\', '"']
  | '\\' => ['\\', '\\']
  | c =>
    if c.toNat < 0x20 ∨ c.toNat = 0x7F then
      let code := (Nat.toDigits 16 c.toNat).map Char.toUpper
      ['\\', 'u'] ++ List.replicate (4 - code.length) '0' ++ code
    else [c]

/-- The name as it would be written as a key: bare if it can be, else in double quotes if that
takes no escapes, else in single quotes if it can be. -/
def Key.written (k : Key) : String :=
  let cs := k.name.toList
  let isControl (c : Char) : Bool := c != '\t' && (c.toNat < 0x20 || c.toNat == 0x7F)
  let controls := cs.any isControl
  if !cs.isEmpty && cs.all isBareKeyChar then k.name
  else if !controls && !cs.contains '\'' && (cs.contains '"' || cs.contains '\\') then
    "'" ++ k.name ++ "'"
  else "\"" ++ String.ofList (cs.flatMap escapeKeyChar) ++ "\""

/-! ## Entries -/

open Flaw (Cause)

/-- The entries with the value of `key` replaced by what `f` makes of it; a new key goes to the
end, an old one keeps its place and spelling. -/
def alter (key : Key) (f : Option Item → Except Cause Item) :
    List (Key × Item) → Except Cause (List (Key × Item))
  | [] => do return [(key, ← f none)]
  | (k, v) :: es => do
    if k.name = key.name then return (k, ← f (some v)) :: es
    else return (k, v) :: (← alter key f es)

def lookup? (name : String) (es : List (Key × Item)) : Option Item :=
  (es.find? fun e => e.1.name == name).map (·.2)

def dropKey (name : String) (es : List (Key × Item)) : List (Key × Item) :=
  es.filter fun e => e.1.name != name

/-- Replaces the last table of a list. -/
def alterLast (f : Table → Except Cause Table) : List Table → Except Cause (List Table)
  | [] => .ok []
  | [t] => do return [← f t]
  | t :: ts => do return t :: (← alterLast f ts)

/-! ## Paths -/

/-- What a path is part of. -/
inductive Way where
  | header
  /-- An assignment on a line of its own. -/
  | line
  /-- An assignment in braces. -/
  | braces
  deriving DecidableEq, Repr

/-- How the tables come to be that are missing on the way. -/
def Way.origin : Way → Origin
  | header => .path
  | line => .dotted
  | braces => .dotted

/-- Why a path that leads to a table through the keys `trail`, the last of them `key`, does not
lead on: tables in braces are closed, and dotted keys do not enter a table with a header. -/
def Way.obstacle? (w : Way) (trail : List Key) (key : Key) (o : Origin) : Option Cause :=
  match w, o with
  | .braces, .inline => some (.duplicateKey key.name none)
  | _, .inline => some (.pathThrough (names trail) .inlineTable)
  | .line, .header => some (.duplicateKey key.name none)
  | _, _ => none

namespace Table

def alter (t : Table) (key : Key) (f : Option Item → Except Cause Item) : Except Cause Table := do
  return mk t.origin (← Toml.alter key f t.entries) t.extent

/-- Applies `f` to the table at `path` below `t`, where `trail` leads to `t`. Tables that are
missing on the way are made, and of an array of tables the last one is meant. -/
def within (w : Way) (f : Table → Except Cause Table) (trail : List Key) :
    List Key → Table → Except Cause Table
  | [], t => f t
  | k :: path, t =>
    let trail := trail ++ [k]
    t.alter k fun
      | none => .table <$> within w f trail path (empty w.origin none)
      | some (.table u) =>
        match w.obstacle? trail k u.origin with
        | some c => .error c
        | none => .table <$> within w f trail path u
      | some (.tables us) => .tables <$> alterLast (within w f trail path) us
      | some v => .error (.pathThrough (names trail) v.shape)

/-- Enters `path.key = value`. The key must be new, and a path must lead to a table that dotted
keys made. The path of the table itself is `home`, where it is known. -/
def assign (w : Way) (home : Option (List String)) (t : Table) (path : List Key) (key : Key)
    (value : Item) : Except Cause Table :=
  within w (fun u =>
    if path ≠ [] ∧ u.origin ≠ .dotted then .error (.duplicateKey key.name none)
    else
      u.alter key fun
        | none => .ok value
        | some _ => .error (.duplicateKey key.name home)) [] path t

/-- The table with its extent drawn out to the end of `v`. -/
def reach (t : Table) (v : Item) : Table :=
  match t.extent, v.extent with
  | some e, some f => mk t.origin t.entries (some (e.upTo f))
  | _, _ => t

/-- The table in braces that the assignments make up. -/
def inline (assigns : List (List Key × Key × Item)) : Except Cause (List (Key × Item)) := do
  let t ← assigns.foldlM (fun t a => t.assign .braces none a.1 a.2.1 a.2.2) (empty .header none)
  return t.entries

/-- Opens the table of a header of the extent `e` in `parent`. It takes its place at the end. A
table may be opened if it was only named on the way to other headers; it keeps what it holds. -/
def addHeader (path : List Key) (key : Key) (e : Extent) (parent : Table) : Except Cause Table :=
  let opened (es : List (Key × Item)) : Table :=
    mk parent.origin (dropKey key.name parent.entries ++ [(key, .table (mk .header es (some e)))])
      parent.extent
  match lookup? key.name parent.entries with
  | none => .ok (opened [])
  | some (.table t) =>
    if t.origin = .path then .ok (opened t.entries)
    else .error (.duplicateKey key.written (some (names path)))
  | some _ => .error (.duplicateKey key.written (some (names path)))

/-- Appends a table of the extent `e` to an array of tables in `parent`. -/
def addElement (path : List Key) (key : Key) (e : Extent) (parent : Table) : Except Cause Table :=
  let new := empty .header (some e)
  parent.alter key fun
    | none => .ok (.tables [new])
    | some (.tables ts) => .ok (.tables (ts ++ [new]))
    | some _ => .error (.duplicateKey key.written (some (names path)))

end Table

/-! ## Documents -/

/-- A document as far as it has been read, and the path of the table that assignments enter. -/
structure Draft where
  root : Table
  home : List Key

namespace Draft

def empty : Draft := ⟨.empty .header none, []⟩

def add (d : Draft) : Statement → Except Cause Draft
  | .assign path key value => do
    let enter (t : Table) : Except Cause Table := do
      return (← t.assign .line (some (names d.home)) path key value).reach value
    return { d with root := ← d.root.within .header enter [] d.home }
  | .header path key e => do
    return ⟨← d.root.within .header (Table.addHeader path key e) [] path, path ++ [key]⟩
  | .element path key e => do
    return ⟨← d.root.within .header (Table.addElement path key e) [] path, path ++ [key]⟩

end Draft

end PLZero.Toml
