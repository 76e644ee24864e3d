import PLZero.Toml.Calendar
import PLZero.Toml.Document
import PLZero.Toml.Quotation

/-! Reading a TOML document: keys, values, and statements, each of which is entered into the
document before the next is read. So the flaw of a text is the first in it, whether it is a
statement that cannot be read or one that does not go with those before.

* `Reader.value` reads a value, `Reader.statement` one line.
* `Table.ofText` is the tree of a text, or its flaw and what was unread there. -/
namespace PLZero.Toml
set_option autoImplicit false

namespace Reader

/-! ## Keys -/

def bareKey : Reader String := String.ofList <$> takeWhile1 isBareKeyChar

def keyName : Reader String := do
  match ← peek with
  | some '"' => basicString
  | some '\'' => literalString
  | _ => bareKey

def key : Reader Key := do
  blanks
  let (name, e) ← located keyName
  blanks
  return ⟨name, e⟩

/-- The bound on the nesting of values and on the length of dotted keys. -/
def depthLimit : Nat := 80

/-- A dotted key: the keys on the way, and the last. -/
def path : Reader (List Key × Key) :=
  check (labelled .key (separated1 key (char '.'))) fun (first, others) =>
    let keys := first :: others
    if keys.length < depthLimit then .ok (keys.dropLast, others.getLastD first)
    else .error .tooDeep

/-! ## Values -/

/-- What is expected in place of a value that begins with a letter or a sign. -/
def expectingString {α : Type} (r : Reader α) : Reader α :=
  expecting [.mark "\"", .mark "'"] (labelled .string r)

def yes : Reader Bool := commit (literal ['t', 'r', 'u', 'e']) *> pure true

def no : Reader Bool := commit (literal ['f', 'a', 'l', 's', 'e']) *> pure false

/-- A value that begins with a sign or a digit. -/
def number : Reader Scalar :=
  (datetime *> pure .datetime) <|> (.float <$> float) <|> (.integer <$> integer)

/-- Values between brackets, separated by commas; the last may be followed by a comma. -/
def array (item : Reader Item) : Reader (List Item) := do
  char '['
  let items ← commit do
    if (← peek) == some ']' then return []
    let items ← separated (gap *> item <* gap) (char ',')
    if !items.isEmpty then
      let _ ← maybe (char ',')
    gap
    return items
  commit (expecting [.mark "]"] (labelled .array (char ']')))
  return items

/-- A key, an equals sign, a value, and what `tail` reads behind it. -/
def assignment (item : Reader Item) (tail : Reader Unit) : Reader (List Key × Key × Item) := do
  let (path, key) ← path
  let v ← commit do
    expecting [.mark ".", .mark "="] (char '=')
    blanks
    item <* tail
  return (path, key, v)

/-- The entries between braces: assignments on one line, separated by commas. -/
def inlineTable (item : Reader Item) : Reader (List (Key × Item)) := do
  char '\x7b'
  let assigns := separated (assignment item blanks) (char ',') <* blanks
  let entries ← commit (check assigns Table.inline)
  commit (expecting [.mark "\x7d"] (labelled .inlineTable (char '\x7d')))
  return entries

/-- A scalar with its extent. -/
def scalar (r : Reader Scalar) : Reader Item := do
  let (s, e) ← located r
  return .scalar s e

/-- A value, where arrays and inline tables hold the values that `inner` reads, or are too deep. -/
def valueOver (inner : Option (Reader Item)) : Reader Item := do
  let nested {α : Type} (r : Reader Item → Reader α) : Reader (α × Extent) :=
    match inner with
    | some item => located (r item)
    | none => commit (refuse (.ofCause .tooDeep))
  match ← peek with
  | none => fail
  | some c =>
    match c with
    | '"' | '\'' => scalar (.string <$> string)
    | '[' => do
      let (items, e) ← nested array
      return .array items e
    | '\x7b' => do
      let (entries, e) ← nested inlineTable
      return .table (.mk .inline entries (some e))
    | '_' => scalar (.integer <$> expecting [.leadingDigit] integer)
    | '.' => scalar (.float <$> expecting [.leadingDigit] float)
    | 't' => scalar (expectingString (.boolean <$> yes))
    | 'f' => scalar (expectingString (.boolean <$> no))
    | 'i' => scalar (expectingString (infinity *> pure (.float (.infinite false))))
    | 'n' => scalar (expectingString (notANumber *> pure (.float .nan)))
    | c => if c == '+' || c == '-' || c.isDigit then scalar number else expectingString fail

/-- A value in which arrays and inline tables nest at most `depth` deep. -/
def value : Nat → Reader Item
  | 0 => valueOver none
  | depth + 1 => valueOver (some (value depth))

/-! ## Statements -/

/-- A header between the brackets `opening` and `closing`. -/
def headerPath (opening closing : List Char) : Reader ((List Key × Key) × Extent) := located do
  literal opening
  let p ← commit path
  commit (expecting [.mark ".", .mark (String.ofList closing)] (literal closing))
  return p

def header : Reader Statement := do
  let ((path, key), e) ← headerPath ['['] [']']
  commit lineTail
  return .header path key e

def element : Reader Statement := do
  let ((path, key), e) ← headerPath ['[', '['] [']', ']']
  commit lineTail
  return .element path key e

/-- A header of either kind. A bracket is none if the text ends with it. -/
def anyHeader : Reader Statement := do
  match (← unread).rest with
  | ['['] => fail
  | '[' :: '[' :: _ => element
  | _ => header

def assign : Reader Statement := do
  let (path, key, v) ← assignment (value (depthLimit - 1)) lineTail
  return .assign path key v

/-- The document `d` with what one line says, which is at most one thing. -/
def statement (d : Draft) : Reader Draft := do
  let d ← match ← peek with
    | none => fail
    | some '#' => commit (comment *> lineEnd *> pure d)
    | some '\n' | some '\r' => newline *> pure d
    | some '[' => commit (labelled .tableHeader (check anyHeader d.add))
    | some _ => commit (check assign d.add)
  blanks
  return d

/-- All lines of a text, which may begin with a byte order mark. -/
def document : Reader Table := do
  let _ ← maybe (char '\ufeff')
  blanks
  let d ← foldMany .empty statement
  atEnd
  return d.root

end Reader

def Table.ofText (text : String) : Except (Flaw × Unread) Table :=
  match Reader.document ⟨text.toList, .start⟩ with
  | .ok t _ => .ok t
  | .error e u => .error (e.flaw, u)

end PLZero.Toml
