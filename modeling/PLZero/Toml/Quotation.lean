import PLZero.Toml.Numeral
import PLZero.Toml.Spacing

/-! How strings are written in a TOML document: in double quotes with escapes, or in single quotes
without. Three quotes open a string of several lines. -/
namespace PLZero.Toml.Reader
set_option autoImplicit false

/-! ## Escapes -/

/-- The character whose code point is written in `n` hexadecimal digits. -/
def codePoint (part : Part) (n : Nat) : Reader Char :=
  commit <| labelled part <| check (exactly n (isDigitOf 16)) fun ds =>
    let code := digitsValue 16 ds
    if code.isValidChar then .ok (Char.ofNat code) else .error .outOfRange

/-- The letters and signs that a backslash goes with. -/
def escapeHints : List Hint := ["b", "f", "n", "r", "t", "u", "U", "\\", "\""].map .mark

/-- Refuses the character `c` behind a backslash, which stands at `u`. -/
def refuseEscape {α : Type} (u : Unread) (c : Char) : Reader α := commit do
  if 0x80 ≤ c.toNat then goTo u
  expecting escapeHints (labelled .escape fail)

/-- A backslash and what it escapes. -/
def escaped : Reader Char := do
  char '\\'
  let u ← unread
  match ← next fun _ => true with
  | 'b' => return '\x08'
  | 't' => return '\t'
  | 'n' => return '\n'
  | 'f' => return '\x0c'
  | 'r' => return '\r'
  | '"' => return '"'
  | '\\' => return '\\'
  | 'u' => codePoint .shortCode 4
  | 'U' => codePoint .longCode 8
  | c => refuseEscape u c

/-! ## Strings on one line -/

def basicPiece : Reader (List Char) :=
  takeWhile1 (fun c => isPlain c && c != '"' && c != '\\') <|> (do return [← escaped])

/-- A string in double quotes. -/
def basicString : Reader String := do
  char '"'
  let pieces ← many basicPiece
  commit (labelled .basicString (char '"'))
  return String.ofList pieces.flatten

/-- A string in single quotes: no character is special. -/
def literalString : Reader String := labelled .literalString do
  char '\''
  let cs ← takeWhile fun c => isPlain c && c != '\''
  commit (char '\'')
  return String.ofList cs

/-! ## Strings of several lines -/

/-- A backslash at the end of a line: it and all emptiness that follows vanish. -/
def continuation : Reader (List Char) := do
  char '\\'
  blanks
  newline
  let _ ← many emptiness
  return []

/-- The end of a line in a string, which counts as one line feed. -/
def lineBreak : Reader (List Char) := newline *> pure ['\n']

def longBasicPiece : Reader (List Char) :=
  takeWhile1 (fun c => isPlain c && c != '"' && c != '\\')
  <|> continuation <|> (do return [← escaped]) <|> lineBreak

def longLiteralPiece : Reader (List Char) :=
  takeWhile1 (fun c => isPlain c && c != '\'') <|> lineBreak

/-- One or two of the quote `q`, with `after` behind them. -/
def quotesBefore (q : Char) (after : Reader Unit) : Reader (List Char) :=
  (literal [q, q] *> lookahead after *> pure [q, q]) <|> (char q *> lookahead after *> pure [q])

/-- Pieces, with one or two quotes between them or at the end. -/
def longBody (q : Char) (piece : Reader (List Char)) : Reader (List Char) := do
  let first ← many piece
  let others ← many do
    let qs ← quotesBefore q (piece *> pure ())
    return qs ++ (← many1 piece).flatten
  let last ← maybe (quotesBefore q (literal [q, q, q]))
  return first.flatten ++ others.flatten ++ last.getD []

/-- A string between triples of the quote `q`. A line end just after the opening is no part of
it. -/
def longString (part : Part) (q : Char) (piece : Reader (List Char)) : Reader String :=
  labelled part do
    literal [q, q, q]
    let _ ← maybe newline
    let cs ← commit (longBody q piece)
    commit (literal [q, q, q])
    return String.ofList cs

def string : Reader String :=
  longString .longBasicString '"' longBasicPiece <|> basicString
  <|> longString .longLiteralString '\'' longLiteralPiece <|> literalString

end PLZero.Toml.Reader
