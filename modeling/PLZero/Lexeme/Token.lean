import PLZero.Text.Position
import PLZero.Text.Quoted

/-! Tokens of PL/0: what a lexeme is, the value it carries, and where it stands.

* `Keyword` and `Punctuation` hold the fixed lexemes with their spellings.
* `Token.make?` builds a token and refuses one that ends before it starts.
* `Token.text` shows a token as its kind followed by its value in parentheses; the end of the text
  carries no value and shows as its kind alone. -/
namespace PLZero
set_option autoImplicit false

/-! ## Fixed lexemes -/

inductive Keyword where
  | blockBegin
  | blockEnd
  | varDecl
  | constDecl
  | print
  deriving DecidableEq, Repr

namespace Keyword

def all : List Keyword := [blockBegin, blockEnd, varDecl, constDecl, print]

def spelling : Keyword → String
  | blockBegin => "begin"
  | blockEnd => "end"
  | varDecl => "var"
  | constDecl => "const"
  | print => "print"

/-- Keywords are spelled in lower case, exactly. -/
def ofSpelling? (s : String) : Option Keyword := all.find? (·.spelling == s)

def name : Keyword → String
  | blockBegin => "Begin"
  | blockEnd => "End"
  | varDecl => "Var"
  | constDecl => "Const"
  | print => "Print"

end Keyword

inductive Punctuation where
  | plus
  | minus
  | times
  | divide
  | equal
  | leftParen
  | rightParen
  | semicolon
  deriving DecidableEq, Repr

namespace Punctuation

def all : List Punctuation :=
  [plus, minus, times, divide, equal, leftParen, rightParen, semicolon]

def char : Punctuation → Char
  | plus => '+'
  | minus => '-'
  | times => '*'
  | divide => '/'
  | equal => '='
  | leftParen => '('
  | rightParen => ')'
  | semicolon => ';'

def ofChar? (c : Char) : Option Punctuation := all.find? (·.char == c)

def name : Punctuation → String
  | plus => "Plus"
  | minus => "Minus"
  | times => "Mult"
  | divide => "Div"
  | equal => "Equal"
  | leftParen => "LParen"
  | rightParen => "RParen"
  | semicolon => "Semicolon"

end Punctuation

/-! ## Kinds and values -/

inductive Kind where
  | endOfText
  | unsignedInteger
  | identifier
  | keyword (k : Keyword)
  | punctuation (p : Punctuation)
  deriving DecidableEq, Repr

namespace Kind

def all : List Kind :=
  [endOfText, unsignedInteger, identifier] ++ Keyword.all.map keyword
    ++ Punctuation.all.map punctuation

def name : Kind → String
  | endOfText => "Eof"
  | unsignedInteger => "UnsignedInteger"
  | identifier => "Identifier"
  | keyword k => k.name
  | punctuation p => p.name

def ofName? (s : String) : Option Kind := all.find? (·.name == s)

def isKeyword : Kind → Bool
  | keyword _ => true
  | _ => false

def isPunctuation : Kind → Bool
  | punctuation _ => true
  | _ => false

end Kind

inductive Value where
  | none
  | integer (n : Int)
  | text (s : String)
  | char (c : Char)
  deriving DecidableEq, Repr

/-- Integers are written in decimal, texts and characters in quotes. -/
def Value.display : Value → String
  | none => ""
  | integer n => n.repr
  | text s => Text.quoted s
  | char c => Text.quotedChar c

/-! ## Tokens -/

structure Token where
  kind : Kind
  value : Value
  start : Position
  stop : Position
  deriving DecidableEq, Repr

/-- A token was to start after its own end. -/
structure Token.Reversed where
  start : Position
  stop : Position
  deriving DecidableEq, Repr

def Token.Reversed.message (r : Token.Reversed) : String :=
  "token start " ++ r.start.text ++ " after end " ++ r.stop.text

namespace Token

def make? (kind : Kind) (value : Value) (start stop : Position) : Except Reversed Token :=
  if start ≤ stop then .ok ⟨kind, value, start, stop⟩ else .error ⟨start, stop⟩

/-- The token that ends every stream: it has no value and no length. -/
def endAt (p : Position) : Token := ⟨.endOfText, .none, p, p⟩

def isEnd (t : Token) : Bool := t.kind == .endOfText

def extent (t : Token) : Extent := .between t.start t.stop

def integer? (t : Token) : Option Int :=
  match t.value with
  | .integer n => some n
  | _ => none

def text? (t : Token) : Option String :=
  match t.value with
  | .text s => some s
  | _ => none

def text (t : Token) : String :=
  match t.value with
  | .none => t.kind.name
  | v => t.kind.name ++ "(" ++ v.display ++ ")"

end Token

end PLZero
