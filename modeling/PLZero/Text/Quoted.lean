import PLZero.Text.Hidden

/-! Quoted text. Every character is written by itself, so the quoted form of a text is the quoted
forms of its characters one after the other, between two quotes.

* A character with a short spelling is written as a backslash and a letter.
* The quote that delimits the text is written with a backslash, and the other quote as itself.
* A hidden character is written by its code point, in lower-case hexadecimal digits.
* Any other character is written as itself.

Names in messages stand between back quotes and are not changed. -/
namespace PLZero.Text
set_option autoImplicit false

/-- The letter that follows the backslash for the characters with a short spelling. -/
def shortEscape : Char → Option Char
  | '\x00' => some '0'
  | '\t' => some 't'
  | '\r' => some 'r'
  | '\n' => some 'n'
  | '\\' => some '\\'
  | _ => none

/-- The code point in braces after a backslash and a `u`. -/
def codeEscape (c : Char) : List Char :=
  ['\\', 'u', '\x7b'] ++ Nat.toDigits 16 c.toNat ++ ['\x7d']

/-- The written form of `c` between quotes of the kind `quote`. -/
def escape (quote c : Char) : List Char :=
  match shortEscape c with
  | some s => ['\\', s]
  | none =>
    if c = quote then ['\\', c]
    else if isHidden c then codeEscape c
    else [c]

/-- The text `s` in double quotes. -/
def quoted (s : String) : String :=
  String.ofList ('"' :: (s.toList.flatMap (escape '"') ++ ['"']))

/-- The character `c` in single quotes. -/
def quotedChar (c : Char) : String :=
  String.ofList ('\'' :: (escape '\'' c ++ ['\'']))

/-- A name between back quotes. -/
def named (s : String) : String := "\x60" ++ s ++ "\x60"

end PLZero.Text
