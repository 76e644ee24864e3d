import PLZero.Text.Letter

/-! Classes of characters. Digits and blanks are the same for every program; the alphabet decides
which characters make up a name.

* `isBlank` holds of the characters between lexemes: the spaces, tabs, line and paragraph
  separators that allow a line break, and the information separators U+001C to U+001F. The
  no-break spaces and the next-line control are not blank.
* `Alphabet.unicode` builds names from the letters of all scripts and from digits,
  `Alphabet.ascii` from ASCII letters, digits and the underscore. -/
namespace PLZero
set_option autoImplicit false

open Text (CodeRange inRanges isLetter)

def blankRanges : List CodeRange := [
  ⟨0x09, 0x0D⟩, ⟨0x1C, 0x20⟩, ⟨0x1680, 0x1680⟩, ⟨0x2000, 0x2006⟩, ⟨0x2008, 0x200A⟩,
  ⟨0x2028, 0x2029⟩, ⟨0x205F, 0x205F⟩, ⟨0x3000, 0x3000⟩]

theorem ascending_blankRanges : Text.ascending blankRanges = true := by decide

def isBlank (c : Char) : Bool := inRanges blankRanges c

/-- The digits are `0` to `9` in every alphabet. -/
def isDigit (c : Char) : Bool := c.isDigit

inductive Alphabet where
  | unicode
  | ascii
  deriving DecidableEq, Repr

namespace Alphabet

instance : Inhabited Alphabet := ⟨unicode⟩

/-- The name of the alphabet in configurations and on the command line. -/
def name : Alphabet → String
  | unicode => "unicode"
  | ascii => "ascii"

def all : List Alphabet := [unicode, ascii]

def ofName? (s : String) : Option Alphabet := all.find? (·.name == s)

def startsName : Alphabet → Char → Bool
  | unicode, c => isLetter c
  | ascii, c => c.isAlpha || c == '_'

def continuesName : Alphabet → Char → Bool
  | unicode, c => isLetter c || isDigit c
  | ascii, c => c.isAlphanum || c == '_'

end Alphabet

end PLZero
