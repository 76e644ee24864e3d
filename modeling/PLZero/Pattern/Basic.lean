/-! Patterns, which describe texts: characters and classes of them in sequence, in choice, repeated
and grouped.

* `Pattern` is a pattern by its parts, `Member` a class of characters by its parts.
* `Pattern.height` counts how deep the parts of a pattern stand in one another.
* `Pattern.modesAfter?` tells whether a pattern can be put to use. For want of character tables this
  depends on the modes that its parts are read in. -/
namespace PLZero
set_option autoImplicit false

/-! ## Modes -/

/-- Ways to understand a pattern. -/
inductive PatternMode where
  | ignoresCase
  | hasLines
  | dotIsAll
  | isLazy
  | isUnicode
  | hasReturns
  | isSpacious
  deriving DecidableEq, Repr

/-- The modes that are in force somewhere in a pattern. -/
abbrev PatternModes := List PatternMode

/-- The modes that are taken up and the modes that are given up. -/
structure ModeChange where
  on : List PatternMode
  off : List PatternMode
  deriving DecidableEq, Repr

namespace ModeChange

def none : ModeChange := ⟨[], []⟩

def apply (d : ModeChange) (ms : PatternModes) : PatternModes :=
  d.on ++ ms.filter fun m => !d.off.contains m

end ModeChange

/-! ## Classes -/

/-- A class of characters, or a part of one. -/
inductive Member where
  | nothing
  /-- A character, or a range of characters that ends with it. -/
  | upTo (c : Char)
  /-- A class that is called by its name. -/
  | named (isNegated : Bool)
  /-- A class that is called by a letter: digits, spaces or name characters. -/
  | lettered (isNegated : Bool)
  | union (ms : List Member)
  /-- What is common to two classes, or in one of them only. -/
  | combined (a b : Member)
  | bracketed (isNegated : Bool) (m : Member)

namespace Member

def ofList : List Member → Member
  | [] => nothing
  | [m] => m
  | ms => union ms

mutual

def height : Member → Nat
  | nothing => 0
  | upTo _ => 0
  | named _ => 0
  | lettered _ => 0
  | union ms => 1 + heightOfAll ms
  | combined a b => 1 + max a.height b.height
  | bracketed _ m => 1 + m.height

def heightOfAll : List Member → Nat
  | [] => 0
  | m :: ms => max m.height (heightOfAll ms)

end

/-- Whether a named class can be used. The upper and lower case of characters are known in ASCII
only. Without Unicode a class is one of bytes, which must be ASCII, so it cannot be negated. -/
def namedFits (ms : PatternModes) (isNegated : Bool) : Bool :=
  if ms.contains .isUnicode then !ms.contains .ignoresCase else !isNegated

/-- Whether a lettered class can be used. Beyond ASCII its characters are not known. -/
def letteredFits (ms : PatternModes) (isNegated : Bool) : Bool :=
  !ms.contains .isUnicode && !isNegated

mutual

/-- Whether a class can be used. -/
def fits (ms : PatternModes) : Member → Bool
  | nothing => true
  | upTo c => if ms.contains .isUnicode then !ms.contains .ignoresCase else decide (c.toNat < 0x80)
  | named n => namedFits ms n
  | lettered n => letteredFits ms n
  | union l => allFit ms l
  | combined a b => a.fits ms && b.fits ms
  | bracketed n m => (ms.contains .isUnicode || !n) && m.fits ms

def allFit (ms : PatternModes) : List Member → Bool
  | [] => true
  | m :: l => m.fits ms && allFit ms l

end

end Member

/-! ## Patterns -/

inductive Pattern where
  | nothing
  /-- A change of the modes, up to the end of the group that it stands in. -/
  | change (d : ModeChange)
  /-- A character, which may be given by two hexadecimal digits. -/
  | char (c : Char) (isByte : Bool)
  | anyChar
  /-- The beginning or the end of a line or of the text. -/
  | edge
  /-- The beginning, the end or the inside of a word. -/
  | wordEdge
  /-- A class that is called by a letter: digits, spaces or name characters. -/
  | lettered (isNegated : Bool)
  | bracketed (isNegated : Bool) (m : Member)
  | repeated (p : Pattern)
  | group (d : ModeChange) (p : Pattern)
  | sequence (ps : List Pattern)
  | choice (ps : List Pattern)

namespace Pattern

def ofSequence : List Pattern → Pattern
  | [] => nothing
  | [p] => p
  | ps => sequence ps

def ofChoice : List Pattern → Pattern
  | [p] => p
  | ps => choice ps

mutual

def height : Pattern → Nat
  | nothing => 0
  | change _ => 0
  | char _ _ => 0
  | anyChar => 0
  | edge => 0
  | wordEdge => 0
  | lettered _ => 0
  | bracketed _ m => 1 + m.height
  | repeated p => 1 + p.height
  | group _ p => 1 + p.height
  | sequence ps => 1 + heightOfAll ps
  | choice ps => 1 + heightOfAll ps

def heightOfAll : List Pattern → Nat
  | [] => 0
  | p :: ps => max p.height (heightOfAll ps)

end

/-- Whether a character can be used. A byte beyond ASCII is no character. -/
def charFits (ms : PatternModes) (c : Char) (isByte : Bool) : Bool :=
  if ms.contains .isUnicode then !ms.contains .ignoresCase
  else !isByte || decide (c.toNat < 0x80)

/-- Passes the modes on if a part of a pattern can be used. -/
def passIf (ms : PatternModes) (isFit : Bool) : Option PatternModes :=
  if isFit then some ms else none

mutual

/-- The modes behind a pattern that begins in the modes `ms`, if it can be used. Without Unicode,
"any character" is any byte, and words are known in ASCII only. -/
def modesAfter? (ms : PatternModes) : Pattern → Option PatternModes
  | nothing => some ms
  | change d => some (d.apply ms)
  | char c isByte => passIf ms (charFits ms c isByte)
  | anyChar => passIf ms (ms.contains .isUnicode)
  | edge => some ms
  | wordEdge => passIf ms !(ms.contains .isUnicode)
  | lettered n => passIf ms (Member.letteredFits ms n)
  | bracketed n m => passIf ms ((Member.bracketed n m).fits ms)
  | repeated p => p.modesAfter? ms
  | group d p => (p.modesAfter? (d.apply ms)).map fun _ => ms
  | sequence ps => modesAfterAll? ms ps
  | choice ps => modesAfterAll? ms ps

def modesAfterAll? (ms : PatternModes) : List Pattern → Option PatternModes
  | [] => some ms
  | p :: ps =>
    match p.modesAfter? ms with
    | some ms => modesAfterAll? ms ps
    | none => none

end

/-- How high a pattern may be. -/
def maxHeight : Nat := 250

/-- Whether a pattern can be used where no modes were changed. -/
def isUsable (p : Pattern) : Bool :=
  decide (p.height ≤ maxHeight) && (p.modesAfter? [.isUnicode]).isSome

end Pattern

end PLZero
