import PLZero.Pattern.Class
import PLZero.Text.Letter
import PLZero.Text.Numeral

/-! How patterns are written. A pattern stands between braces, so no brace that is opened in it is
closed in it: nothing is repeated a given number of times.

* `Pattern.parse?` reads a pattern.
* `Pattern.isPattern` tells whether a text is a pattern that can be put to use. -/
namespace PLZero.Pattern
set_option autoImplicit false

open Text (isLetter isNumeral)

namespace Reader

/-! ## Changes of modes -/

def mode? (c : Char) : Option PatternMode :=
  match c with
  | 'i' => some .ignoresCase
  | 'm' => some .hasLines
  | 's' => some .dotIsAll
  | 'U' => some .isLazy
  | 'u' => some .isUnicode
  | 'R' => some .hasReturns
  | 'x' => some .isSpacious
  | _ => none

/-- A change of modes such as `im-u`. No mode is named twice, and some mode follows the dash. -/
def modeChange? (cs : List Char) : Option ModeChange := do
  let on ← (cs.takeWhile (· != '-')).mapM mode?
  match cs.dropWhile (· != '-') with
  | [] => if on.Nodup then some ⟨on, []⟩ else none
  | _ :: cs =>
    let off ← cs.mapM mode?
    if off ≠ [] ∧ (on ++ off).Nodup then some ⟨on, off⟩ else none

/-- Takes up or gives up that white space and comments do not count. -/
def applyChange (d : ModeChange) : Reader Unit := do
  if d.on.contains .isSpacious then setSpacious true
  if d.off.contains .isSpacious then setSpacious false

/-! ## Groups -/

def startsName (c : Char) : Bool := c == '_' || isLetter c

def continuesName (c : Char) : Bool :=
  c == '_' || c == '.' || c == '[' || c == ']' || isLetter c || isNumeral c

/-- Reads the name of a group up to the bracket behind it. No two groups have the same name. -/
def groupName : Reader Unit := do
  let u ← get
  match u.rest.takeWhile (· != '>'), u.rest.dropWhile (· != '>') with
  | c :: cs, _ :: rest =>
    if startsName c && cs.all continuesName && !u.names.contains (c :: cs) then
      set { u with rest := rest, names := (c :: cs) :: u.names }
    else failure
  | _, _ => failure

/-- What an opening parenthesis begins. -/
inductive Opening where
  | group (d : ModeChange)
  /-- No group, but a change of modes in parentheses. -/
  | change (d : ModeChange)
  deriving DecidableEq, Repr

/-- Reads a change of modes and the sign behind it. Without a colon there must be something to
change. -/
def modes : Reader Opening := do
  let isMode (c : Char) : Bool := c != ':' && c != ')'
  let cs ← rest
  match modeChange? (cs.takeWhile isMode), cs.dropWhile isMode with
  | some d, ':' :: cs => goTo cs; return .group d
  | some d, ')' :: cs => if d = .none then failure else goTo cs; return .change d
  | _, _ => failure

/-- Reads what stands behind an opening parenthesis. There are no groups that look around. -/
def opening : Reader Opening := do
  skip
  match ← rest with
  | '?' :: '<' :: cs => goTo cs; groupName; return .group .none
  | '?' :: 'P' :: '<' :: cs => goTo cs; groupName; return .group .none
  | '?' :: cs => goTo cs; modes
  | _ => return .group .none

/-! ## Patterns -/

def single : Reader Pattern := do
  match ← next with
  | '.' => return .anyChar
  | '^' | '$' => return .edge
  | '\\' =>
    match ← escape with
    | .char c isByte => return .char c isByte
    | .lettered n => return .lettered n
    | .edge => return .edge
    | .wordEdge => return .wordEdge
  | c => return .char c false

/-- The parts `ps`, the last one first, where the last one is repeated. A change of modes is not. -/
def repeatLast (ps : List Pattern) : Reader (List Pattern) :=
  match ps with
  | [] => failure
  | .change _ :: _ => failure
  | p :: ps => pure (.repeated p :: ps)

/-- The pattern with the choices `choices` and then the sequence of `ps`, all the last one first. -/
def choiceOf (choices : List Pattern) (ps : List Pattern) : Pattern :=
  .ofChoice (.ofSequence ps.reverse :: choices).reverse

/-- Reads a pattern up to the end of the group, where `choices` are the choices before and `ps` the
parts of the last choice so far, all the last one first. Less than `fuel` characters are left. -/
def patternRest : Nat → List Pattern → List Pattern → Reader Pattern
  | 0, _, _ => failure
  | fuel + 1, choices, ps => do
    skip
    match ← rest with
    | [] => return choiceOf choices ps
    | c :: cs =>
      if c = ')' then return choiceOf choices ps
      else if c = '|' then
        goTo cs
        patternRest fuel (.ofSequence ps.reverse :: choices) []
      else if c = '(' then
        goTo cs
        match ← opening with
        | .change d =>
          applyChange d
          patternRest fuel choices (.change d :: ps)
        | .group d =>
          let wasSpacious := (← get).isSpacious
          applyChange d
          let p ← patternRest fuel [] []
          setSpacious wasSpacious
          if (← next) = ')' then patternRest fuel choices (.group d p :: ps) else failure
      else if c = '[' then
        goTo cs
        patternRest fuel choices ((← bracketedClass fuel) :: ps)
      else if c ∈ ['*', '+', '?'] then
        goTo (if cs.head? = some '?' then cs.drop 1 else cs)
        patternRest fuel choices (← repeatLast ps)
      else if c = '\x7b' then failure
      else patternRest fuel choices ((← single) :: ps)

end Reader

def parse? (s : String) : Option Pattern :=
  let cs := s.toList
  match Reader.patternRest (cs.length + 1) [] [] ⟨cs, false, []⟩ with
  | some (p, u) => if u.rest.isEmpty then some p else none
  | none => none

def isPattern (s : String) : Bool := (parse? s).any isUsable

end PLZero.Pattern
