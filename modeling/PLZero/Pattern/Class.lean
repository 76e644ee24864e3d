import PLZero.Pattern.Basic
import PLZero.Text.Space

/-! How the smallest parts of patterns and classes of characters are written.

* `Reader` reads a pattern from its front; `skip` passes over what does not count.
* `escape` reads what a backslash begins.
* `bracketedClass` reads a class in brackets. Brackets nest in one another. -/
namespace PLZero.Pattern
set_option autoImplicit false

open Text (isSpace)

/-! ## Readers -/

structure Unread where
  rest : List Char
  /-- Whether white space and comments do not count. -/
  isSpacious : Bool
  /-- The names of the groups so far. -/
  names : List (List Char)
  deriving DecidableEq, Repr

abbrev Reader := StateT Unread Option

namespace Reader

def rest : Reader (List Char) := do return (← get).rest

def goTo (cs : List Char) : Reader Unit := modify fun u => { u with rest := cs }

def setSpacious (b : Bool) : Reader Unit := modify fun u => { u with isSpacious := b }

def next : Reader Char := do
  match ← rest with
  | c :: cs => goTo cs; return c
  | [] => failure

/-- What follows white space and comments, which go from a number sign to the end of the line. -/
def behindSpace (inComment : Bool) : List Char → List Char
  | [] => []
  | c :: cs =>
    if inComment then behindSpace (c != '\n') cs
    else if isSpace c then behindSpace false cs
    else if c = '#' then behindSpace true cs
    else c :: cs

/-- Passes over white space and comments where they do not count. -/
def skip : Reader Unit := modify fun u =>
  if u.isSpacious then { u with rest := behindSpace false u.rest } else u

/-! ## Escapes -/

/-- What a backslash and the characters behind it stand for. -/
inductive Escaped where
  | char (c : Char) (isByte : Bool)
  | lettered (isNegated : Bool)
  | edge
  | wordEdge
  deriving DecidableEq, Repr

/-- Letters that stand for a character. -/
def letterChars : List (Char × Char) :=
  [('a', '\x07'), ('f', '\x0c'), ('t', '\t'), ('n', '\n'), ('r', '\r'), ('v', '\x0b')]

def hexDigit? (c : Char) : Option Nat :=
  if c.isDigit then some (c.toNat - '0'.toNat)
  else if 'a' ≤ c ∧ c ≤ 'f' then some (c.toNat - 'a'.toNat + 10)
  else if 'A' ≤ c ∧ c ≤ 'F' then some (c.toNat - 'A'.toNat + 10)
  else none

/-- The number with `k` more hexadecimal digits behind those of `n`. -/
def hexNumber (n : Nat) : Nat → Reader Nat
  | 0 => pure n
  | k + 1 => do
    skip
    match hexDigit? (← next) with
    | some d => hexNumber (16 * n + d) k
    | none => failure

/-- The character whose code point is written in `k` hexadecimal digits. -/
def codePoint (k : Nat) : Reader Char := do
  let n ← hexNumber 0 k
  if n.isValidChar then return Char.ofNat n else failure

/-- Whether a character behind a backslash stands for itself. The signs of ASCII do, but for two
that mark the edges of words. -/
def isEscapable (c : Char) : Bool :=
  decide (c.toNat < 0x80) && !c.isAlphanum && c != '<' && c != '>'

/-- Reads what stands behind a backslash. No code point stands in braces, as no brace is closed, and
no class is called by a property of its characters, as none is known. -/
def escape : Reader Escaped := do
  let c ← next
  if c = 'x' then return .char (← codePoint 2) true
  else if c = 'u' then return .char (← codePoint 4) false
  else if c = 'U' then return .char (← codePoint 8) false
  else if c ∈ ['d', 's', 'w'] then return .lettered false
  else if c ∈ ['D', 'S', 'W'] then return .lettered true
  else if c ∈ ['A', 'z'] then return .edge
  else if c ∈ ['b', 'B', '<', '>'] then return .wordEdge
  else if isEscapable c then return .char c false
  else
    match letterChars.find? (·.1 == c) with
    | some e => return .char e.2 false
    | none => failure

/-! ## Classes -/

/-- The classes that are called by a name. -/
def classNames : List String :=
  ["alnum", "alpha", "ascii", "blank", "cntrl", "digit", "graph", "lower", "print", "punct",
    "space", "upper", "word", "xdigit"]

/-- A named class such as `[:alpha:]`, or negated such as `[:^alpha:]`, at the front of a text,
and what follows it. -/
def namedClass? (cs : List Char) : Option (Member × List Char) :=
  match cs with
  | '[' :: ':' :: cs =>
    let isNegated := cs.head? == some '^'
    let cs := if isNegated then cs.drop 1 else cs
    let name := String.ofList (cs.takeWhile (· != ':'))
    match cs.dropWhile (· != ':') with
    | ':' :: ']' :: rest => if name ∈ classNames then some (.named isNegated, rest) else none
    | _ => none
  | _ => none

/-- A member that may begin a range, and does if it is a character. -/
def memberStart : Reader Escaped := do
  match ← next with
  | '\\' => escape
  | c => return .char c false

/-- Whether a dash in brackets stands for itself, where `cs` is what follows it: it does before the
closing bracket and before another dash. White space and a number sign are passed over where they do
not count. -/
def isLoneDash (isSpacious : Bool) (cs : List Char) : Bool :=
  let cs := if isSpacious then cs.dropWhile isSpace else cs
  let cs := if isSpacious && cs.head? == some '#' then (cs.drop 1).dropWhile isSpace else cs
  cs.head? == some ']' || cs.head? == some '-'

/-- Whether a range begins behind its first character. -/
def atRange : Reader Bool := do
  let u ← get
  match u.rest with
  | '-' :: cs => return !isLoneDash u.isSpacious cs
  | _ => return false

/-- A character, a range or a lettered class. The end of a range is not below its beginning. -/
def member : Reader Member := do
  let first ← memberStart
  skip
  if ← atRange then
    let _ ← next
    skip
    match first, ← memberStart with
    | .char a _, .char b _ => if a ≤ b then return .upTo b else failure
    | _, _ => failure
  else
    match first with
    | .char c _ => return .upTo c
    | .lettered n => return .lettered n
    | _ => failure

/-- Reads dashes, which stand for themselves, at most `fuel` of them. -/
def dashes : Nat → List Member → Reader (List Member)
  | 0, ms => pure ms
  | fuel + 1, ms => do
    match ← rest with
    | '-' :: cs => goTo cs; skip; dashes fuel (.upTo '-' :: ms)
    | _ => return ms

/-- Reads the beginning of a class behind its opening bracket: whether it is negated, and the
members that stand for themselves only there, the last one first. There are at most `fuel` of
them. -/
def classStart (fuel : Nat) : Reader (Bool × List Member) := do
  skip
  let isNegated := (← rest).head? == some '^'
  if isNegated then
    let _ ← next
    skip
  let ms ← dashes fuel []
  match ms, ← rest with
  | [], ']' :: cs => goTo cs; return (isNegated, [.upTo ']'])
  | ms, _ => return (isNegated, ms)

/-- The members `ms`, the last one first, combined with the class `left` before them. -/
def combine (left : Option Member) (ms : List Member) : Member :=
  match left with
  | some m => .combined m (.ofList ms.reverse)
  | none => .ofList ms.reverse

/-- Reads a class to its closing bracket, where `left` is the class before the last operator and
`ms` are the members since, the last one first. Operators are read from left to right. Less than
`fuel` characters are left. -/
def classRest : Nat → Option Member → List Member → Reader Member
  | 0, _, _ => failure
  | fuel + 1, left, ms => do
    skip
    let cs ← rest
    match namedClass? cs with
    | some (m, cs) => goTo cs; classRest fuel left (m :: ms)
    | none =>
      match cs with
      | ']' :: cs => goTo cs; return combine left ms
      | '[' :: cs => do
        goTo cs
        let (isNegated, first) ← classStart fuel
        let m ← classRest fuel none first
        classRest fuel left (.bracketed isNegated m :: ms)
      | '&' :: '&' :: cs => goTo cs; classRest fuel (some (combine left ms)) []
      | '-' :: '-' :: cs => goTo cs; classRest fuel (some (combine left ms)) []
      | '~' :: '~' :: cs => goTo cs; classRest fuel (some (combine left ms)) []
      | _ => do classRest fuel left ((← member) :: ms)

/-- Reads a class behind its opening bracket, where less than `fuel` characters are left. -/
def bracketedClass (fuel : Nat) : Reader Pattern := do
  let (isNegated, first) ← classStart fuel
  return .bracketed isNegated (← classRest fuel none first)

end Reader

end PLZero.Pattern
