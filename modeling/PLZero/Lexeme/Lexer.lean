import PLZero.Lexeme.Input
import PLZero.Lexeme.Munch

/-! Pulling tokens out of a text. The state of a lexer is the text being read and the alphabet;
nothing else survives from one token to the next.

* `Lexer.next` pulls one token or fault. After a fault the lexer stands behind the faulty lexeme,
  so the caller may go on.
* `Lexer.run` goes on after faults, up to the end of the text.
* `Lexer.Pass` stops before the end of the text or after the first fault, and then stays stopped.
* `Lexer.tokens` gathers all tokens with the final one, or the first fault. -/
namespace PLZero
set_option autoImplicit false

structure Lexer where
  input : Input
  alphabet : Alphabet
  deriving DecidableEq, Repr

/-- A pull gives a token or a fault. -/
abbrev Pulled := Except Fault Token

namespace Lexer

def ofInput (i : Input) : Lexer := ⟨i, default⟩

def ofString (s : String) (a : Alphabet) : Lexer := ⟨.ofString s, a⟩

/-- The input at the next lexeme: opened, and with blanks skipped. -/
def ahead (l : Lexer) : Input := l.input.opening.skipWhile isBlank

/-- The pull of a lexeme with the given meaning between two positions. -/
def pulled (start stop : Position) : Except Fault.Cause (Kind × Value) → Pulled
  | .ok (kind, value) => .ok ⟨kind, value, start, stop⟩
  | .error cause => .error ⟨cause, start⟩

def next (l : Lexer) : Pulled × Lexer :=
  let i := l.ahead
  match i.rest with
  | [] => (.ok (.endAt i.here), { l with input := i })
  | c :: cs =>
    let tail := l.alphabet.lexemeTail c cs
    let after := i.advance (tail.length + 1)
    (pulled i.here after.here (l.alphabet.meaning c tail), { l with input := after })

/-! ## Progress -/

/-- A pull that found the end of the text. -/
def isEnd : Pulled → Bool
  | .ok t => t.isEnd
  | .error _ => false

theorem ahead_rest_length_le (l : Lexer) : l.ahead.rest.length ≤ l.input.rest.length := by
  rw [ahead, Input.skipWhile_rest]
  exact Nat.le_trans (List.dropWhile_suffix _).length_le (Input.opening_rest_length_le _)

/-- A pull that does not find the end consumes a character. -/
theorem next_rest_length_lt (l : Lexer) (h : isEnd l.next.1 = false) :
    l.next.2.input.rest.length < l.input.rest.length := by
  have ha := ahead_rest_length_le l
  unfold next at h ⊢
  dsimp only at h ⊢
  split at h
  · simp [isEnd, Token.isEnd, Token.endAt] at h
  · next c cs hr =>
    rw [hr] at ha
    simp only [hr, Input.advance_rest, List.drop_succ_cons, List.length_drop]
    simp only [List.length_cons] at ha
    omega

/-! ## Whole runs -/

/-- All pulls up to the end of the text, which is the last one. -/
def run (l : Lexer) : List Pulled :=
  if _h : isEnd l.next.1 = true then [l.next.1] else l.next.1 :: run l.next.2
termination_by l.input.rest.length
decreasing_by exact next_rest_length_lt l (by simpa using _h)

/-- The tokens up to the end of the text, behind those in `found`, or the first fault. -/
def tokensAfter (found : Array Token) (l : Lexer) : Except Fault (Array Token) × Lexer :=
  match _h : l.next with
  | (.error e, l') => (.error e, l')
  | (.ok t, l') =>
    if _e : t.isEnd = true then (.ok (found.push t), l') else tokensAfter (found.push t) l'
termination_by l.input.rest.length
decreasing_by
  have hl : l' = l.next.2 := by rw [_h]
  rw [hl]
  exact next_rest_length_lt l (by rw [_h]; simpa [isEnd] using _e)

def tokens (l : Lexer) : Except Fault (Array Token) × Lexer := tokensAfter #[] l

/-! ## Passes -/

/-- A run that yields tokens until it meets the end of the text or has yielded a fault. -/
structure Pass where
  lexer : Lexer
  stopped : Bool
  deriving DecidableEq, Repr

namespace Pass

def next (p : Pass) : Option Pulled × Pass :=
  if p.stopped then (none, p)
  else
    match p.lexer.next with
    | (.ok t, l) => if t.isEnd then (none, ⟨l, true⟩) else (some (.ok t), ⟨l, false⟩)
    | (.error e, l) => (some (.error e), ⟨l, true⟩)

/-- The results of `n` calls of `next`. -/
def nextN : Nat → Pass → List (Option Pulled) × Pass
  | 0, p => ([], p)
  | n + 1, p =>
    let (r, p) := p.next
    let (rs, p) := nextN n p
    (r :: rs, p)

end Pass

/-- A fresh pass over what is left of the text. -/
def pass (l : Lexer) : Pass := ⟨l, false⟩

/-- All that a fresh pass yields. -/
def yields (l : Lexer) : List Pulled :=
  match _h : l.next with
  | (.error e, _) => [.error e]
  | (.ok t, l') => if _e : t.isEnd = true then [] else .ok t :: yields l'
termination_by l.input.rest.length
decreasing_by
  have hl : l' = l.next.2 := by rw [_h]
  rw [hl]
  exact next_rest_length_lt l (by rw [_h]; simpa [isEnd] using _e)

end Lexer

end PLZero
