import PLZero.Proofs.Cursor

/-! Scanning with a cursor, by loops. A loop looks at the next character and moves on while that is
in a class. The loops in a lexeme do not ask for the end of the text: there the look shows
`endMark`, which is in no class. Lexemes are cut out of the text by their offsets, the value of an
integer is found digit by digit, and a sign is known after it was read.

* `Cursor.while?` is a loop; one that would go on for ever gives nothing.
* `Cursor.scan?` is a whole pull.
* `Lexer.scan_eq`: over an input that stands in its text, the scanner gives what `Lexer.next` gives,
  and its cursor goes where the input goes. -/
namespace PLZero
set_option autoImplicit false

open Text (bytes)

/-! ## Integers, digit by digit -/

namespace Text

/-- Puts one more digit behind a number, if it is a digit and the result is not too large. -/
def addDigit? (n : Nat) (c : Char) : Option Nat :=
  let m := 10 * n + (c.toNat - '0'.toNat)
  if isDigit c = true ∧ m ≤ maxInteger then some m else none

/-- There has to be a digit. -/
def parseInteger? : List Char → Option Nat
  | [] => none
  | cs => cs.foldlM addDigit? 0

theorem le_ofDigitChars (cs : List Char) (n : Nat) : n ≤ Nat.ofDigitChars 10 cs n := by
  induction cs generalizing n with
  | nil => exact Nat.le_refl n
  | cons c cs ih =>
    rw [Nat.ofDigitChars_cons]
    exact Nat.le_trans (by omega) (ih _)

/-- A number that has become too large never gets smaller again. -/
theorem foldlM_addDigit? {cs : List Char} (hcs : ∀ c ∈ cs, isDigit c = true) {n : Nat}
    (hn : n ≤ maxInteger) : cs.foldlM addDigit? n =
      if Nat.ofDigitChars 10 cs n ≤ maxInteger then some (Nat.ofDigitChars 10 cs n) else none := by
  induction cs generalizing n with
  | nil => exact (if_pos hn).symm
  | cons c cs ih =>
    obtain ⟨hc, hcs⟩ := List.forall_mem_cons.1 hcs
    rw [List.foldlM_cons, Nat.ofDigitChars_cons, addDigit?]
    by_cases hm : 10 * n + (c.toNat - '0'.toNat) ≤ maxInteger
    · rw [if_pos ⟨hc, hm⟩]
      exact ih hcs hm
    · have hle := le_ofDigitChars cs (10 * n + (c.toNat - '0'.toNat))
      rw [if_neg fun h => hm h.2, if_neg (by omega)]
      rfl

theorem integerMeaning_eq_parse {cs : List Char} (h : cs ≠ [])
    (hcs : ∀ c ∈ cs, isDigit c = true) : integerMeaning cs =
      match parseInteger? cs with
      | some n => .ok (.unsignedInteger, .integer n)
      | none => .error .integerOverflow := by
  have hparse : parseInteger? cs = cs.foldlM addDigit? 0 := by
    cases cs with
    | nil => exact absurd rfl h
    | cons c cs => rfl
  rw [hparse, foldlM_addDigit? hcs (Nat.zero_le _), integerMeaning]
  split <;> rfl

end Text

/-! ## Loops and lexemes -/

namespace Cursor

theorem next?_offset_lt {k k' : Cursor} {c : Char} (h : k.next? = some (c, k'))
    (he : ¬k.atEnd = true) : k'.source = k.source ∧ k.here.offset < k'.here.offset := by
  unfold next? at h
  obtain ⟨d, -, hd⟩ := Option.map_eq_some_iff.1 h
  rw [if_neg he] at hd
  cases hd
  refine ⟨rfl, ?_⟩
  have hc := Char.utf8Size_pos c
  rw [Position.advance_offset]
  omega

/-- Moves on while the test holds. A cursor at the end stays where it is, so a test that holds there
holds for ever. -/
def while? (test : Cursor → Option Bool) (k : Cursor) : Option Cursor :=
  match test k with
  | none => none
  | some false => some k
  | some true =>
    if _e : k.atEnd = true then none
    else
      match _h : k.next? with
      | none => none
      | some (_, k') => while? test k'
termination_by k.source.utf8ByteSize - k.here.offset
decreasing_by
  obtain ⟨hsource, hlt⟩ := next?_offset_lt _h _e
  rw [atEnd, decide_eq_true_iff, Nat.not_le] at _e
  rw [hsource]
  omega

/-- Moves on over the characters of a class, whether or not the text is at its end. -/
def skip? (p : Char → Bool) : Cursor → Option Cursor := while? fun k => k.peek?.map p

def skipBlanks? : Cursor → Option Cursor :=
  while? fun k => if k.atEnd then some false else k.peek?.map isBlank

def scanInteger? (k : Cursor) : Option (Pulled × Cursor) := do
  let k' ← k.skip? isDigit
  match Text.parseInteger? (k.slice k.here k'.here).toList with
  | some n => return (.ok ⟨.unsignedInteger, .integer n, k.here, k'.here⟩, k')
  | none => return (.error ⟨.integerOverflow, k.here⟩, k')

def scanWord? (a : Alphabet) (k : Cursor) : Option (Pulled × Cursor) := do
  let k' ← k.skip? a.continuesName
  let word := k.slice k.here k'.here
  match Keyword.ofSpelling? word with
  | some w => return (.ok ⟨.keyword w, .text word, k.here, k'.here⟩, k')
  | none => return (.ok ⟨.identifier, .text word, k.here, k'.here⟩, k')

def scanSign? (k : Cursor) : Option (Pulled × Cursor) := do
  let (c, k') ← k.next?
  match Punctuation.ofChar? c with
  | some p => return (.ok ⟨.punctuation p, .char c, k'.last, k'.here⟩, k')
  | none => return (.error ⟨.invalidInput, k'.last⟩, k')

/-- Opens the text, skips blanks, and scans what comes then. -/
def scan? (a : Alphabet) (k : Cursor) : Option (Pulled × Cursor) := do
  let k ← k.opening.skipBlanks?
  if k.atEnd then return (.ok (.endAt k.here), k)
  else
    let c ← k.peek?
    if isDigit c then k.scanInteger?
    else if a.startsName c then k.scanWord? a
    else k.scanSign?

end Cursor

/-! ## Loops over an input that stands in its text -/

namespace Input

theorem skipWhile_of_stop {i : Input} {p : Char → Bool} (h : i.rest.head?.any p = false) :
    i.skipWhile p = i := by
  have hnil : i.rest.takeWhile p = [] := by
    cases hr : i.rest with
    | nil => rfl
    | cons c cs =>
      rw [hr] at h
      have hc : p c = false := h
      exact List.takeWhile_cons_of_neg (ne_true_of_eq_false hc)
  rw [skipWhile, hnil]
  rfl

theorem skipWhile_of_go {i : Input} {p : Char → Bool} (h : i.rest.head?.any p = true) :
    i.skipWhile p = i.step.skipWhile p := by
  rw [skipWhile, skipWhile, step_rest]
  cases hr : i.rest with
  | nil =>
    rw [hr] at h
    cases h
  | cons c cs =>
    rw [hr] at h
    have hc : p c = true := h
    rw [List.takeWhile_cons_of_pos hc]
    rfl

namespace Stands
variable {s : String} {mark read : List Char} {i : Input} {p : Char → Bool}

/-- A loop skips a class of characters if its test asks for the class, and fails at the end. -/
theorem while_eq {test : Cursor → Option Bool}
    (htest : ∀ {read i}, Stands s mark read i → test i.cursor = some (i.rest.head?.any p))
    (h : Stands s mark read i) : i.cursor.while? test = some (i.skipWhile p).cursor := by
  -- The induction is on what is left; each turn takes one character off it.
  generalize hcs : i.rest = cs
  induction cs generalizing i read with
  | nil =>
    have hp : i.rest.head?.any p = false := by rw [hcs]; rfl
    rw [Cursor.while?, htest h, hp, skipWhile_of_stop hp]
  | cons c cs ih =>
    rw [Cursor.while?, htest h]
    cases hp : i.rest.head?.any p with
    | false => rw [skipWhile_of_stop hp]
    | true =>
      have hend : ¬i.cursor.atEnd = true := by
        rw [h.cursor_atEnd, atEnd, hcs]
        exact Bool.false_ne_true
      dsimp only
      rw [dif_neg hend, skipWhile_of_go hp]
      split
      · next hnext =>
        rw [h.cursor_next] at hnext
        cases hnext
      · next k' hnext =>
        rw [h.cursor_next] at hnext
        cases hnext
        exact ih (h.advance 1) (by rw [next, step_rest, hcs]; rfl)

/-- What a look at the end of the text shows is in no class of a lexeme. -/
theorem skip_eq (hp : p endMark = false) (h : Stands s mark read i) :
    i.cursor.skip? p = some (i.skipWhile p).cursor := by
  refine h.while_eq fun {read i} h => ?_
  rw [h.cursor_peek, peek, Option.map_some]
  cases i.rest with
  | nil => rw [List.headD_nil, hp]; rfl
  | cons c cs => rfl

theorem skipBlanks_eq (h : Stands s mark read i) :
    i.cursor.skipBlanks? = some (i.skipWhile isBlank).cursor := by
  refine h.while_eq fun {read i} h => ?_
  rw [h.cursor_atEnd, h.cursor_peek, atEnd, peek]
  cases i.rest with
  | nil => rfl
  | cons c cs => rfl

/-- Between the ends of a loop lies what it skipped. -/
theorem slice_skipWhile (h : Stands s mark read i) (p : Char → Bool) :
    i.cursor.slice i.here (i.skipWhile p).here = String.ofList (i.rest.takeWhile p) := by
  have hcut : i.rest = i.rest.takeWhile p ++ i.rest.dropWhile p :=
    (List.takeWhile_append_dropWhile).symm
  have hstop : (i.skipWhile p).here.offset = i.here.offset + bytes (i.rest.takeWhile p) := by
    rw [skipWhile, advance_here_of_eq hcut, Position.advanceBy_offset]
  have hslice := h.slice hcut
  rw [← hstop, ← h.source] at hslice
  rw [cursor_slice, Input.slice, hslice]
  rfl

/-! ## Lexemes -/

theorem scanInteger_eq (h : Stands s mark read i) (hd : i.rest.takeWhile isDigit ≠ []) :
    i.cursor.scanInteger? =
      some (Lexer.pulled i.here (i.skipWhile isDigit).here
        (integerMeaning (i.rest.takeWhile isDigit)), (i.skipWhile isDigit).cursor) := by
  have hdigit : isDigit endMark = false := by decide
  rw [Cursor.scanInteger?, h.skip_eq hdigit,
    Text.integerMeaning_eq_parse hd fun _ hc => List.mem_takeWhile_imp hc]
  dsimp only [Option.bind_eq_bind, Option.bind_some]
  rw [cursor_here, cursor_here, h.slice_skipWhile, String.toList_ofList]
  cases Text.parseInteger? (i.rest.takeWhile isDigit) <;> rfl

theorem scanWord_eq (h : Stands s mark read i) (a : Alphabet) :
    i.cursor.scanWord? a =
      some (Lexer.pulled i.here (i.skipWhile a.continuesName).here
        (.ok (wordMeaning (i.rest.takeWhile a.continuesName))),
        (i.skipWhile a.continuesName).cursor) := by
  have hname : a.continuesName endMark = false := by cases a <;> decide
  rw [Cursor.scanWord?, h.skip_eq hname, wordMeaning]
  dsimp only [Option.bind_eq_bind, Option.bind_some]
  rw [cursor_here, cursor_here, h.slice_skipWhile]
  cases Keyword.ofSpelling? (String.ofList (i.rest.takeWhile a.continuesName)) <;> rfl

theorem scanSign_eq (h : Stands s mark read i) {c : Char} {cs : List Char}
    (hr : i.rest = c :: cs) :
    i.cursor.scanSign? =
      some (Lexer.pulled i.here i.step.here (signMeaning c), i.step.cursor) := by
  have hlast : i.step.cursor.last = i.here := by
    unfold step
    rw [hr]
    rfl
  rw [Cursor.scanSign?, h.cursor_next, signMeaning, next, peek, hr]
  dsimp only [Option.bind_eq_bind, Option.bind_some, List.headD_cons]
  rw [hlast]
  cases Punctuation.ofChar? c <;> rfl

end Stands
end Input

/-! ## Whole pulls -/

namespace Lexer
variable {s : String} {mark read : List Char} {l : Lexer}

/-- At the first character of a lexeme the scanner reads the lexeme. -/
theorem scanLexeme_eq {i : Input} (h : i.Stands s mark read) (a : Alphabet) {c : Char}
    {cs : List Char} (hr : i.rest = c :: cs) :
    (if isDigit c then i.cursor.scanInteger?
      else if a.startsName c then i.cursor.scanWord? a
      else i.cursor.scanSign?) =
      some (pulled i.here (i.advance ((a.lexemeTail c cs).length + 1)).here
        (a.meaning c (a.lexemeTail c cs)),
        (i.advance ((a.lexemeTail c cs).length + 1)).cursor) := by
  have hrow : ∀ {p : Char → Bool}, p c = true → i.rest.takeWhile p = c :: cs.takeWhile p ∧
      i.skipWhile p = i.advance ((cs.takeWhile p).length + 1) := by
    intro p hp
    have htake : i.rest.takeWhile p = c :: cs.takeWhile p := by
      rw [hr, List.takeWhile_cons_of_pos hp]
    exact ⟨htake, by rw [Input.skipWhile, htake]; rfl⟩
  unfold Alphabet.lexemeTail Alphabet.meaning
  by_cases hd : isDigit c = true
  · obtain ⟨htake, hskip⟩ := hrow hd
    have hinteger := h.scanInteger_eq (by rw [htake]; exact List.cons_ne_nil _ _)
    rw [htake, hskip] at hinteger
    rw [if_pos hd, if_pos hd, if_pos hd, hinteger]
  · rw [if_neg hd, if_neg hd, if_neg hd]
    by_cases hs : a.startsName c = true
    · obtain ⟨htake, hskip⟩ := hrow (Alphabet.continuesName_of_startsName hs)
      have hword := h.scanWord_eq a
      rw [htake, hskip] at hword
      rw [if_pos hs, if_pos hs, if_pos hs, hword]
    · rw [if_neg hs, if_neg hs, if_neg hs, h.scanSign_eq hr]
      rfl

theorem scan_eq (h : l.input.Stands s mark read) :
    l.input.cursor.scan? l.alphabet = some (l.next.1, l.next.2.input.cursor) := by
  have hahead : l.input.cursor.opening.skipBlanks? = some l.ahead.cursor := by
    rw [h.cursor_opening]
    exact h.opening.skipBlanks_eq
  have hstands : l.ahead.Stands s _ _ := h.opening.advance _
  rw [Cursor.scan?, hahead]
  dsimp only [Option.bind_eq_bind, Option.bind_some]
  rw [hstands.cursor_atEnd, hstands.cursor_peek, Input.atEnd, Input.peek]
  unfold next
  cases hr : l.ahead.rest with
  | nil => simp only [hr]; rfl
  | cons c cs =>
    simp only [hr]
    exact scanLexeme_eq hstands l.alphabet hr

end Lexer

end PLZero
