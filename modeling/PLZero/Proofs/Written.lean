import PLZero.Proofs.Place

/-! Texts written from lexemes. Lexemes stand one behind the other, with blanks before, between and
after them; only a word before a word or a number, and a number before a number, need a blank
between them.

* `Lexeme` is a lexeme of an alphabet: every value of the type is well-formed.
* `Script` is a text by its lexemes and gaps, `Script.text` the text, `Script.tokens` the tokens to
  expect, and `Parted` says that there are blanks where they are needed.
* `Lexeme.goesOn_head`: a lexeme takes up the head of the next one exactly if they must be parted.
* `Script.run_iff`: exactly the parted scripts are read as they were written. -/
namespace PLZero
set_option autoImplicit false

open Text (bytes slice?)

inductive Lexeme (a : Alphabet) where
  | keyword (k : Keyword)
  | identifier (c : Char) (cs : List Char) (head : a.startsName c = true)
      (tail : ∀ d ∈ cs, a.continuesName d = true)
      (noKeyword : Keyword.ofSpelling? (String.ofList (c :: cs)) = none)
  | integer (digits : List Char) (nonempty : digits ≠ [])
      (decimal : ∀ d ∈ digits, isDigit d = true)
      (small : Nat.ofDigitChars 10 digits 0 ≤ maxInteger)
  | punctuation (p : Punctuation)

namespace Lexeme
variable {a : Alphabet}

def chars : Lexeme a → List Char
  | keyword k => k.spelling.toList
  | identifier c cs _ _ _ => c :: cs
  | integer digits _ _ _ => digits
  | punctuation p => [p.char]

def kind : Lexeme a → Kind
  | keyword k => .keyword k
  | identifier _ _ _ _ _ => .identifier
  | integer _ _ _ _ => .unsignedInteger
  | punctuation p => .punctuation p

def value : Lexeme a → Value
  | keyword k => .text k.spelling
  | identifier c cs _ _ _ => .text (String.ofList (c :: cs))
  | integer digits _ _ _ => .integer (Nat.ofDigitChars 10 digits 0)
  | punctuation p => .char p.char

/-- The token of the lexeme if it begins at `p`. -/
def token (x : Lexeme a) (p : Position) : Token := ⟨x.kind, x.value, p, p.advanceBy x.chars⟩

def isWord : Lexeme a → Bool
  | keyword _ => true
  | identifier _ _ _ _ _ => true
  | _ => false

def isNumber : Lexeme a → Bool
  | integer _ _ _ _ => true
  | _ => false

/-- Whether a blank is needed between `x` and `y`. -/
def mustPart (x y : Lexeme a) : Bool :=
  x.isWord && (y.isWord || y.isNumber) || x.isNumber && y.isNumber

end Lexeme

/-- A run of blanks, which may be empty. -/
abbrev Gap := { cs : List Char // ∀ c ∈ cs, isBlank c = true }

/-- Lexemes with the gap before the first one and the gap behind each. -/
structure Script (a : Alphabet) where
  lead : Gap
  items : List (Lexeme a × Gap)

namespace Script
variable {a : Alphabet}

def textOf : List (Lexeme a × Gap) → List Char
  | [] => []
  | (x, gap) :: items => x.chars ++ (gap.val ++ textOf items)

def text (w : Script a) : String := String.ofList (w.lead.val ++ textOf w.items)

/-- The tokens of the lexemes, of which the first begins at `p`, and the end of the text. -/
def tokensOf (p : Position) : List (Lexeme a × Gap) → List Token
  | [] => [.endAt p]
  | (x, gap) :: items => x.token p :: tokensOf ((p.advanceBy x.chars).advanceBy gap.val) items

def tokens (w : Script a) : List Token := tokensOf (Position.start.advanceBy w.lead.val) w.items

end Script

/-- There are blanks behind each lexeme that must be parted from the next one. -/
def Parted {a : Alphabet} : List (Lexeme a × Gap) → Prop
  | [] => True
  | (x, gap) :: items =>
    (∀ y ∈ items.head?, x.mustPart y.1 = true → gap.val ≠ []) ∧ Parted items

/-! ## How far a lexeme reaches -/

namespace Lexeme
variable {a : Alphabet}

/-- The characters that a lexeme takes up if they stand behind it. -/
def goesOn : Lexeme a → Char → Bool
  | keyword _ => a.continuesName
  | identifier _ _ _ _ _ => a.continuesName
  | integer _ _ _ _ => isDigit
  | punctuation _ => fun _ => false

/-- The lexeme by its first character and the others, as a pull sees it. -/
structure Shape (x : Lexeme a) (c : Char) (tail : List Char) : Prop where
  chars : x.chars = c :: tail
  head : isBlank c = false
  inside : ∀ d ∈ tail, x.goesOn d = true
  munch : ∀ cs, a.lexemeTail c cs = cs.takeWhile x.goesOn
  meaning : a.meaning c tail = .ok (x.kind, x.value)
  word : x.isWord = true → a.startsName c = true
  number : x.isNumber = true → isDigit c = true
  sign : x.isWord = false → x.isNumber = false → a.continuesName c = false

theorem wordMeaning_keyword {k : Keyword} {cs : List Char} (h : k.spelling.toList = cs) :
    wordMeaning cs = (.keyword k, .text k.spelling) := by
  have hs : String.ofList cs = k.spelling := by rw [← h, String.ofList_toList]
  rw [wordMeaning, hs, k.ofSpelling?_spelling]

theorem shape_keyword (k : Keyword) : ∃ c tail, (keyword k : Lexeme a).Shape c tail := by
  cases hs : k.spelling.toList with
  | nil => exact absurd hs k.spelling_ne_nil
  | cons c tail =>
    have hstart : ∀ d ∈ c :: tail, a.startsName d = true := by
      intro d hd
      rw [← hs] at hd
      exact Keyword.startsName_of_mem a hd
    have hc := hstart c List.mem_cons_self
    exact ⟨c, tail, {
      chars := hs
      head := isBlank_of_continuesName (Alphabet.continuesName_of_startsName hc)
      inside := fun d hd =>
        Alphabet.continuesName_of_startsName (hstart d (List.mem_cons_of_mem c hd))
      munch := Alphabet.lexemeTail_of_startsName hc
      meaning := by rw [Alphabet.meaning_of_startsName hc, wordMeaning_keyword hs]; rfl
      word := fun _ => hc
      number := fun h => by cases h
      sign := fun h => by cases h }⟩

theorem shape_identifier (c : Char) (cs : List Char) (hc : a.startsName c = true)
    (ht : ∀ d ∈ cs, a.continuesName d = true)
    (hk : Keyword.ofSpelling? (String.ofList (c :: cs)) = none) :
    (identifier c cs hc ht hk).Shape c cs where
  chars := rfl
  head := isBlank_of_continuesName (Alphabet.continuesName_of_startsName hc)
  inside := ht
  munch := Alphabet.lexemeTail_of_startsName hc
  meaning := by
    rw [Alphabet.meaning_of_startsName hc, wordMeaning, hk]
    rfl
  word := fun _ => hc
  number := fun h => by cases h
  sign := fun h => by cases h

theorem shape_integer (c : Char) (cs : List Char) (hd : ∀ d ∈ c :: cs, isDigit d = true)
    (hs : Nat.ofDigitChars 10 (c :: cs) 0 ≤ maxInteger) :
    (integer (c :: cs) (by simp) hd hs : Lexeme a).Shape c cs where
  chars := rfl
  head := isBlank_of_continuesName (a.continuesName_of_isDigit (hd c (by simp)))
  inside := fun d hm => hd d (List.mem_cons_of_mem c hm)
  munch := a.lexemeTail_of_isDigit (hd c (by simp))
  meaning := by
    rw [a.meaning_of_isDigit (hd c (by simp)), integerMeaning, if_pos hs]
    rfl
  word := fun h => by cases h
  number := fun _ => hd c (by simp)
  sign := fun _ h => by cases h

theorem shape_punctuation (p : Punctuation) : (punctuation p : Lexeme a).Shape p.char [] where
  chars := rfl
  head := p.isBlank_char
  inside := fun d hm => by cases hm
  munch := fun cs => by
    rw [Alphabet.lexemeTail_of_not_continuesName (p.continuesName_char a)]
    cases cs <;> rfl
  meaning := by
    rw [Alphabet.meaning_of_not_continuesName (p.continuesName_char a), signMeaning, p.ofChar?_char]
    rfl
  word := fun h => by cases h
  number := fun h => by cases h
  sign := fun _ _ => p.continuesName_char a

theorem exists_shape (x : Lexeme a) : ∃ c tail, x.Shape c tail := by
  cases x with
  | keyword k => exact shape_keyword k
  | identifier c cs hc ht hk => exact ⟨c, cs, shape_identifier c cs hc ht hk⟩
  | integer digits hne hd hs =>
    cases digits with
    | nil => exact absurd rfl hne
    | cons c cs => exact ⟨c, cs, shape_integer c cs hd hs⟩
  | punctuation p => exact ⟨p.char, [], shape_punctuation p⟩

section Heads
variable {y : Lexeme a} {c : Char} {tail : List Char}

theorem continuesName_head (h : y.Shape c tail) :
    a.continuesName c = (y.isWord || y.isNumber) := by
  cases hw : y.isWord with
  | true => exact Alphabet.continuesName_of_startsName (h.word hw)
  | false =>
    cases hn : y.isNumber with
    | true => exact a.continuesName_of_isDigit (h.number hn)
    | false => exact h.sign hw hn

theorem isDigit_head (h : y.Shape c tail) : isDigit c = y.isNumber := by
  cases hn : y.isNumber with
  | true => exact h.number hn
  | false =>
    cases hw : y.isWord with
    | true => exact Alphabet.isDigit_of_startsName (h.word hw)
    | false => exact Alphabet.isDigit_of_not_continuesName (h.sign hw hn)

/-- A lexeme takes up the head of another one exactly if a blank is needed between them. -/
theorem goesOn_head (x : Lexeme a) (h : y.Shape c tail) : x.goesOn c = x.mustPart y := by
  cases x with
  | keyword k => exact (continuesName_head h).trans (by simp [mustPart, isWord, isNumber])
  | identifier d ds hd ht hk =>
    exact (continuesName_head h).trans (by simp [mustPart, isWord, isNumber])
  | integer digits hne hd hs => exact (isDigit_head h).trans (by simp [mustPart, isWord, isNumber])
  | punctuation p => rfl

theorem head_ne_byteOrderMark (h : y.Shape c tail) : c ≠ byteOrderMark := by
  rintro rfl
  have hm := h.meaning
  have hs : signMeaning byteOrderMark = .error .invalidInput := by decide
  rw [Alphabet.meaning_of_not_continuesName (continuesName_byteOrderMark a), hs] at hm
  cases hm

end Heads

theorem goesOn_of_isBlank (x : Lexeme a) {d : Char} (h : isBlank d = true) :
    x.goesOn d = false := by
  cases x with
  | keyword k => exact continuesName_of_isBlank a h
  | identifier c cs hc ht hk => exact continuesName_of_isBlank a h
  | integer digits hne hd hs => exact isDigit_of_isBlank h
  | punctuation p => rfl

end Lexeme

/-! ## Reading a script -/

namespace Script
variable {a : Alphabet} {x : Lexeme a} {c : Char} {tail : List Char}

theorem textOf_cons (h : x.Shape c tail) (gap : Gap) (items : List (Lexeme a × Gap)) :
    textOf ((x, gap) :: items) = c :: tail ++ (gap.val ++ textOf items) := by
  rw [textOf, h.chars]

theorem stops_iff (x : Lexeme a) (gap : Gap) (items : List (Lexeme a × Gap)) :
    (∀ d ∈ (gap.val ++ textOf items).head?, x.goesOn d = false) ↔
      ∀ y ∈ items.head?, x.mustPart y.1 = true → gap.val ≠ [] := by
  obtain ⟨gap, hg⟩ := gap
  cases gap with
  | cons d gap =>
    have hd := x.goesOn_of_isBlank (hg d (by simp))
    simp [hd]
  | nil =>
    cases items with
    | nil => simp [textOf]
    | cons y items =>
      obtain ⟨y, g⟩ := y
      obtain ⟨c, tail, hy⟩ := y.exists_shape
      have hc := Lexeme.goesOn_head x hy
      rw [List.nil_append, textOf_cons hy]
      simp [hc]

theorem extra_of_pulled {p : Position} {extra : List Char} {m : Except Fault.Cause (Kind × Value)}
    (h : x.Shape c tail)
    (he : Lexer.pulled p (p.advanceBy (c :: (tail ++ extra))) m = .ok (x.token p)) :
    extra = [] := by
  obtain ⟨-, hstop⟩ := Lexer.ends_of_pulled he
  have hoff := congrArg Position.offset hstop
  have htoken : (x.token p).stop = p.advanceBy (c :: tail) := by rw [← h.chars]; rfl
  rw [htoken, Position.advanceBy_offset, Position.advanceBy_offset, ← List.cons_append,
    Text.bytes_append] at hoff
  exact Text.bytes_eq_zero_iff.1 (by omega)

/-- A written lexeme is read together with what stands behind it and lengthens it. -/
theorem exists_atLexeme (h : x.Shape c tail) {i : Input} {gap more extra : List Char}
    (hr : i.opening.rest = gap ++ (c :: tail ++ more)) (hg : ∀ d ∈ gap, isBlank d = true)
    (he : more.takeWhile x.goesOn = extra) :
    ∃ rest, more = extra ++ rest ∧ Lexer.AtLexeme ⟨i, a⟩ gap c (tail ++ extra) rest := by
  obtain ⟨rest, hrest⟩ := List.takeWhile_prefix (l := more) x.goesOn
  rw [he] at hrest
  refine ⟨rest, hrest.symm, ?_, hg, h.head, ?_⟩
  · rw [hr, ← hrest, List.cons_append, List.cons_append, List.append_assoc]
  · rw [h.munch, List.append_assoc, hrest, List.takeWhile_append_of_pos h.inside, he]

/-- Behind the blanks `gap` a run gives the tokens of the lexemes exactly if these are parted. -/
theorem run_iff (items : List (Lexeme a × Gap)) {i : Input} {gap : List Char}
    (h : i.opening.rest = gap ++ textOf items) (hg : ∀ d ∈ gap, isBlank d = true) :
    Lexer.run ⟨i, a⟩ = (tokensOf (i.opening.here.advanceBy gap) items).map .ok ↔ Parted items := by
  induction items generalizing i gap with
  | nil =>
    have hn : Lexer.AtEnd ⟨i, a⟩ gap := ⟨h.trans (List.append_nil gap), hg⟩
    rw [Lexer.run_of_end hn.isEnd, hn.result]
    exact ⟨fun _ => trivial, fun _ => rfl⟩
  | cons item items ih =>
    obtain ⟨x, g⟩ := item
    obtain ⟨c, tail, hx⟩ := x.exists_shape
    rw [textOf_cons hx] at h
    generalize hextra : (g.val ++ textOf items).takeWhile x.goesOn = extra
    obtain ⟨rest, hrest, hn⟩ := exists_atLexeme hx h hg hextra
    have hparted : extra = [] ↔ ∀ y ∈ items.head?, x.mustPart y.1 = true → g.val ≠ [] := by
      rw [← stops_iff, ← hextra]
      exact takeWhile_eq_nil_iff_stop
    rw [Lexer.run_of_not_end hn.isEnd, tokensOf, List.map_cons, List.cons.injEq, Parted, ← hparted,
      hn.result]
    -- The first token is the written one exactly if nothing lengthens its lexeme.
    by_cases hnil : extra = []
    · subst hnil
      rw [List.append_nil] at hn ⊢
      have hafter : (Lexer.next ⟨i, a⟩).2 = ⟨(Lexer.next ⟨i, a⟩).2.input, a⟩ :=
        congrArg (Lexer.mk _) (Lexer.next_alphabet ⟨i, a⟩)
      have hmore := ih (i := (Lexer.next ⟨i, a⟩).2.input)
        (by rw [Lexer.next_opening, hn.rest_eq, hrest, List.nil_append]) g.property
      rw [Lexer.next_opening, hn.here, ← hx.chars] at hmore
      rw [hx.meaning, ← hx.chars, hafter, hmore]
      exact ⟨fun hp => ⟨rfl, hp.2⟩, fun hp => ⟨rfl, hp.2⟩⟩
    · exact ⟨fun hp => absurd (extra_of_pulled hx hp.1) hnil, fun hp => absurd hp.1 hnil⟩

/-! ## Whole scripts -/

theorem head_textOf_ne_byteOrderMark (w : Script a) :
    (w.lead.val ++ textOf w.items).head? ≠ some byteOrderMark := by
  obtain ⟨⟨gap, hg⟩, items⟩ := w
  intro hm
  cases gap with
  | cons d gap =>
    cases hm
    have hb := hg byteOrderMark (by simp)
    rw [isBlank_byteOrderMark] at hb
    cases hb
  | nil =>
    cases items with
    | nil => cases hm
    | cons item items =>
      obtain ⟨x, g⟩ := item
      obtain ⟨c, tail, hx⟩ := x.exists_shape
      rw [List.nil_append, textOf_cons hx] at hm
      cases hm
      exact Lexeme.head_ne_byteOrderMark hx rfl

theorem markOf_text (w : Script a) : Text.markOf w.text = [] := by
  apply Text.markOf_eq_nil
  unfold text
  rw [String.toList_ofList]
  exact w.head_textOf_ne_byteOrderMark

theorem lexemes_of_tokensOf (items : List (Lexeme a × Gap)) {s : String} {before : List Char}
    {p : Position} (hs : s.toList = before ++ textOf items) (hp : p.offset = bytes before) :
    (tokensOf p items).mapM (Token.lexeme? s) = some (items.map (·.1.chars) ++ [[]]) := by
  induction items generalizing before p with
  | nil =>
    have hend : (Token.endAt p).lexeme? s = some [] := by
      have hslice := Text.slice?_append before [] []
      unfold Token.lexeme?
      rw [hs]
      show slice? (before ++ []) p.offset p.offset = some []
      rw [hp]
      exact hslice
    rw [tokensOf, List.mapM_cons, hend]
    rfl
  | cons item items ih =>
    obtain ⟨x, gap⟩ := item
    have hx : (x.token p).lexeme? s = some x.chars := by
      unfold Token.lexeme?
      rw [hs, textOf]
      show slice? _ p.offset (p.advanceBy x.chars).offset = some x.chars
      rw [Position.advanceBy_offset, hp]
      exact Text.slice?_append before x.chars _
    have hs' : s.toList = (before ++ x.chars ++ gap.val) ++ textOf items := by
      rw [hs, textOf, List.append_assoc, List.append_assoc]
    have hp' : ((p.advanceBy x.chars).advanceBy gap.val).offset =
        bytes (before ++ x.chars ++ gap.val) := by
      rw [Position.advanceBy_offset, Position.advanceBy_offset, hp, Text.bytes_append,
        Text.bytes_append]
    rw [tokensOf, List.mapM_cons, hx, ih hs' hp']
    rfl

theorem getLast?_tokensOf (items : List (Lexeme a × Gap)) (p : Position) :
    (tokensOf p items).getLast? = some (.endAt (p.advanceBy (textOf items))) := by
  induction items generalizing p with
  | nil => rfl
  | cons item items ih =>
    obtain ⟨x, gap⟩ := item
    rw [tokensOf, List.getLast?_cons, ih, textOf, Position.advanceBy_append,
      Position.advanceBy_append]
    rfl

end Script

/-- **What is written is read.** The tokens of a script are found in its text, each with its kind,
its value and its place, exactly if the script has blanks where they are needed. The places are those
of the lexemes, and the last token stands at the end of the text. -/
theorem Script.tokens_text_iff {a : Alphabet} (w : Script a) :
    ((Lexer.ofString w.text a).tokens.1 = .ok w.tokens.toArray ↔ Parted w.items) ∧
    w.tokens.mapM (Token.lexeme? w.text) = some (w.items.map (·.1.chars) ++ [[]]) ∧
    w.tokens.getLast? = some (.endAt (Position.start.advanceBy w.text.toList)) := by
  have htext : w.text.toList = w.lead.val ++ textOf w.items := String.toList_ofList
  refine ⟨?_, ?_, ?_⟩
  · obtain ⟨hs, hrest⟩ := Input.stands_opening_ofString w.text
    have hbody : Text.body w.text = w.lead.val ++ textOf w.items := by
      rw [Text.body, markOf_text, htext]
      rfl
    have hhere : (Input.ofString w.text).opening.here = .start := by
      rw [hs.here, markOf_text]
      rfl
    have hrun := run_iff w.items (hrest.trans hbody) w.lead.property
    rw [hhere] at hrun
    rw [Lexer.tokens_eq_ok_iff, ← hrun]
    rfl
  · refine lexemes_of_tokensOf w.items htext ?_
    rw [Position.advanceBy_offset]
    exact Nat.zero_add _
  · rw [tokens, getLast?_tokensOf, htext, Position.advanceBy_append]

end PLZero
