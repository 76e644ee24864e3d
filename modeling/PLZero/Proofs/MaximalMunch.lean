import PLZero.Proofs.Scanner

/-! Maximal munch. Where a text is left, a pull takes the longest row of blanks, and behind it the
longest lexeme of the sort that the next character tells.

* `IsLongest` is the longest beginning of a text in a class of characters.
* `Alphabet.Munch` says what lexeme is at the head of a text, and what it means; there is one rule
  for each sort. By `Alphabet.munch_iff` exactly one rule applies, unless nothing is left.
* `Kind.Fits` relates the kinds of tokens to their values.
* `Lexer.next_maximal_munch` puts this together for every state that a history can lead to. -/
namespace PLZero
set_option autoImplicit false

/-! ## Longest beginnings -/

/-- `cs` is a beginning of `body` in the class `p`, and there is no longer one. -/
structure IsLongest (p : Char → Bool) (cs body : List Char) : Prop where
  begins : cs <+: body
  inside : ∀ c ∈ cs, p c = true
  longest : ∀ ds, ds <+: body → (∀ d ∈ ds, p d = true) → ds.length ≤ cs.length

theorem isLongest_iff {p : Char → Bool} {cs body : List Char} :
    IsLongest p cs body ↔ cs = body.takeWhile p := by
  have htake : ∀ {ds}, ds <+: body → (∀ d ∈ ds, p d = true) → ds <+: body.takeWhile p := by
    rintro ds ⟨rest, rfl⟩ hds
    rw [List.takeWhile_append_of_pos hds]
    exact List.prefix_append _ _
  constructor
  · rintro ⟨hbegins, hinside, hlongest⟩
    have hle := hlongest (body.takeWhile p) (List.takeWhile_prefix p)
      fun _ hd => List.mem_takeWhile_imp hd
    exact (htake hbegins hinside).eq_of_length_le hle
  · rintro rfl
    exact ⟨List.takeWhile_prefix p, fun _ hc => List.mem_takeWhile_imp hc,
      fun ds hds hd => (htake hds hd).length_le⟩

/-! ## What is at the head of a text -/

theorem Keyword.ofSpelling?_eq_some_iff {s : String} {k : Keyword} :
    ofSpelling? s = some k ↔ s = k.spelling := by
  constructor
  · intro h
    have hk := List.find?_some h
    exact (beq_iff_eq.1 hk).symm
  · rintro rfl
    exact k.ofSpelling?_spelling

theorem Punctuation.ofChar?_eq_some_iff {c : Char} {p : Punctuation} :
    ofChar? c = some p ↔ c = p.char := by
  constructor
  · intro h
    have hp := List.find?_some h
    exact (beq_iff_eq.1 hp).symm
  · rintro rfl
    exact p.ofChar?_char

namespace Alphabet

/-- The lexeme at the head of `body`, and what it means: a run of digits, a run of name characters,
or else a single character. -/
inductive Munch (a : Alphabet) (body : List Char) :
    List Char → Except Fault.Cause (Kind × Value) → Prop
  | integer {c : Char} {digits : List Char} (head : c ∈ body.head?) (digit : isDigit c = true)
      (longest : IsLongest isDigit digits body)
      (small : Nat.ofDigitChars 10 digits 0 ≤ maxInteger) :
      Munch a body digits (.ok (.unsignedInteger, .integer (Nat.ofDigitChars 10 digits 0)))
  | tooLarge {c : Char} {digits : List Char} (head : c ∈ body.head?) (digit : isDigit c = true)
      (longest : IsLongest isDigit digits body)
      (large : maxInteger < Nat.ofDigitChars 10 digits 0) :
      Munch a body digits (.error .integerOverflow)
  | keyword {c : Char} {k : Keyword} (head : c ∈ body.head?) (start : a.startsName c = true)
      (longest : IsLongest a.continuesName k.spelling.toList body) :
      Munch a body k.spelling.toList (.ok (.keyword k, .text k.spelling))
  | identifier {c : Char} {word : String} (head : c ∈ body.head?) (start : a.startsName c = true)
      (longest : IsLongest a.continuesName word.toList body)
      (noKeyword : ∀ k : Keyword, word ≠ k.spelling) :
      Munch a body word.toList (.ok (.identifier, .text word))
  | sign {p : Punctuation} {rest : List Char} (cut : body = p.char :: rest) :
      Munch a body [p.char] (.ok (.punctuation p, .char p.char))
  | invalid {c : Char} {rest : List Char} (cut : body = c :: rest) (digit : isDigit c = false)
      (start : a.startsName c = false) (noSign : ∀ p : Punctuation, c ≠ p.char) :
      Munch a body [c] (.error .invalidInput)

variable {a : Alphabet} {body lexeme : List Char} {m : Except Fault.Cause (Kind × Value)}

theorem munch_word {c : Char} {word : List Char} (hc : c ∈ body.head?) (hs : a.startsName c = true)
    (hlongest : IsLongest a.continuesName word body) :
    a.Munch body word (.ok (wordMeaning word)) := by
  obtain ⟨s, rfl⟩ : ∃ s : String, word = s.toList := ⟨_, String.toList_ofList.symm⟩
  rw [wordMeaning, String.ofList_toList]
  cases hk : Keyword.ofSpelling? s with
  | some k =>
    obtain rfl := Keyword.ofSpelling?_eq_some_iff.1 hk
    exact .keyword hc hs hlongest
  | none =>
    refine .identifier hc hs hlongest fun k hw => ?_
    rw [Keyword.ofSpelling?_eq_some_iff.2 hw] at hk
    cases hk

theorem munch_of_cons (a : Alphabet) (c : Char) (cs : List Char) :
    a.Munch (c :: cs) (c :: a.lexemeTail c cs) (a.meaning c (a.lexemeTail c cs)) := by
  have hrow : ∀ {p : Char → Bool}, p c = true → IsLongest p (c :: cs.takeWhile p) (c :: cs) :=
    fun hp => isLongest_iff.2 (List.takeWhile_cons_of_pos hp).symm
  rcases a.first_cases c with hd | hs | hn
  · rw [a.lexemeTail_of_isDigit hd, a.meaning_of_isDigit hd, integerMeaning]
    split
    · next hsmall => exact .integer rfl hd (hrow hd) hsmall
    · next hlarge => exact .tooLarge rfl hd (hrow hd) (Nat.not_le.1 hlarge)
  · rw [lexemeTail_of_startsName hs, meaning_of_startsName hs]
    exact munch_word rfl hs (hrow (continuesName_of_startsName hs))
  · rw [lexemeTail_of_not_continuesName hn, meaning_of_not_continuesName hn, signMeaning]
    rw [continuesName_eq, Bool.or_eq_false_iff] at hn
    cases hp : Punctuation.ofChar? c with
    | some p =>
      obtain rfl := Punctuation.ofChar?_eq_some_iff.1 hp
      exact .sign rfl
    | none =>
      refine .invalid rfl hn.2 hn.1 fun p hc => ?_
      rw [Punctuation.ofChar?_eq_some_iff.2 hc] at hp
      cases hp

theorem cons_of_munch (h : a.Munch body lexeme m) :
    ∃ c cs, body = c :: cs ∧ lexeme = c :: a.lexemeTail c cs ∧
      m = a.meaning c (a.lexemeTail c cs) := by
  have hbody : ∃ c cs, body = c :: cs := by
    cases body with
    | cons c cs => exact ⟨c, cs, rfl⟩
    | nil => cases h <;> contradiction
  obtain ⟨c, cs, rfl⟩ := hbody
  have hrow : ∀ {p : Char → Bool} {lexeme : List Char}, p c = true →
      IsLongest p lexeme (c :: cs) → lexeme = c :: cs.takeWhile p := by
    intro p lexeme hp hlongest
    rw [isLongest_iff.1 hlongest, List.takeWhile_cons_of_pos hp]
  refine ⟨c, cs, rfl, ?_⟩
  cases h with
  | integer hc hd hlongest hsmall =>
    cases hc
    rw [a.lexemeTail_of_isDigit hd, a.meaning_of_isDigit hd, ← hrow hd hlongest, integerMeaning,
      if_pos hsmall]
    exact ⟨rfl, rfl⟩
  | tooLarge hc hd hlongest hlarge =>
    cases hc
    rw [a.lexemeTail_of_isDigit hd, a.meaning_of_isDigit hd, ← hrow hd hlongest, integerMeaning,
      if_neg (Nat.not_le.2 hlarge)]
    exact ⟨rfl, rfl⟩
  | @keyword _ k hc hs hlongest =>
    cases hc
    rw [lexemeTail_of_startsName hs, meaning_of_startsName hs,
      ← hrow (continuesName_of_startsName hs) hlongest, wordMeaning, String.ofList_toList,
      k.ofSpelling?_spelling]
    exact ⟨rfl, rfl⟩
  | @identifier _ word hc hs hlongest hword =>
    cases hc
    have hnone : Keyword.ofSpelling? word = none :=
      Option.eq_none_iff_forall_ne_some.2 fun k hk =>
        hword k (Keyword.ofSpelling?_eq_some_iff.1 hk)
    rw [lexemeTail_of_startsName hs, meaning_of_startsName hs,
      ← hrow (continuesName_of_startsName hs) hlongest, wordMeaning, String.ofList_toList, hnone]
    exact ⟨rfl, rfl⟩
  | @sign p rest hcut =>
    cases hcut
    have hn := Punctuation.continuesName_char a p
    rw [lexemeTail_of_not_continuesName hn, meaning_of_not_continuesName hn, signMeaning,
      p.ofChar?_char]
    exact ⟨rfl, rfl⟩
  | @invalid _ rest hcut hd hs hsign =>
    cases hcut
    have hn : a.continuesName c = false := by rw [continuesName_eq, hs, hd]; rfl
    have hnone : Punctuation.ofChar? c = none :=
      Option.eq_none_iff_forall_ne_some.2 fun p hp =>
        hsign p (Punctuation.ofChar?_eq_some_iff.1 hp)
    rw [lexemeTail_of_not_continuesName hn, meaning_of_not_continuesName hn, signMeaning, hnone]
    exact ⟨rfl, rfl⟩

/-- What is at the head of a text is what a pull finds there. -/
theorem munch_iff : a.Munch body lexeme m ↔
    ∃ c cs, body = c :: cs ∧ lexeme = c :: a.lexemeTail c cs ∧
      m = a.meaning c (a.lexemeTail c cs) := by
  constructor
  · exact cons_of_munch
  · rintro ⟨c, cs, rfl, rfl, rfl⟩
    exact a.munch_of_cons c cs

theorem exists_munch (a : Alphabet) (h : body ≠ []) : ∃ lexeme m, a.Munch body lexeme m := by
  obtain ⟨c, cs, rfl⟩ := List.exists_cons_of_ne_nil h
  exact ⟨_, _, a.munch_of_cons c cs⟩

end Alphabet

/-! ## Values -/

/-- Which values a kind of tokens may carry. -/
inductive Kind.Fits : Kind → Value → Prop
  | endOfText : Fits .endOfText .none
  | unsignedInteger {n : Nat} (small : n ≤ maxInteger) : Fits .unsignedInteger (.integer n)
  | identifier {word : String} (noKeyword : ∀ k : Keyword, word ≠ k.spelling) :
      Fits .identifier (.text word)
  | keyword {k : Keyword} : Fits (.keyword k) (.text k.spelling)
  | punctuation {p : Punctuation} : Fits (.punctuation p) (.char p.char)

theorem Alphabet.Munch.fits {a : Alphabet} {body lexeme : List Char} {kind : Kind} {value : Value}
    (h : a.Munch body lexeme (.ok (kind, value))) : kind.Fits value := by
  cases h with
  | integer _ _ _ hsmall => exact .unsignedInteger hsmall
  | keyword _ _ _ => exact .keyword
  | identifier _ _ _ hword => exact .identifier hword
  | sign _ => exact .punctuation

/-! ## Pulls -/

namespace Lexer
variable {l : Lexer} {s : String} {mark read gap tail rest body lexeme : List Char} {c : Char}
  {m : Except Fault.Cause (Kind × Value)}

/-- The pull over the text `s` takes the lexeme off `body`, which begins at `start`, and leaves what
is behind it, whether or not the lexeme means a token. The bytes between the ends of the lexeme are
the lexeme. -/
structure Takes (l : Lexer) (s : String) (start : Position) (body lexeme : List Char)
    (m : Except Fault.Cause (Kind × Value)) : Prop where
  result : l.next.1 = pulled start (start.advanceBy lexeme) m
  here : l.next.2.input.here = start.advanceBy lexeme
  left : body = lexeme ++ l.next.2.input.remaining.toList
  slice : Text.between? s start.offset (start.advanceBy lexeme).offset =
    some (String.ofList lexeme)

/-- The pull finds nothing left, at the end `start` of the text `s`. -/
structure TakesNothing (l : Lexer) (s : String) (start : Position) : Prop where
  result : l.next.1 = .ok (.endAt start)
  here : l.next.2.input.here = start
  left : l.next.2.input.remaining = ""
  offset : start.offset = s.utf8ByteSize

theorem AtEnd.takesNothing (h : l.AtEnd gap) (hi : l.input.opening.Stands s mark read) :
    l.TakesNothing s ((Position.behind mark).advanceBy (read ++ gap)) where
  result := by rw [h.result, hi.here, Position.advanceBy_append]
  here := by rw [h.here, hi.here, Position.advanceBy_append]
  left := by rw [Input.remaining, h.rest_eq, String.ofList_nil]
  offset := by
    rw [Position.advanceBy_offset, Text.utf8ByteSize_eq_bytes, hi.cut, h.text, List.append_assoc,
      Text.bytes_append mark]
    rfl

theorem AtLexeme.takes (h : l.AtLexeme gap c tail rest)
    (hi : l.input.opening.Stands s mark read) :
    l.Takes s ((Position.behind mark).advanceBy (read ++ gap)) (c :: tail ++ rest) (c :: tail)
      (l.alphabet.meaning c tail) where
  result := by rw [h.result, hi.here, Position.advanceBy_append]
  here := by rw [h.here, hi.here, Position.advanceBy_append]
  left := by rw [Input.remaining_toList, h.rest_eq]
  slice := by
    have hstart := hi.advance gap.length
    rw [h.text, List.take_left] at hstart
    have hrest := Input.advance_rest_of_eq h.text
    rw [← hstart.here, Text.between?_eq, Position.advanceBy_offset, hstart.slice hrest]
    rfl

theorem AtLexeme.munch_iff (h : l.AtLexeme gap c tail rest) :
    l.alphabet.Munch (c :: tail ++ rest) lexeme m ↔
      lexeme = c :: tail ∧ m = l.alphabet.meaning c tail := by
  rw [List.cons_append, Alphabet.munch_iff]
  constructor
  · rintro ⟨_, _, hcut, rfl, rfl⟩
    cases hcut
    rw [h.munch]
    exact ⟨rfl, rfl⟩
  · rintro ⟨rfl, rfl⟩
    exact ⟨c, _, rfl, by rw [h.munch], by rw [h.munch]⟩

theorem fits_of_pulled {p q : Position} {t : Token} (hm : l.alphabet.Munch body lexeme m)
    (h : pulled p q m = .ok t) : t.kind.Fits t.value := by
  cases m with
  | ok k =>
    cases h
    exact hm.fits
  | error cause => cases h

/-- **A pull takes the longest lexeme there is.** Wherever a history has led, what is left behind
a byte order mark is the longest row of blanks and then `body`, which begins at `start`. If there is
nothing in it, the pull finds the end of the text. Otherwise there is a lexeme at its head by one of
the rules, the longest of its sort, and the pull takes it and stands behind it, be it a token or a
fault. A token carries a value that fits its kind. The scanner that goes over the bytes in loops
gives the same, and its cursor ends at the same place. -/
theorem next_maximal_munch (s : String) (acts : List Action) :
    let l := (ofString s default).performAll acts
    let mark := if (ofString s default).passedMark (acts ++ [.opening]) = true
      then [byteOrderMark] else []
    ∃ read gap body,
      let start := (Position.behind mark).advanceBy (read ++ gap)
      s.toList = mark ++ read ++ gap ++ body ∧
      l.input.opening.remaining.toList = gap ++ body ∧ IsLongest isBlank gap (gap ++ body) ∧
      (body = [] → l.TakesNothing s start) ∧
      (body ≠ [] → ∃ lexeme m, l.alphabet.Munch body lexeme m) ∧
      (∀ lexeme m, l.alphabet.Munch body lexeme m → l.Takes s start body lexeme m) ∧
      (∀ t, l.next.1 = .ok t → t.kind.Fits t.value) ∧
      l.input.cursor.scan? l.alphabet = some (l.next.1, l.next.2.input.cursor) := by
  intro l mark
  obtain ⟨_, hl⟩ := session_stands s default acts
  obtain ⟨read, hi⟩ := session_stands s default (acts ++ [.opening])
  rw [performAll, List.foldl_append] at hi
  have hopened : l.input.opening.Stands s mark read := hi
  rcases l.next_cases with h | ⟨gap, c, tail, rest, h⟩
  · have hgap : IsLongest isBlank l.input.opening.rest (l.input.opening.rest ++ []) :=
      isLongest_iff.2 (takeWhile_append_of_stop h.blank (by simp)).symm
    refine ⟨read, l.input.opening.rest, [], ?_, ?_, hgap, fun _ => h.takesNothing hopened,
      fun hne => absurd rfl hne, ?_, ?_, scan_eq hl⟩
    · rw [List.append_nil]
      exact hopened.cut
    · rw [Input.remaining_toList, List.append_nil]
    · intro lexeme m hm
      obtain ⟨_, _, hnil, -, -⟩ := Alphabet.cons_of_munch hm
      cases hnil
    · intro t ht
      rw [h.result] at ht
      cases ht
      exact .endOfText
  · have hgap : IsLongest isBlank gap (gap ++ (c :: tail ++ rest)) :=
      isLongest_iff.2 (takeWhile_append_of_stop h.blank (by simpa using h.head)).symm
    refine ⟨read, gap, c :: tail ++ rest, ?_, ?_, hgap,
      fun hnil => absurd hnil (List.cons_ne_nil _ _), l.alphabet.exists_munch, ?_, ?_, scan_eq hl⟩
    · rw [hopened.cut, h.text, List.append_assoc, List.append_assoc, List.append_assoc]
    · rw [Input.remaining_toList]
      exact h.text
    · intro lexeme m hm
      obtain ⟨rfl, rfl⟩ := h.munch_iff.1 hm
      exact h.takes hopened
    · intro t ht
      rw [h.result] at ht
      exact fits_of_pulled (h.munch_iff.2 ⟨rfl, rfl⟩) ht

end Lexer

end PLZero
