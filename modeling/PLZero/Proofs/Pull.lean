import Mathlib.Data.List.TakeWhile
import PLZero.Proofs.Classes

/-! What one pull does, told by the characters it reads. After the opening a text begins with
blanks, and then comes a lexeme or the end; a pull consumes the blanks and the lexeme.

* `Alphabet.first_cases`: there are three sorts of lexemes, told by their first character.
* `Lexer.AtEnd` and `Lexer.AtLexeme` say what is next; by `Lexer.next_cases` one of them holds.
* `Lexer.AtEnd.next_eq` and `Lexer.AtLexeme.next_eq` say what the pull does then.
* `Lexer.tokens_eq_collect`: `Lexer.tokens` gathers the pulls of `Lexer.run`. -/
namespace PLZero
set_option autoImplicit false

/-! ## Lexemes that end where their class ends -/

section MaximalMunch
variable {p : Char → Bool} {cs ds : List Char}

theorem takeWhile_append_of_stop (h : ∀ c ∈ cs, p c = true) (hs : ∀ d ∈ ds.head?, p d = false) :
    (cs ++ ds).takeWhile p = cs := by
  rw [List.takeWhile_append_of_pos h]
  cases ds with
  | nil => rw [List.takeWhile_nil, List.append_nil]
  | cons d ds =>
    have hd : p d = false := hs d rfl
    rw [List.takeWhile_cons_of_neg (ne_true_of_eq_false hd), List.append_nil]

theorem takeWhile_eq_nil_iff_stop : ds.takeWhile p = [] ↔ ∀ d ∈ ds.head?, p d = false := by
  cases ds with
  | nil => simp
  | cons d ds => simp [List.takeWhile_cons]

theorem stop_of_takeWhile_append (h : (cs ++ ds).takeWhile p = cs) :
    (∀ c ∈ cs, p c = true) ∧ ∀ d ∈ ds.head?, p d = false := by
  have hcs : ∀ c ∈ cs, p c = true := by
    intro c hc
    rw [← h] at hc
    exact List.mem_takeWhile_imp hc
  refine ⟨hcs, takeWhile_eq_nil_iff_stop.1 ?_⟩
  rw [List.takeWhile_append_of_pos hcs] at h
  exact List.append_right_eq_self.1 h

theorem stop_of_dropWhile (p : Char → Bool) (cs : List Char) :
    ∀ d ∈ (cs.dropWhile p).head?, p d = false := by
  intro d hd
  have h := List.head?_dropWhile_not p cs
  rw [Option.mem_def.1 hd] at h
  exact h

end MaximalMunch

/-! ## The three sorts of lexemes -/

namespace Alphabet
variable {a : Alphabet} {c : Char}

/-- A lexeme begins with a digit, with the start of a name, or with a character of no name. -/
theorem first_cases (a : Alphabet) (c : Char) :
    isDigit c = true ∨ a.startsName c = true ∨ a.continuesName c = false := by
  rw [continuesName_eq]
  cases isDigit c <;> cases a.startsName c <;> simp

theorem lexemeTail_of_isDigit (a : Alphabet) (h : isDigit c = true) (cs : List Char) :
    a.lexemeTail c cs = cs.takeWhile isDigit := by
  rw [lexemeTail, if_pos h]

theorem lexemeTail_of_startsName (h : a.startsName c = true) (cs : List Char) :
    a.lexemeTail c cs = cs.takeWhile a.continuesName := by
  rw [lexemeTail, if_neg (ne_true_of_eq_false (isDigit_of_startsName h)), if_pos h]

theorem lexemeTail_of_not_continuesName (h : a.continuesName c = false) (cs : List Char) :
    a.lexemeTail c cs = [] := by
  rw [continuesName_eq, Bool.or_eq_false_iff] at h
  rw [lexemeTail, if_neg (ne_true_of_eq_false h.2),
    if_neg (ne_true_of_eq_false h.1)]

theorem meaning_of_isDigit (a : Alphabet) (h : isDigit c = true) (tail : List Char) :
    a.meaning c tail = integerMeaning (c :: tail) := by
  rw [meaning, if_pos h]

theorem meaning_of_startsName (h : a.startsName c = true) (tail : List Char) :
    a.meaning c tail = .ok (wordMeaning (c :: tail)) := by
  rw [meaning, if_neg (ne_true_of_eq_false (isDigit_of_startsName h)), if_pos h]

theorem meaning_of_not_continuesName (h : a.continuesName c = false) (tail : List Char) :
    a.meaning c tail = signMeaning c := by
  rw [continuesName_eq, Bool.or_eq_false_iff] at h
  rw [meaning, if_neg (ne_true_of_eq_false h.2),
    if_neg (ne_true_of_eq_false h.1)]

end Alphabet

/-! ## Moving on in a text -/

namespace Input

theorem advance_add (m n : Nat) (i : Input) : i.advance (m + n) = (i.advance m).advance n := by
  induction m generalizing i with
  | zero => rw [Nat.zero_add]; rfl
  | succ m ih => rw [Nat.succ_add]; exact ih i.step

theorem advance_rest_of_eq {i : Input} {cs ds : List Char} (h : i.rest = cs ++ ds) :
    (i.advance cs.length).rest = ds := by
  rw [advance_rest, h, List.drop_left]

theorem advance_here_of_eq {i : Input} {cs ds : List Char} (h : i.rest = cs ++ ds) :
    (i.advance cs.length).here = i.here.advanceBy cs := by
  rw [advance_here, h, List.take_left]

/-- Whether `opening` passes over a byte order mark. -/
def passesMark (i : Input) : Bool :=
  !i.opened && i.here.offset == 0 && i.rest.head? == some byteOrderMark

theorem opening_of_opened {i : Input} (h : i.opened = true) : i.opening = i := by
  unfold opening
  rw [if_pos h]

@[simp] theorem opening_opened (i : Input) : i.opening.opened = true := by
  unfold opening
  split
  · assumption
  · split
    · split <;> rfl
    · rfl

@[simp] theorem opening_source (i : Input) : i.opening.source = i.source := by
  unfold opening
  split
  · rfl
  · split
    · split <;> rfl
    · rfl

theorem opening_of_passesMark {i : Input} (h : i.passesMark = true) :
    i.rest = byteOrderMark :: i.opening.rest ∧ i.opened = false ∧ i.here.offset = 0 ∧
      i.opening.here = { i.here with offset := byteOrderMark.utf8Size } := by
  simp only [passesMark, Bool.and_eq_true, Bool.not_eq_true', beq_iff_eq] at h
  obtain ⟨⟨ho, hz⟩, hm⟩ := h
  obtain ⟨cs, hcs⟩ := List.head?_eq_some_iff.1 hm
  unfold opening
  simp [ho, hz, hcs]

theorem opening_of_not_passesMark {i : Input} (h : i.passesMark = false) :
    i.opening = { i with opened := true } := by
  unfold opening
  split
  · next ho => cases i; simp_all
  · next ho =>
    split
    · next c cs hcs =>
      split
      · next hc => simp [passesMark, ho, hcs, hc] at h
      · rfl
    · rfl

theorem opening_here_le (i : Input) : i.here.offset ≤ i.opening.here.offset := by
  cases hm : i.passesMark with
  | false => rw [opening_of_not_passesMark hm]
  | true =>
    rw [(opening_of_passesMark hm).2.2.1]
    exact Nat.zero_le _

end Input

namespace Lexer

/-! ## What is next -/

/-- Nothing but the blanks `gap` is left. -/
structure AtEnd (l : Lexer) (gap : List Char) : Prop where
  text : l.input.opening.rest = gap
  blank : ∀ d ∈ gap, isBlank d = true

/-- Behind the blanks `gap` the lexeme `c :: tail` is next, and `rest` comes after it. -/
structure AtLexeme (l : Lexer) (gap : List Char) (c : Char) (tail rest : List Char) : Prop where
  text : l.input.opening.rest = gap ++ (c :: tail ++ rest)
  blank : ∀ d ∈ gap, isBlank d = true
  head : isBlank c = false
  munch : l.alphabet.lexemeTail c (tail ++ rest) = tail

theorem exists_lexemeTail (a : Alphabet) (c : Char) (cs : List Char) :
    ∃ rest, cs = a.lexemeTail c cs ++ rest ∧
      a.lexemeTail c (a.lexemeTail c cs ++ rest) = a.lexemeTail c cs := by
  have h : a.lexemeTail c cs <+: cs := by
    rcases a.first_cases c with hd | hs | hn
    · rw [a.lexemeTail_of_isDigit hd]
      exact List.takeWhile_prefix _
    · rw [Alphabet.lexemeTail_of_startsName hs]
      exact List.takeWhile_prefix _
    · rw [Alphabet.lexemeTail_of_not_continuesName hn]
      exact List.nil_prefix
  obtain ⟨rest, hrest⟩ := h
  exact ⟨rest, hrest.symm, by rw [hrest]⟩

theorem next_cases (l : Lexer) :
    l.AtEnd l.input.opening.rest ∨ ∃ gap c tail rest, l.AtLexeme gap c tail rest := by
  have hcut := List.takeWhile_append_dropWhile (p := isBlank) (l := l.input.opening.rest)
  have hstop := stop_of_dropWhile isBlank l.input.opening.rest
  cases hd : l.input.opening.rest.dropWhile isBlank with
  | nil => exact .inl ⟨rfl, List.dropWhile_eq_nil_iff.1 hd⟩
  | cons c cs =>
    rw [hd] at hcut hstop
    obtain ⟨rest, hrest, htail⟩ := exists_lexemeTail l.alphabet c cs
    refine .inr ⟨l.input.opening.rest.takeWhile isBlank, c, l.alphabet.lexemeTail c cs, rest, ?_,
      fun d hd => List.mem_takeWhile_imp hd, hstop c rfl, htail⟩
    rw [List.cons_append, ← hrest, hcut]

theorem ahead_eq {l : Lexer} {gap rest : List Char} (h : l.input.opening.rest = gap ++ rest)
    (hg : ∀ d ∈ gap, isBlank d = true) (hr : ∀ d ∈ rest.head?, isBlank d = false) :
    l.ahead = l.input.opening.advance gap.length := by
  unfold ahead Input.skipWhile
  rw [h, takeWhile_append_of_stop hg hr]

/-! ## The pull of the end -/

namespace AtEnd
variable {l : Lexer} {gap : List Char}

theorem text_append (h : l.AtEnd gap) : l.input.opening.rest = gap ++ [] := by
  rw [h.text, List.append_nil]

theorem next_eq (h : l.AtEnd gap) :
    l.next = (.ok (.endAt (l.input.opening.here.advanceBy gap)),
      { l with input := l.input.opening.advance gap.length }) := by
  have ha := ahead_eq h.text_append h.blank (by intro d hd; cases hd)
  have hr := Input.advance_rest_of_eq h.text_append
  have hp := Input.advance_here_of_eq h.text_append
  rw [← ha] at hr hp
  unfold next
  simp only [hr]
  rw [hp, ha]

theorem result (h : l.AtEnd gap) :
    l.next.1 = .ok (.endAt (l.input.opening.here.advanceBy gap)) := congrArg Prod.fst h.next_eq

theorem input (h : l.AtEnd gap) : l.next.2.input = l.input.opening.advance gap.length :=
  congrArg (·.2.input) h.next_eq

theorem rest_eq (h : l.AtEnd gap) : l.next.2.input.rest = [] := by
  rw [h.input, Input.advance_rest_of_eq h.text_append]

theorem here (h : l.AtEnd gap) :
    l.next.2.input.here = l.input.opening.here.advanceBy gap := by
  rw [h.input, Input.advance_here_of_eq h.text_append]

theorem isEnd (h : l.AtEnd gap) : isEnd l.next.1 = true := by
  rw [h.result]
  rfl

end AtEnd

/-! ## The pull of a lexeme -/

theorem continuesName_of_mem_lexemeTail {a : Alphabet} {c d : Char} {cs : List Char}
    (h : d ∈ a.lexemeTail c cs) : a.continuesName d = true := by
  rcases a.first_cases c with hd | hs | hn
  · rw [a.lexemeTail_of_isDigit hd] at h
    exact a.continuesName_of_isDigit (List.mem_takeWhile_imp h)
  · rw [Alphabet.lexemeTail_of_startsName hs] at h
    exact List.mem_takeWhile_imp h
  · rw [Alphabet.lexemeTail_of_not_continuesName hn] at h
    cases h

theorem isBlank_of_mem_lexemeTail {a : Alphabet} {c d : Char} {cs : List Char}
    (h : d ∈ a.lexemeTail c cs) : isBlank d = false :=
  isBlank_of_continuesName (continuesName_of_mem_lexemeTail h)

theorem isEnd_pulled (a : Alphabet) (c : Char) (tail : List Char) (p q : Position) :
    isEnd (pulled p q (a.meaning c tail)) = false := by
  rcases a.first_cases c with hd | hs | hn
  · rw [a.meaning_of_isDigit hd, integerMeaning]
    split <;> rfl
  · rw [Alphabet.meaning_of_startsName hs, wordMeaning]
    split <;> rfl
  · rw [Alphabet.meaning_of_not_continuesName hn, signMeaning]
    split <;> rfl

theorem ends_of_pulled {p q : Position} {m : Except Fault.Cause (Kind × Value)} {t : Token}
    (h : pulled p q m = .ok t) : t.start = p ∧ t.stop = q := by
  cases m with
  | ok k => cases h; exact ⟨rfl, rfl⟩
  | error c => cases h

namespace AtLexeme
variable {l : Lexer} {gap tail rest : List Char} {c : Char}

theorem text_append (h : l.AtLexeme gap c tail rest) :
    l.input.opening.rest = (gap ++ c :: tail) ++ rest := by
  rw [h.text, List.append_assoc]

theorem next_eq (h : l.AtLexeme gap c tail rest) :
    l.next =
      (pulled (l.input.opening.here.advanceBy gap)
        ((l.input.opening.here.advanceBy gap).advanceBy (c :: tail)) (l.alphabet.meaning c tail),
      { l with input := l.input.opening.advance (gap ++ c :: tail).length }) := by
  have ha := ahead_eq h.text h.blank (by intro d hd; cases hd; exact h.head)
  have hr := Input.advance_rest_of_eq h.text
  have hp := Input.advance_here_of_eq h.text
  have hs := Input.advance_here_of_eq h.text_append
  have hn : (gap ++ c :: tail).length = gap.length + (tail.length + 1) := by simp
  rw [hn, Input.advance_add] at hs
  rw [← ha] at hr hp hs
  rw [List.cons_append] at hr
  unfold next
  simp only [hr, h.munch]
  rw [hp, hs, hn, Input.advance_add gap.length, ← ha, Position.advanceBy_append]

theorem result (h : l.AtLexeme gap c tail rest) :
    l.next.1 = pulled (l.input.opening.here.advanceBy gap)
      ((l.input.opening.here.advanceBy gap).advanceBy (c :: tail)) (l.alphabet.meaning c tail) :=
  congrArg Prod.fst h.next_eq

theorem input (h : l.AtLexeme gap c tail rest) :
    l.next.2.input = l.input.opening.advance (gap ++ c :: tail).length :=
  congrArg (·.2.input) h.next_eq

theorem rest_eq (h : l.AtLexeme gap c tail rest) : l.next.2.input.rest = rest := by
  rw [h.input, Input.advance_rest_of_eq h.text_append]

theorem here (h : l.AtLexeme gap c tail rest) :
    l.next.2.input.here = (l.input.opening.here.advanceBy gap).advanceBy (c :: tail) := by
  rw [h.input, Input.advance_here_of_eq h.text_append, Position.advanceBy_append]

theorem isEnd (h : l.AtLexeme gap c tail rest) : isEnd l.next.1 = false := by
  rw [h.result]
  exact isEnd_pulled _ c tail _ _

theorem lexeme (h : l.AtLexeme gap c tail rest) : ∀ d ∈ c :: tail, isBlank d = false := by
  intro d hd
  rcases List.mem_cons.1 hd with rfl | hd
  · exact h.head
  · rw [← h.munch] at hd
    exact isBlank_of_mem_lexemeTail hd

end AtLexeme

/-! ## What a pull keeps -/

@[simp] theorem next_alphabet (l : Lexer) : l.next.2.alphabet = l.alphabet := by
  unfold next
  dsimp only
  split <;> rfl

@[simp] theorem next_opened (l : Lexer) : l.next.2.input.opened = true := by
  rcases l.next_cases with h | ⟨gap, c, tail, rest, h⟩
  · rw [h.input, Input.advance_opened, Input.opening_opened]
  · rw [h.input, Input.advance_opened, Input.opening_opened]

@[simp] theorem next_opening (l : Lexer) : l.next.2.input.opening = l.next.2.input :=
  Input.opening_of_opened l.next_opened

theorem next_of_opening (l : Lexer) : next { l with input := l.input.opening } = l.next := by
  have ha : ahead { l with input := l.input.opening } = l.ahead := by
    unfold ahead
    rw [Input.opening_of_opened l.input.opening_opened]
  unfold next
  rw [ha]

/-! ## Runs as lists of pulls -/

theorem run_ne_nil (l : Lexer) : l.run ≠ [] := by
  rw [run]
  split <;> simp

theorem run_of_end {l : Lexer} (h : isEnd l.next.1 = true) : l.run = [l.next.1] := by
  rw [run, dif_pos h]

theorem run_of_not_end {l : Lexer} (h : isEnd l.next.1 = false) :
    l.run = l.next.1 :: l.next.2.run := by
  rw [run, dif_neg (ne_true_of_eq_false h)]

theorem run_of_opening (l : Lexer) : run { l with input := l.input.opening } = l.run := by
  have hn := l.next_of_opening
  cases he : isEnd l.next.1 with
  | true => rw [run_of_end he, run_of_end (by rw [hn]; exact he), hn]
  | false => rw [run_of_not_end he, run_of_not_end (by rw [hn]; exact he), hn]

/-- The tokens among the pulls, or the first fault. -/
def collect : List Pulled → Except Fault (List Token)
  | [] => .ok []
  | .ok t :: rs => (collect rs).map (t :: ·)
  | .error f :: _ => .error f

def faults : List Pulled → List Fault
  | [] => []
  | .ok _ :: rs => faults rs
  | .error f :: rs => f :: faults rs

theorem mem_of_mem_faults {rs : List Pulled} {f : Fault} (h : f ∈ faults rs) : .error f ∈ rs := by
  induction rs with
  | nil => cases h
  | cons r rs ih =>
    cases r with
    | ok t => exact List.mem_cons_of_mem _ (ih h)
    | error g =>
      rcases List.mem_cons.1 h with rfl | h
      · exact List.mem_cons_self
      · exact List.mem_cons_of_mem _ (ih h)

theorem collect_map_ok (ts : List Token) : collect (ts.map .ok) = .ok ts := by
  induction ts with
  | nil => rfl
  | cons t ts ih => rw [List.map_cons, collect, ih]; rfl

theorem eq_map_ok_of_collect {rs : List Pulled} {ts : List Token} (h : collect rs = .ok ts) :
    rs = ts.map .ok := by
  induction rs generalizing ts with
  | nil => cases h; rfl
  | cons r rs ih =>
    cases r with
    | error f => cases h
    | ok t =>
      rw [collect] at h
      cases hc : collect rs with
      | error f => rw [hc] at h; cases h
      | ok us => rw [hc] at h; cases h; rw [ih hc, List.map_cons]

theorem collect_eq_ok_iff {rs : List Pulled} {ts : List Token} :
    collect rs = .ok ts ↔ rs = ts.map .ok :=
  ⟨eq_map_ok_of_collect, fun h => h ▸ collect_map_ok ts⟩

theorem exists_collect_eq_ok_iff (rs : List Pulled) :
    (∃ ts, collect rs = .ok ts) ↔ faults rs = [] := by
  induction rs with
  | nil => exact ⟨fun _ => rfl, fun _ => ⟨[], rfl⟩⟩
  | cons r rs ih =>
    cases r with
    | error f => simp [collect, faults]
    | ok t =>
      rw [faults, ← ih, collect]
      cases collect rs <;> simp [Except.map]

theorem collect_eq_error_iff (rs : List Pulled) (f : Fault) :
    collect rs = .error f ↔ (faults rs).head? = some f := by
  induction rs with
  | nil => simp [collect, faults]
  | cons r rs ih =>
    cases r with
    | error g => simp [collect, faults]
    | ok t =>
      rw [faults, ← ih, collect]
      cases collect rs <;> simp [Except.map]

theorem tokensAfter_eq_collect (found : Array Token) (l : Lexer) :
    (tokensAfter found l).1 = (collect l.run).map fun ts => found ++ ts.toArray := by
  fun_induction tokensAfter found l with
  | case1 found l e l' h =>
    have hn : isEnd l.next.1 = false := by rw [h]; rfl
    rw [run_of_not_end hn, h]
    rfl
  | case2 found l t l' h e =>
    have hn : isEnd l.next.1 = true := by rw [h]; exact e
    rw [run_of_end hn, h]
    simp [collect, Except.map]
  | case3 found l t l' h e ih =>
    have hn : isEnd l.next.1 = false := by rw [h]; simpa [isEnd] using e
    rw [run_of_not_end hn, h, ih, collect]
    cases collect l'.run <;> simp [Except.map]

theorem tokens_eq_collect (l : Lexer) : l.tokens.1 = (collect l.run).map List.toArray := by
  rw [tokens, tokensAfter_eq_collect]
  simp

theorem tokens_eq_ok_iff {l : Lexer} {ts : Array Token} :
    l.tokens.1 = .ok ts ↔ l.run = ts.toList.map .ok := by
  rw [tokens_eq_collect, ← collect_eq_ok_iff]
  cases collect l.run with
  | error f => simp [Except.map]
  | ok us =>
    simp only [Except.map, Except.ok.injEq]
    exact ⟨fun h => by rw [← h], fun h => by rw [h]⟩

theorem exists_tokens_eq_ok_iff (l : Lexer) : (∃ ts, l.tokens.1 = .ok ts) ↔ faults l.run = [] := by
  rw [tokens_eq_collect, ← exists_collect_eq_ok_iff]
  cases collect l.run with
  | error f => simp [Except.map]
  | ok ts => exact ⟨fun _ => ⟨ts, rfl⟩, fun _ => ⟨ts.toArray, rfl⟩⟩

theorem tokens_eq_error_iff (l : Lexer) (f : Fault) :
    l.tokens.1 = .error f ↔ (faults l.run).head? = some f := by
  rw [tokens_eq_collect, ← collect_eq_error_iff]
  cases collect l.run <;> simp [Except.map]

end Lexer

end PLZero
