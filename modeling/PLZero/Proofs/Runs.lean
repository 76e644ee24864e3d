import PLZero.Proofs.Place

/-! A run told by the characters it reads. Of its input a run needs no more than what is left of the
text and where that stands, and what is left falls into blanks and lexemes, one after the other.

* `Lexer.run_eq_runAt`: every run is a run over characters from a position on.
* `Alphabet.text_induction`: a text is nothing but blanks, or blanks and a lexeme before a text.
* `Lexer.runAt_of_blank`, `Lexer.runAt_of_leads` and `Lexer.runAt_blank_append` are the run in these
  two cases, and behind blanks in both.
* `Lexer.runAt_moved`: where a run begins moves all its places alike.
* `Lexer.withoutOffsets` keeps of a result what does not count bytes. -/
namespace PLZero
set_option autoImplicit false

/-- Only the head of what follows a longest run matters. -/
theorem takeWhile_append_of_head {p : Char → Bool} {cs ds es : List Char}
    (h : (cs ++ ds).takeWhile p = cs) (he : ∀ d ∈ es.head?, d ∈ ds.head? ∨ p d = false) :
    (cs ++ es).takeWhile p = cs := by
  obtain ⟨hcs, hstop⟩ := stop_of_takeWhile_append h
  refine takeWhile_append_of_stop hcs fun d hd => ?_
  exact (he d hd).elim (hstop d) id

namespace Alphabet
variable {a : Alphabet} {gap tail rest : List Char} {c : Char}

/-- A text begins with the blanks `gap`; the lexeme `c :: tail` comes next, and `rest` after it. -/
structure Leads (a : Alphabet) (gap : List Char) (c : Char) (tail rest : List Char) : Prop where
  blank : ∀ d ∈ gap, isBlank d = true
  head : isBlank c = false
  munch : a.lexemeTail c (tail ++ rest) = tail

/-- A lexeme ends in the same place before what begins like `rest`, or begins with a blank. -/
theorem Leads.of_head (h : a.Leads gap c tail rest) {more : List Char}
    (hm : ∀ d ∈ more.head?, d ∈ rest.head? ∨ isBlank d = true) : a.Leads gap c tail more where
  blank := h.blank
  head := h.head
  munch := by
    have ht := h.munch
    rcases a.first_cases c with hd | hs | hn
    · rw [a.lexemeTail_of_isDigit hd] at ht ⊢
      exact takeWhile_append_of_head ht fun d hd => (hm d hd).imp_right isDigit_of_isBlank
    · rw [lexemeTail_of_startsName hs] at ht ⊢
      exact takeWhile_append_of_head ht fun d hd => (hm d hd).imp_right (continuesName_of_isBlank a)
    · rw [lexemeTail_of_not_continuesName hn] at ht ⊢
      exact ht

theorem Leads.blank_append (h : a.Leads gap c tail rest) {before : List Char}
    (hb : ∀ d ∈ before, isBlank d = true) : a.Leads (before ++ gap) c tail rest where
  blank := List.forall_mem_append.2 ⟨hb, h.blank⟩
  head := h.head
  munch := h.munch

end Alphabet

namespace Lexer

/-- The lexer at `p` before the characters `cs` of an opened text. -/
def standing (a : Alphabet) (p : Position) (cs : List Char) : Lexer := ⟨⟨"", cs, p, p, true⟩, a⟩

/-- The run over the characters `cs` from `p` on. -/
def runAt (a : Alphabet) (p : Position) (cs : List Char) : List Pulled := (standing a p cs).run

theorem AtLexeme.leads {l : Lexer} {gap tail rest : List Char} {c : Char}
    (h : l.AtLexeme gap c tail rest) : l.alphabet.Leads gap c tail rest :=
  ⟨h.blank, h.head, h.munch⟩

theorem run_congr {l l' : Lexer} (ha : l'.alphabet = l.alphabet)
    (hh : l'.input.opening.here = l.input.opening.here)
    (hr : l'.input.opening.rest = l.input.opening.rest) : l'.run = l.run := by
  fun_induction run l generalizing l' with
  | case1 l he =>
    rcases l.next_cases with h | ⟨gap, c, tail, rest, h⟩
    · have h' : l'.AtEnd l.input.opening.rest := ⟨hr, h.blank⟩
      rw [run_of_end h'.isEnd, h'.result, h.result, hh]
    · rw [h.isEnd] at he
      cases he
  | case2 l he ih =>
    rcases l.next_cases with h | ⟨gap, c, tail, rest, h⟩
    · exact absurd h.isEnd he
    · have h' : l'.AtLexeme gap c tail rest :=
        ⟨hr.trans h.text, h.blank, h.head, by rw [ha]; exact h.munch⟩
      have hnext : l'.next.2.run = l.next.2.run := by
        apply ih
        · rw [next_alphabet, next_alphabet, ha]
        · rw [next_opening, next_opening, h'.here, h.here, hh]
        · rw [next_opening, next_opening, h'.rest_eq, h.rest_eq]
      rw [run_of_not_end h'.isEnd, hnext, h'.result, h.result, hh, ha]

theorem run_eq_runAt (l : Lexer) :
    l.run = runAt l.alphabet l.input.opening.here l.input.opening.rest :=
  run_congr (l := standing l.alphabet l.input.opening.here l.input.opening.rest) rfl rfl rfl

theorem run_ofString (s : String) (a : Alphabet) :
    (ofString s a).run = runAt a (.behind (Text.markOf s)) (Text.body s) := by
  obtain ⟨hs, hrest⟩ := Input.stands_opening_ofString s
  have hhere : (ofString s a).input.opening.here = .behind (Text.markOf s) := hs.here
  have hbody : (ofString s a).input.opening.rest = Text.body s := hrest
  rw [run_eq_runAt, hhere, hbody]
  rfl

end Lexer

/-! ## Texts of blanks and lexemes -/

namespace Alphabet

theorem text_cases (a : Alphabet) (cs : List Char) :
    (∀ d ∈ cs, isBlank d = true) ∨
      ∃ gap c tail rest, cs = gap ++ (c :: tail ++ rest) ∧ a.Leads gap c tail rest := by
  rcases (Lexer.standing a .start cs).next_cases with h | ⟨gap, c, tail, rest, h⟩
  · exact .inl h.blank
  · exact .inr ⟨gap, c, tail, rest, h.text, h.leads⟩

theorem text_induction {a : Alphabet} {P : List Char → Prop}
    (blank : ∀ gap, (∀ d ∈ gap, isBlank d = true) → P gap)
    (lexeme : ∀ gap c tail rest, a.Leads gap c tail rest → P rest → P (gap ++ (c :: tail ++ rest)))
    (cs : List Char) : P cs := by
  induction hn : cs.length using Nat.strongRecOn generalizing cs with
  | ind n ih =>
    rcases a.text_cases cs with h | ⟨gap, c, tail, rest, rfl, h⟩
    · exact blank cs h
    · refine lexeme gap c tail rest h (ih rest.length ?_ rest rfl)
      simp only [List.length_append, List.length_cons] at hn
      omega

end Alphabet

namespace Lexer
variable {a : Alphabet} {gap tail rest : List Char} {c : Char}

theorem runAt_of_blank (hg : ∀ d ∈ gap, isBlank d = true) (p : Position) :
    runAt a p gap = [.ok (.endAt (p.advanceBy gap))] := by
  have h : (standing a p gap).AtEnd gap := ⟨rfl, hg⟩
  rw [runAt, run_of_end h.isEnd, h.result]
  rfl

theorem runAt_of_leads (h : a.Leads gap c tail rest) (p : Position) :
    runAt a p (gap ++ (c :: tail ++ rest)) =
      pulled (p.advanceBy gap) ((p.advanceBy gap).advanceBy (c :: tail)) (a.meaning c tail) ::
        runAt a ((p.advanceBy gap).advanceBy (c :: tail)) rest := by
  have hn : (standing a p (gap ++ (c :: tail ++ rest))).AtLexeme gap c tail rest :=
    ⟨rfl, h.blank, h.head, h.munch⟩
  rw [runAt, run_of_not_end hn.isEnd, run_eq_runAt, next_opening, next_alphabet, hn.rest_eq,
    hn.here, hn.result]
  rfl

theorem runAt_blank_append (hg : ∀ d ∈ gap, isBlank d = true) (p : Position) (cs : List Char) :
    runAt a p (gap ++ cs) = runAt a (p.advanceBy gap) cs := by
  rcases a.text_cases cs with h | ⟨gap', c, tail, rest, rfl, h⟩
  · rw [runAt_of_blank (List.forall_mem_append.2 ⟨hg, h⟩), runAt_of_blank h,
      Position.advanceBy_append]
  · rw [← List.append_assoc, runAt_of_leads (h.blank_append hg), runAt_of_leads h,
      Position.advanceBy_append]

theorem runAt_ne_nil (a : Alphabet) (p : Position) (cs : List Char) : runAt a p cs ≠ [] :=
  run_ne_nil _

theorem dropLast_runAt_of_leads (h : a.Leads gap c tail rest) (p : Position) :
    (runAt a p (gap ++ (c :: tail ++ rest))).dropLast =
      pulled (p.advanceBy gap) ((p.advanceBy gap).advanceBy (c :: tail)) (a.meaning c tail) ::
        (runAt a ((p.advanceBy gap).advanceBy (c :: tail)) rest).dropLast := by
  rw [runAt_of_leads h, List.dropLast_cons_of_ne_nil (runAt_ne_nil _ _ _)]

/-- A run meets the end of the text once, as its last result. -/
theorem runAt_end (a : Alphabet) (p : Position) (cs : List Char) :
    runAt a p cs = (runAt a p cs).dropLast ++ [.ok (.endAt (p.advanceBy cs))] ∧
      ∀ r ∈ (runAt a p cs).dropLast, isEnd r = false := by
  induction cs using Alphabet.text_induction (a := a) generalizing p with
  | blank gap hg =>
    rw [runAt_of_blank hg]
    exact ⟨rfl, List.forall_mem_nil _⟩
  | lexeme gap c tail rest h ih =>
    obtain ⟨heq, hno⟩ := ih ((p.advanceBy gap).advanceBy (c :: tail))
    have hend : ((p.advanceBy gap).advanceBy (c :: tail)).advanceBy rest =
        p.advanceBy (gap ++ (c :: tail ++ rest)) := by
      rw [Position.advanceBy_append, Position.advanceBy_append]
    rw [hend] at heq
    rw [dropLast_runAt_of_leads h, runAt_of_leads h, List.cons_append]
    exact ⟨congrArg _ heq, List.forall_mem_cons.2 ⟨isEnd_pulled _ _ _ _ _, hno⟩⟩

end Lexer

/-! ## Moving where a run begins -/

namespace Position

/-- The position `n` bytes and `k` lines further on, in the same column. -/
def moved (n : Nat) (k : UInt32) (p : Position) : Position := ⟨p.offset + n, p.line + k, p.column⟩

theorem moved_advance (n : Nat) (k : UInt32) (p : Position) (c : Char) :
    (p.moved n k).advance c = (p.advance c).moved n k := by
  have hline : p.line + k + 1 = p.line + 1 + k := by
    rw [UInt32.add_assoc, UInt32.add_assoc, UInt32.add_comm k]
  unfold advance moved
  by_cases hc : c = '\n'
  · simp only [hc, if_true, hline, Nat.add_right_comm]
  · simp only [hc, if_false, Nat.add_right_comm]

theorem moved_advanceBy (n : Nat) (k : UInt32) (p : Position) (cs : List Char) :
    (p.moved n k).advanceBy cs = (p.advanceBy cs).moved n k := by
  induction cs generalizing p with
  | nil => rfl
  | cons c cs ih => rw [advanceBy_cons, advanceBy_cons, moved_advance, ih]

end Position

namespace Lexer

/-- A result with all its places moved; what was found there stays. -/
def moved (n : Nat) (k : UInt32) : Pulled → Pulled
  | .ok t => .ok { t with start := t.start.moved n k, stop := t.stop.moved n k }
  | .error f => .error { f with place := f.place.moved n k }

theorem pulled_moved (n : Nat) (k : UInt32) (p q : Position)
    (m : Except Fault.Cause (Kind × Value)) :
    pulled (p.moved n k) (q.moved n k) m = moved n k (pulled p q m) := by
  cases m <;> rfl

theorem runAt_moved (a : Alphabet) (n : Nat) (k : UInt32) (p : Position) (cs : List Char) :
    runAt a (p.moved n k) cs = (runAt a p cs).map (moved n k) := by
  induction cs using Alphabet.text_induction (a := a) generalizing p with
  | blank gap hg =>
    rw [runAt_of_blank hg, runAt_of_blank hg, Position.moved_advanceBy]
    rfl
  | lexeme gap c tail rest h ih =>
    rw [runAt_of_leads h, runAt_of_leads h, Position.moved_advanceBy, Position.moved_advanceBy, ih,
      pulled_moved, List.map_cons]

end Lexer

/-! ## Results but for their offsets -/

namespace Position

def withoutOffset (p : Position) : Position := { p with offset := 0 }

theorem withoutOffset_advance {p q : Position} (h : p.withoutOffset = q.withoutOffset)
    {c d : Char} (hcd : c = '\n' ↔ d = '\n') :
    (p.advance c).withoutOffset = (q.advance d).withoutOffset := by
  rw [withoutOffset, withoutOffset, mk.injEq] at h
  obtain ⟨-, hline, hcolumn⟩ := h
  unfold advance withoutOffset
  by_cases hc : c = '\n'
  · simp only [hc, hcd.1 hc, if_true, hline]
  · simp only [hc, mt hcd.2 hc, if_false, hline, hcolumn]

theorem withoutOffset_advanceBy {p q : Position} (h : p.withoutOffset = q.withoutOffset)
    (cs : List Char) : (p.advanceBy cs).withoutOffset = (q.advanceBy cs).withoutOffset := by
  induction cs generalizing p q with
  | nil => exact h
  | cons c cs ih => exact ih (withoutOffset_advance h Iff.rfl)

theorem withoutOffset_moved (n : Nat) (p : Position) :
    (p.moved n 0).withoutOffset = p.withoutOffset := by
  simp only [moved, withoutOffset, UInt32.add_zero]

end Position

def Token.withoutOffsets (t : Token) : Token :=
  { t with start := t.start.withoutOffset, stop := t.stop.withoutOffset }

def Fault.withoutOffset (f : Fault) : Fault := { f with place := f.place.withoutOffset }

namespace Lexer

def withoutOffsets : Pulled → Pulled
  | .ok t => .ok t.withoutOffsets
  | .error f => .error f.withoutOffset

theorem withoutOffsets_pulled {p q p' q' : Position} (hp : p.withoutOffset = p'.withoutOffset)
    (hq : q.withoutOffset = q'.withoutOffset) (m : Except Fault.Cause (Kind × Value)) :
    withoutOffsets (pulled p q m) = withoutOffsets (pulled p' q' m) := by
  cases m with
  | ok k => simp only [pulled, withoutOffsets, Token.withoutOffsets, hp, hq]
  | error cause => simp only [pulled, withoutOffsets, Fault.withoutOffset, hp]

theorem withoutOffsets_moved (n : Nat) (r : Pulled) :
    withoutOffsets (moved n 0 r) = withoutOffsets r := by
  cases r with
  | ok t => simp only [moved, withoutOffsets, Token.withoutOffsets, Position.withoutOffset_moved]
  | error f => simp only [moved, withoutOffsets, Fault.withoutOffset, Position.withoutOffset_moved]

end Lexer

end PLZero
