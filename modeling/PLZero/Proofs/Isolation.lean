import PLZero.Proofs.Runs

/-! Characters at fault do no harm to their neighbours. Where a character is no part of any lexeme,
a blank in its place gives the same lexemes around it, and the fault is gone.

* `Alphabet.cleared` puts a blank in place of a rejected character, `Text.cleared` in a whole text.
* `Lexer.isInvalid_pulled`: a lexeme is invalid input exactly if it begins with such a character.
* `Lexer.runAt_cleared`: the run over the cleared characters skips these faults, and them only. -/
namespace PLZero
set_option autoImplicit false

open Text (markOf body)

/-! ## Cleared texts -/

namespace Alphabet

/-- Whether `c` is neither a blank nor a part of any lexeme. -/
def rejects (a : Alphabet) (c : Char) : Bool :=
  !isBlank c && !a.continuesName c && (Punctuation.ofChar? c).isNone

def cleared (a : Alphabet) (c : Char) : Char := if a.rejects c then ' ' else c

variable {a : Alphabet} {c : Char} {cs : List Char}

theorem rejects_of_isBlank (a : Alphabet) (h : isBlank c = true) : a.rejects c = false := by
  simp [rejects, h]

theorem rejects_of_continuesName (h : a.continuesName c = true) : a.rejects c = false := by
  simp [rejects, h]

theorem cleared_of_rejects (h : a.rejects c = true) : a.cleared c = ' ' := if_pos h

theorem cleared_of_not_rejects (h : a.rejects c = false) : a.cleared c = c :=
  if_neg (ne_true_of_eq_false h)

theorem rejects_cleared (a : Alphabet) (c : Char) : a.rejects (a.cleared c) = false := by
  cases h : a.rejects c with
  | true =>
    rw [cleared_of_rejects h]
    exact a.rejects_of_isBlank (by decide)
  | false => rw [cleared_of_not_rejects h, h]

theorem rejects_byteOrderMark (a : Alphabet) : a.rejects byteOrderMark = true := by
  have hsign : Punctuation.ofChar? byteOrderMark = none := by decide
  simp [rejects, isBlank_byteOrderMark, continuesName_byteOrderMark, hsign]

theorem cleared_ne_byteOrderMark (a : Alphabet) (c : Char) : a.cleared c ≠ byteOrderMark := by
  intro h
  have hr := a.rejects_cleared c
  rw [h, rejects_byteOrderMark] at hr
  exact Bool.noConfusion hr

theorem map_cleared_of_not_rejects (h : ∀ c ∈ cs, a.rejects c = false) :
    cs.map a.cleared = cs := by
  rw [List.map_congr_left fun c hc => cleared_of_not_rejects (h c hc), List.map_id']

/-- A blank stays a line feed, or stays none. -/
theorem cleared_eq_lineFeed_iff (a : Alphabet) (c : Char) : a.cleared c = '\n' ↔ c = '\n' := by
  cases h : a.rejects c with
  | true =>
    rw [cleared_of_rejects h]
    constructor
    · intro hc
      exact absurd hc (by decide)
    · rintro rfl
      rw [a.rejects_of_isBlank (by decide)] at h
      exact Bool.noConfusion h
  | false => rw [cleared_of_not_rejects h]

/-- The head of the cleared characters is the head it was, or it is a blank. -/
theorem head_cleared (a : Alphabet) (cs : List Char) :
    ∀ d ∈ (cs.map a.cleared).head?, d ∈ cs.head? ∨ isBlank d = true := by
  cases cs with
  | nil =>
    intro d hd
    cases hd
  | cons c cs =>
    intro d hd
    obtain rfl : a.cleared c = d := Option.some.inj hd
    cases h : a.rejects c with
    | true =>
      rw [cleared_of_rejects h]
      exact .inr (by decide)
    | false =>
      rw [cleared_of_not_rejects h]
      exact .inl rfl

end Alphabet

/-- The text with a blank in place of every character that is rejected; a byte order mark at its
start stays. -/
def Text.cleared (a : Alphabet) (s : String) : String :=
  String.ofList (markOf s ++ (body s).map a.cleared)

namespace Text

theorem head_map_cleared (a : Alphabet) (cs : List Char) :
    (cs.map a.cleared).head? ≠ some byteOrderMark := by
  cases cs with
  | nil => simp
  | cons c cs => simp [a.cleared_ne_byteOrderMark c]

theorem toList_cleared (a : Alphabet) (s : String) :
    (cleared a s).toList = markOf s ++ (body s).map a.cleared := String.toList_ofList

theorem markOf_cleared (a : Alphabet) (s : String) : markOf (cleared a s) = markOf s :=
  markOf_of_toList (toList_cleared a s) (head_map_cleared a _)

theorem body_cleared (a : Alphabet) (s : String) : body (cleared a s) = (body s).map a.cleared :=
  body_of_toList (toList_cleared a s) (head_map_cleared a _)

end Text

/-! ## Invalid input -/

namespace Lexer

def isInvalid : Pulled → Bool
  | .ok _ => false
  | .error f => f.cause == .invalidInput

variable {a : Alphabet} {c : Char}

theorem isInvalid_pulled (hb : isBlank c = false) (tail : List Char) (p q : Position) :
    isInvalid (pulled p q (a.meaning c tail)) = a.rejects c := by
  rcases a.first_cases c with hd | hs | hn
  · rw [a.meaning_of_isDigit hd, Alphabet.rejects_of_continuesName (a.continuesName_of_isDigit hd),
      integerMeaning]
    split <;> rfl
  · rw [Alphabet.meaning_of_startsName hs,
      Alphabet.rejects_of_continuesName (Alphabet.continuesName_of_startsName hs), wordMeaning]
    split <;> rfl
  · rw [Alphabet.meaning_of_not_continuesName hn, signMeaning, Alphabet.rejects, hb, hn]
    cases Punctuation.ofChar? c <;> rfl

/-! ## Runs over cleared characters -/

theorem isInvalid_of_mem_runAt {cs : List Char} (h : ∀ c ∈ cs, a.rejects c = false)
    (p : Position) : ∀ r ∈ runAt a p cs, isInvalid r = false := by
  induction cs using Alphabet.text_induction (a := a) generalizing p with
  | blank gap hg =>
    rw [runAt_of_blank hg]
    intro r hr
    rw [List.mem_singleton.1 hr]
    rfl
  | lexeme gap c tail rest hl ih =>
    rw [runAt_of_leads hl]
    refine List.forall_mem_cons.2 ⟨?_, ih (fun d hd => h d (by simp [hd])) _⟩
    rw [isInvalid_pulled hl.head]
    exact h c (by simp)

section Lexemes
variable {gap tail rest : List Char}

/-- A rejected character is a lexeme by itself. -/
theorem tail_eq_nil_of_rejects (h : a.Leads gap c tail rest) (hc : a.rejects c = true) :
    tail = [] := by
  have hname : a.continuesName c = false := by
    cases hn : a.continuesName c with
    | true =>
      rw [Alphabet.rejects_of_continuesName hn] at hc
      cases hc
    | false => rfl
  rw [← h.munch, Alphabet.lexemeTail_of_not_continuesName hname]

theorem runAt_cleared_of_rejects (h : a.Leads gap c tail rest) (hc : a.rejects c = true)
    (q : Position) :
    runAt a q ((gap ++ (c :: tail ++ rest)).map a.cleared) =
      runAt a ((q.advanceBy gap).advance (a.cleared c)) (rest.map a.cleared) := by
  obtain rfl := tail_eq_nil_of_rejects h hc
  have hgap := Alphabet.map_cleared_of_not_rejects fun d hd => a.rejects_of_isBlank (h.blank d hd)
  -- The blank in place of the lexeme joins the gap.
  have hblank : ∀ d ∈ gap ++ [a.cleared c], isBlank d = true := by
    rw [Alphabet.cleared_of_rejects hc]
    exact List.forall_mem_append.2 ⟨h.blank, List.forall_mem_singleton.2 (by decide)⟩
  have hcut : (gap ++ ([c] ++ rest)).map a.cleared =
      gap ++ [a.cleared c] ++ rest.map a.cleared := by
    rw [List.map_append, hgap]
    simp
  rw [hcut, runAt_blank_append hblank, Position.advanceBy_append]
  rfl

theorem runAt_cleared_of_not_rejects (h : a.Leads gap c tail rest) (hc : a.rejects c = false)
    (q : Position) :
    runAt a q ((gap ++ (c :: tail ++ rest)).map a.cleared) =
      pulled (q.advanceBy gap) ((q.advanceBy gap).advanceBy (c :: tail)) (a.meaning c tail) ::
        runAt a ((q.advanceBy gap).advanceBy (c :: tail)) (rest.map a.cleared) := by
  have hgap := Alphabet.map_cleared_of_not_rejects fun d hd => a.rejects_of_isBlank (h.blank d hd)
  have htail : tail.map a.cleared = tail := by
    refine Alphabet.map_cleared_of_not_rejects fun d hd => ?_
    rw [← h.munch] at hd
    exact Alphabet.rejects_of_continuesName (continuesName_of_mem_lexemeTail hd)
  have hlead := h.of_head (a.head_cleared rest)
  rw [List.map_append, List.map_append, List.map_cons, hgap, htail,
    Alphabet.cleared_of_not_rejects hc, runAt_of_leads hlead]

end Lexemes

theorem runAt_cleared {p q : Position} (h : q.withoutOffset = p.withoutOffset) (cs : List Char) :
    (runAt a q (cs.map a.cleared)).map withoutOffsets =
      ((runAt a p cs).filter (!isInvalid ·)).map withoutOffsets := by
  induction cs using Alphabet.text_induction (a := a) generalizing p q with
  | blank gap hg =>
    have hend : withoutOffsets (.ok (.endAt (q.advanceBy gap))) =
        withoutOffsets (.ok (.endAt (p.advanceBy gap))) :=
      congrArg (Except.ok ∘ Token.endAt) (Position.withoutOffset_advanceBy h gap)
    rw [Alphabet.map_cleared_of_not_rejects fun d hd => a.rejects_of_isBlank (hg d hd),
      runAt_of_blank hg, runAt_of_blank hg, List.map_singleton, hend]
    rfl
  | lexeme gap c tail rest hl ih =>
    have hstart := Position.withoutOffset_advanceBy h gap
    have hinvalid := isInvalid_pulled (a := a) hl.head tail (p.advanceBy gap)
      ((p.advanceBy gap).advanceBy (c :: tail))
    rw [runAt_of_leads hl, List.filter_cons, hinvalid]
    cases hc : a.rejects c with
    | true =>
      have hplace := Position.withoutOffset_advance hstart (a.cleared_eq_lineFeed_iff c)
      rw [runAt_cleared_of_rejects hl hc]
      obtain rfl := tail_eq_nil_of_rejects hl hc
      exact ih hplace
    | false =>
      have hstop := Position.withoutOffset_advanceBy hstart (c :: tail)
      rw [runAt_cleared_of_not_rejects hl hc, List.map_cons, ih hstop,
        withoutOffsets_pulled hstart hstop]
      rfl

end Lexer

/-- **Invalid characters harm no neighbour.** With blanks in place of the characters that no lexeme
contains, a text is read without a fault of invalid input; all else that the run gives is what it
gave before, on the same lines and in the same columns. -/
theorem Lexer.run_cleared (a : Alphabet) (s : String) :
    (∀ r ∈ (ofString (Text.cleared a s) a).run, isInvalid r = false) ∧
    (ofString (Text.cleared a s) a).run.map withoutOffsets =
      ((ofString s a).run.filter (!isInvalid ·)).map withoutOffsets := by
  rw [run_ofString, run_ofString, Text.markOf_cleared, Text.body_cleared]
  refine ⟨isInvalid_of_mem_runAt (fun c hc => ?_) _, runAt_cleared rfl (body s)⟩
  obtain ⟨d, -, rfl⟩ := List.mem_map.1 hc
  exact a.rejects_cleared d

/-- A mark stays at the start of the text and is cleared behind it. -/
theorem Lexer.run_cleared_marked :
    Text.cleared .ascii "\ufeffa€1\ufeff" = "\ufeffa 1 " ∧
    (∀ r ∈ (ofString (Text.cleared .ascii "\ufeffa€1\ufeff") .ascii).run, isInvalid r = false) ∧
    ((ofString "\ufeffa€1\ufeff" .ascii).run.filter (!isInvalid ·)).map withoutOffsets =
      [.ok ⟨.identifier, .text "a", ⟨0, 1, 1⟩, ⟨0, 1, 2⟩⟩,
        .ok ⟨.unsignedInteger, .integer 1, ⟨0, 1, 3⟩, ⟨0, 1, 4⟩⟩, .ok (.endAt ⟨0, 1, 5⟩)] := by
  have htext : Text.cleared .ascii "\ufeffa€1\ufeff" = "\ufeffa 1 " := by decide +kernel
  obtain ⟨hnone, hrun⟩ := run_cleared .ascii "\ufeffa€1\ufeff"
  refine ⟨htext, hnone, ?_⟩
  rw [← hrun, htext]
  decide +kernel

end PLZero
