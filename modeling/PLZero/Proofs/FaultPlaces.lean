import PLZero.Proofs.Place

/-! Where the faults of a text lie. A lexer decides by its pulls which lexeme begins where, but the
faults can be told from the characters alone: from each character, those behind it, and whether a
character of a name stands before it.

* `FaultOf` says which faults a text has, without any lexer.
* `faultsIn` finds them in one go through the characters; `mem_faultsIn_iff` and `pairwise_faultsIn`
  say that it finds each of them, in the order of the text.
* `Lexer.faults_run`: the pulls give the same faults. -/
namespace PLZero
set_option autoImplicit false

/-- The faults of a text: a character that is no part of any lexeme, and digits at the start of a
run of name characters that denote too large an integer. -/
inductive FaultOf (a : Alphabet) (s : String) : Fault → Prop where
  | invalidInput (before after : List Char) (c : Char) (cut : Text.body s = before ++ c :: after)
      (noBlank : isBlank c = false) (noName : a.continuesName c = false)
      (noSign : Punctuation.ofChar? c = none) :
      FaultOf a s ⟨.invalidInput, (Position.behind (Text.markOf s)).advanceBy before⟩
  | integerOverflow (before name after : List Char)
      (cut : Text.body s = before ++ (name ++ after))
      (inside : ∀ c ∈ name, a.continuesName c = true)
      (first : ∀ c ∈ before.getLast?, a.continuesName c = false)
      (last : ∀ c ∈ after.head?, a.continuesName c = false)
      (digits : name.takeWhile isDigit ≠ [])
      (large : maxInteger < Nat.ofDigitChars 10 (name.takeWhile isDigit) 0) :
      FaultOf a s ⟨.integerOverflow, (Position.behind (Text.markOf s)).advanceBy before⟩

/-! ## Faults by the characters -/

/-- Why there is a fault at the head of the text, if there is one. A name character stands before
the text if `inName` is set. -/
def causeAt? (a : Alphabet) (inName : Bool) : List Char → Option Fault.Cause
  | [] => none
  | c :: cs =>
    if a.continuesName c then
      if inName = false ∧ maxInteger < Nat.ofDigitChars 10 ((c :: cs).takeWhile isDigit) 0 then
        some .integerOverflow
      else none
    else if isBlank c = false ∧ Punctuation.ofChar? c = none then some .invalidInput
    else none

/-- The faults of a text that goes on at `p`. -/
def faultsIn (a : Alphabet) (inName : Bool) (p : Position) : List Char → List Fault
  | [] => []
  | c :: cs =>
    ((causeAt? a inName (c :: cs)).map (Fault.mk · p)).toList ++
      faultsIn a (a.continuesName c) (p.advance c) cs

section Causes
variable {a : Alphabet} {inName : Bool} {cs : List Char}

theorem causeAt?_eq_invalidInput_iff :
    causeAt? a inName cs = some .invalidInput ↔
      ∃ c after, cs = c :: after ∧ isBlank c = false ∧ a.continuesName c = false ∧
        Punctuation.ofChar? c = none := by
  cases cs with
  | nil => simp [causeAt?]
  | cons c cs =>
    unfold causeAt?
    cases hc : a.continuesName c with
    | true => simp [hc]
    | false => simp [hc]

theorem causeAt?_eq_integerOverflow_iff :
    causeAt? a inName cs = some .integerOverflow ↔
      inName = false ∧ maxInteger < Nat.ofDigitChars 10 (cs.takeWhile isDigit) 0 := by
  cases cs with
  | nil => simp [causeAt?]
  | cons c cs =>
    unfold causeAt?
    cases hc : a.continuesName c with
    | true => simp [hc]
    | false =>
      have hd := Alphabet.isDigit_of_not_continuesName hc
      simp [hc, hd]

theorem causeAt?_of_continuesName {c : Char} (h : a.continuesName c = true)
    (hd : inName = false → isDigit c = false) : causeAt? a inName (c :: cs) = none := by
  rw [causeAt?, if_pos h, if_neg]
  rintro ⟨hb, hl⟩
  rw [List.takeWhile_cons_of_neg (ne_true_of_eq_false (hd hb))] at hl
  exact absurd hl (Nat.not_lt_zero _)

end Causes

/-! ## The faults found are those of the text -/

/-- Whether a name character stands before what follows `before`. -/
def nameBefore (a : Alphabet) (inName : Bool) (before : List Char) : Bool :=
  (before.getLast?.map a.continuesName).getD inName

theorem nameBefore_cons (a : Alphabet) (inName : Bool) (c : Char) (before : List Char) :
    nameBefore a inName (c :: before) = nameBefore a (a.continuesName c) before := by
  unfold nameBefore
  rw [List.getLast?_cons]
  cases before.getLast? <;> rfl

theorem nameBefore_eq_false_iff {a : Alphabet} {before : List Char} :
    nameBefore a false before = false ↔ ∀ c ∈ before.getLast?, a.continuesName c = false := by
  unfold nameBefore
  cases before.getLast? <;> simp

theorem mem_faultsIn_iff {a : Alphabet} {inName : Bool} {p : Position} {cs : List Char}
    {f : Fault} :
    f ∈ faultsIn a inName p cs ↔
      ∃ before after, cs = before ++ after ∧
        causeAt? a (nameBefore a inName before) after = some f.cause ∧
        f.place = p.advanceBy before := by
  -- On the way through the characters `inName` and `p` stand for all that lies behind.
  induction cs generalizing inName p with
  | nil =>
    constructor
    · intro h
      cases h
    · rintro ⟨before, after, hcut, hcause, -⟩
      rw [(List.append_eq_nil_iff.1 hcut.symm).2] at hcause
      cases hcause
  | cons c cs ih =>
    have hhead : f ∈ ((causeAt? a inName (c :: cs)).map (Fault.mk · p)).toList ↔
        causeAt? a inName (c :: cs) = some f.cause ∧ f.place = p := by
      obtain ⟨cause, place⟩ := f
      cases causeAt? a inName (c :: cs) <;> simp [eq_comm]
    rw [faultsIn, List.mem_append, hhead, ih]
    constructor
    · rintro (⟨hcause, hplace⟩ | ⟨before, after, hcut, hcause, hplace⟩)
      · exact ⟨[], c :: cs, rfl, hcause, hplace⟩
      · refine ⟨c :: before, after, by rw [hcut]; rfl, ?_, hplace⟩
        rw [nameBefore_cons]
        exact hcause
    · rintro ⟨before, after, hcut, hcause, hplace⟩
      cases before with
      | nil =>
        rw [List.nil_append] at hcut
        subst hcut
        exact .inl ⟨hcause, hplace⟩
      | cons d before =>
        obtain ⟨rfl, hrest⟩ := List.cons.inj hcut
        rw [nameBefore_cons] at hcause
        exact .inr ⟨before, after, hrest, hcause, hplace⟩

theorem offset_of_mem_faultsIn {a : Alphabet} {inName : Bool} {p : Position} {cs : List Char}
    {f : Fault} (h : f ∈ faultsIn a inName p cs) : p.offset ≤ f.place.offset := by
  obtain ⟨before, -, -, -, hplace⟩ := mem_faultsIn_iff.1 h
  rw [hplace, Position.advanceBy_offset]
  exact Nat.le_add_right _ _

theorem pairwise_faultsIn (a : Alphabet) (inName : Bool) (p : Position) (cs : List Char) :
    (faultsIn a inName p cs).Pairwise fun f g => f.place.offset < g.place.offset := by
  induction cs generalizing inName p with
  | nil => exact List.Pairwise.nil
  | cons c cs ih =>
    have hc := Char.utf8Size_pos c
    rw [faultsIn]
    cases causeAt? a inName (c :: cs) with
    | none => exact ih _ _
    | some cause =>
      refine List.Pairwise.cons (fun g hg => ?_) (ih _ _)
      have hle := offset_of_mem_faultsIn hg
      rw [Position.advance_offset] at hle
      show p.offset < g.place.offset
      omega

theorem takeWhile_isDigit_of_name {a : Alphabet} {name after : List Char}
    (hn : ∀ c ∈ name, a.continuesName c = true)
    (ha : ∀ c ∈ after.head?, a.continuesName c = false) :
    (name ++ after).takeWhile isDigit = name.takeWhile isDigit := by
  have hname := takeWhile_append_of_stop hn ha
  have hdigit : (fun c => decide (isDigit c = true ∧ a.continuesName c = true)) = isDigit := by
    funext c
    cases hd : isDigit c with
    | false => simp
    | true => simp [a.continuesName_of_isDigit hd]
  have htwice := List.takeWhile_takeWhile isDigit a.continuesName (name ++ after)
  rw [hname, hdigit] at htwice
  exact htwice.symm

theorem faultOf_iff {a : Alphabet} {s : String} {f : Fault} :
    FaultOf a s f ↔ f ∈ faultsIn a false (Position.behind (Text.markOf s)) (Text.body s) := by
  constructor
  · intro h
    rw [mem_faultsIn_iff]
    cases h with
    | invalidInput before after c cut noBlank noName noSign =>
      refine ⟨before, c :: after, cut, ?_, rfl⟩
      exact causeAt?_eq_invalidInput_iff.2 ⟨c, after, rfl, noBlank, noName, noSign⟩
    | integerOverflow before name after cut inside first last digits large =>
      refine ⟨before, name ++ after, cut, ?_, rfl⟩
      refine causeAt?_eq_integerOverflow_iff.2 ⟨nameBefore_eq_false_iff.2 first, ?_⟩
      rw [takeWhile_isDigit_of_name inside last]
      exact large
  · obtain ⟨cause, place⟩ := f
    rw [mem_faultsIn_iff]
    rintro ⟨before, rest, hcut, hcause, hplace⟩
    dsimp only at hcause hplace
    subst hplace
    cases cause with
    | invalidInput =>
      obtain ⟨c, after, rfl, hb, hn, hs⟩ := causeAt?_eq_invalidInput_iff.1 hcause
      exact .invalidInput before after c hcut hb hn hs
    | integerOverflow =>
      obtain ⟨hbefore, hlarge⟩ := causeAt?_eq_integerOverflow_iff.1 hcause
      have hsplit := List.takeWhile_append_dropWhile (p := a.continuesName) (l := rest)
      have hinside : ∀ c ∈ rest.takeWhile a.continuesName, a.continuesName c = true :=
        fun c hc => List.mem_takeWhile_imp hc
      have hlast := stop_of_dropWhile a.continuesName rest
      have hdigits := takeWhile_isDigit_of_name hinside hlast
      rw [hsplit] at hdigits
      rw [hdigits] at hlarge
      refine .integerOverflow before (rest.takeWhile a.continuesName)
        (rest.dropWhile a.continuesName) (by rw [hsplit]; exact hcut) hinside
        (nameBefore_eq_false_iff.1 hbefore) hlast ?_ hlarge
      intro hnil
      rw [hnil] at hlarge
      exact absurd hlarge (Nat.not_lt_zero _)

/-! ## The pulls find the same faults -/

section Lexemes
variable {a : Alphabet}

theorem faultsIn_of_blank {gap : List Char} (hg : ∀ d ∈ gap, isBlank d = true) (p : Position)
    (rest : List Char) :
    faultsIn a false p (gap ++ rest) = faultsIn a false (p.advanceBy gap) rest := by
  induction gap generalizing p with
  | nil => rfl
  | cons c gap ih =>
    have hb := hg c (by simp)
    have hn := continuesName_of_isBlank a hb
    have hcause : causeAt? a false (c :: (gap ++ rest)) = none := by
      rw [causeAt?, if_neg (ne_true_of_eq_false hn), if_neg (by simp [hb])]
    rw [List.cons_append, faultsIn, hcause, hn, ih (fun d hd => hg d (by simp [hd]))]
    rfl

theorem faultsIn_of_name {cs : List Char} (hn : ∀ d ∈ cs, a.continuesName d = true) (p : Position)
    (rest : List Char) :
    faultsIn a true p (cs ++ rest) = faultsIn a true (p.advanceBy cs) rest := by
  induction cs generalizing p with
  | nil => rfl
  | cons c cs ih =>
    have hc := hn c (by simp)
    have hcause : causeAt? a true (c :: (cs ++ rest)) = none :=
      causeAt?_of_continuesName hc (by simp)
    rw [List.cons_append, faultsIn, hcause, hc, ih (fun d hd => hn d (by simp [hd]))]
    rfl

/-- Before no digit it does not matter whether a name goes on. -/
theorem faultsIn_inName {cs : List Char} (h : ∀ d ∈ cs.head?, isDigit d = false) (p : Position) :
    faultsIn a true p cs = faultsIn a false p cs := by
  cases cs with
  | nil => rfl
  | cons c cs =>
    have hd : isDigit c = false := h c rfl
    have hcause : causeAt? a true (c :: cs) = causeAt? a false (c :: cs) := by
      cases hc : a.continuesName c with
      | true =>
        rw [causeAt?_of_continuesName hc (fun _ => hd),
          causeAt?_of_continuesName hc (fun _ => hd)]
      | false => simp [causeAt?, hc]
    rw [faultsIn, faultsIn, hcause]

variable {c : Char} {tail rest : List Char}

theorem causeAt?_eq_some_iff (hb : isBlank c = false)
    (ht : a.lexemeTail c (tail ++ rest) = tail) (cause : Fault.Cause) :
    causeAt? a false (c :: (tail ++ rest)) = some cause ↔ a.meaning c tail = .error cause := by
  rcases a.first_cases c with hd | hs | hn
  · rw [a.lexemeTail_of_isDigit hd] at ht
    rw [a.meaning_of_isDigit hd, integerMeaning, causeAt?, if_pos (a.continuesName_of_isDigit hd),
      List.takeWhile_cons_of_pos hd, ht]
    by_cases hl : Nat.ofDigitChars 10 (c :: tail) 0 ≤ maxInteger
    · rw [if_neg (fun h => absurd hl (Nat.not_le.2 h.2)), if_pos hl]
      simp
    · rw [if_pos ⟨rfl, Nat.not_le.1 hl⟩, if_neg hl]
      simp
  · rw [Alphabet.meaning_of_startsName hs,
      causeAt?_of_continuesName (Alphabet.continuesName_of_startsName hs)
        (fun _ => Alphabet.isDigit_of_startsName hs)]
    simp
  · rw [Alphabet.meaning_of_not_continuesName hn, signMeaning, causeAt?,
      if_neg (ne_true_of_eq_false hn)]
    cases Punctuation.ofChar? c <;> simp [hb]

theorem faultsIn_of_lexeme (ht : a.lexemeTail c (tail ++ rest) = tail) (p : Position) :
    faultsIn a false p (c :: tail ++ rest) =
      ((causeAt? a false (c :: (tail ++ rest))).map (Fault.mk · p)).toList ++
        faultsIn a false (p.advanceBy (c :: tail)) rest := by
  -- No fault lies inside the lexeme, and none depends on it behind its end.
  have hrest : faultsIn a (a.continuesName c) (p.advance c) (tail ++ rest) =
      faultsIn a false ((p.advance c).advanceBy tail) rest := by
    rcases a.first_cases c with hd | hs | hn
    · rw [a.lexemeTail_of_isDigit hd] at ht
      obtain ⟨htail, hstop⟩ := stop_of_takeWhile_append ht
      rw [a.continuesName_of_isDigit hd,
        faultsIn_of_name (fun d hm => a.continuesName_of_isDigit (htail d hm)),
        faultsIn_inName hstop]
    · rw [Alphabet.lexemeTail_of_startsName hs] at ht
      obtain ⟨htail, hstop⟩ := stop_of_takeWhile_append ht
      rw [Alphabet.continuesName_of_startsName hs, faultsIn_of_name htail,
        faultsIn_inName fun d hm => Alphabet.isDigit_of_not_continuesName (hstop d hm)]
    · rw [Alphabet.lexemeTail_of_not_continuesName hn] at ht
      rw [hn, ← ht]
      rfl
  rw [List.cons_append, faultsIn, hrest]
  rfl

end Lexemes

namespace Lexer

theorem faults_pulled_cons (p q : Position) (m : Except Fault.Cause (Kind × Value))
    (cause? : Option Fault.Cause) (h : ∀ cause, cause? = some cause ↔ m = .error cause)
    (rs : List Pulled) :
    faults (pulled p q m :: rs) = (cause?.map (Fault.mk · p)).toList ++ faults rs := by
  cases m with
  | error cause =>
    rw [(h cause).2 rfl]
    rfl
  | ok k =>
    cases cause? with
    | none => rfl
    | some cause => cases (h cause).1 rfl

/-- The faults of a run are those that the characters show. -/
theorem faults_run (l : Lexer) :
    faults l.run = faultsIn l.alphabet false l.input.opening.here l.input.opening.rest := by
  fun_induction run l with
  | case1 l h =>
    rcases l.next_cases with hn | ⟨gap, c, tail, rest, hn⟩
    · have hnone := faultsIn_of_blank (a := l.alphabet) hn.blank l.input.opening.here []
      rw [List.append_nil] at hnone
      rw [hn.result, hnone]
      rfl
    · exact absurd (hn.isEnd.symm.trans h) Bool.false_ne_true
  | case2 l h ih =>
    rcases l.next_cases with hn | ⟨gap, c, tail, rest, hn⟩
    · exact absurd hn.isEnd h
    · rw [l.next_opening, l.next_alphabet, hn.rest_eq, hn.here] at ih
      rw [hn.result, faults_pulled_cons _ _ _ _ (causeAt?_eq_some_iff hn.head hn.munch), ih,
        hn.text, faultsIn_of_blank hn.blank, faultsIn_of_lexeme hn.munch]

theorem mem_faults_run_iff {a : Alphabet} {s : String} {f : Fault} :
    f ∈ faults (ofString s a).run ↔ FaultOf a s f := by
  obtain ⟨hs, hrest⟩ := Input.stands_opening_ofString s
  rw [faultOf_iff, faults_run, ← hrest]
  have hhere : (ofString s a).input.opening.here = Position.behind (Text.markOf s) := hs.here
  rw [hhere]
  rfl

theorem pairwise_faults_run (l : Lexer) :
    (faults l.run).Pairwise fun f g => f.place.offset < g.place.offset := by
  rw [faults_run]
  exact pairwise_faultsIn _ _ _ _

theorem head?_eq_some_iff_of_pairwise {fs : List Fault}
    (h : fs.Pairwise fun f g => f.place.offset < g.place.offset) (f : Fault) :
    fs.head? = some f ↔ f ∈ fs ∧ ∀ g ∈ fs, f.place.offset ≤ g.place.offset := by
  cases h with
  | nil => simp
  | @cons e fs he _ =>
    constructor
    · intro hf
      cases hf
      refine ⟨by simp, fun g hg => ?_⟩
      rcases List.mem_cons.1 hg with rfl | hg
      · exact Nat.le_refl _
      · exact Nat.le_of_lt (he g hg)
    · rintro ⟨hf, hle⟩
      rcases List.mem_cons.1 hf with rfl | hf
      · rfl
      · exact absurd (hle e (by simp)) (Nat.not_le.2 (he f hf))

end Lexer

/-- **The faults are those of the characters.** A run that goes on after faults meets the faults of
the text and no others, one behind the other. So a text without faults, and no other, gives its
tokens; of the others the fault that lies first is given. -/
theorem Lexer.faults_exact (a : Alphabet) (s : String) :
    (∀ f, f ∈ faults (ofString s a).run ↔ FaultOf a s f) ∧
    (faults (ofString s a).run).Pairwise (fun f g => f.place.offset < g.place.offset) ∧
    ((∃ ts, (ofString s a).tokens.1 = .ok ts) ↔ ∀ f, ¬ FaultOf a s f) ∧
    ∀ f, (ofString s a).tokens.1 = .error f ↔
      FaultOf a s f ∧ ∀ g, FaultOf a s g → f.place.offset ≤ g.place.offset := by
  have hmem : ∀ f, f ∈ faults (ofString s a).run ↔ FaultOf a s f := fun f => mem_faults_run_iff
  have hsorted := pairwise_faults_run (ofString s a)
  refine ⟨hmem, hsorted, ?_, fun f => ?_⟩
  · rw [exists_tokens_eq_ok_iff, List.eq_nil_iff_forall_not_mem]
    exact forall_congr' fun f => not_congr (hmem f)
  · rw [tokens_eq_error_iff, head?_eq_some_iff_of_pairwise hsorted, hmem]
    exact and_congr_right fun _ => forall_congr' fun g => imp_congr_left (hmem g)

end PLZero
