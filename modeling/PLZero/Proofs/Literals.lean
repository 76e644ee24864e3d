import Mathlib.Data.Nat.Digits.Defs
import PLZero.Proofs.Scanner

/-! Integer literals of any length. Each digit of a literal counts by its place. A pull that meets a
row of digits takes the whole row, and gives its value or says that it is too large.

* `Text.decimal` is the value of a row of digits; leading zeros add nothing to it.
* `Text.parseWord?` finds the value in words of 32 bits, and gives up as soon as a product or a sum
  leaves their range. By `Text.parseWord?_of_digits` it gives up on no value that fits.
* `Lexer.atLexeme_of_digits`: a row of digits that nothing prolongs is a lexeme.
* `Lexer.literal_has_its_value` puts this together for every state that a history can lead to. -/
namespace PLZero
set_option autoImplicit false

open Text (bytes)

/-! ## The value of a row of digits -/

namespace Text

def digitValue (c : Char) : Nat := c.toNat - '0'.toNat

/-- The last digit counts once, and every other one ten times as much as the digit behind it. -/
def decimal (cs : List Char) : Nat := Nat.ofDigits 10 (cs.map digitValue).reverse

theorem decimal_cons (c : Char) (cs : List Char) :
    decimal (c :: cs) = decimal cs + 10 ^ cs.length * digitValue c := by
  rw [decimal, List.map_cons, Nat.ofDigits_reverse_cons, List.length_map]
  rfl

theorem ofDigitChars_eq_decimal (cs : List Char) : Nat.ofDigitChars 10 cs 0 = decimal cs := by
  induction cs with
  | nil => rfl
  | cons c cs ih =>
    rw [Nat.ofDigitChars_cons, Nat.ofDigitChars_eq_ofDigitChars_zero, ih, decimal_cons,
      Nat.mul_zero, Nat.zero_add, Nat.add_comm]
    rfl

theorem decimal_zeros_append (k : Nat) (cs : List Char) :
    decimal (List.replicate k '0' ++ cs) = decimal cs := by
  induction k with
  | zero => rfl
  | succ k ih =>
    rw [List.replicate_succ, List.cons_append, decimal_cons, ih]
    exact Nat.add_zero _

theorem digitValue_lt {c : Char} (h : isDigit c = true) : digitValue c < 10 := by
  have hc := Char.isDigit_iff_toNat.1 h
  have hzero : '0'.toNat = 48 := rfl
  have hnine : '9'.toNat = 57 := rfl
  unfold digitValue
  omega

theorem utf8Size_of_isDigit {c : Char} (h : isDigit c = true) : c.utf8Size = 1 := by
  have hc := (Char.isDigit_iff_toNat.1 h).2
  have hnine : '9'.toNat = 57 := rfl
  rw [Char.utf8Size_eq_one_iff, UInt32.le_iff_toNat_le]
  exact Nat.le_trans hc (by decide)

theorem bytes_of_digits {cs : List Char} (h : ∀ c ∈ cs, isDigit c = true) :
    bytes cs = cs.length := by
  induction cs with
  | nil => rfl
  | cons c cs ih =>
    obtain ⟨hc, hcs⟩ := List.forall_mem_cons.1 h
    rw [bytes_cons, utf8Size_of_isDigit hc, ih hcs, List.length_cons, Nat.add_comm]

/-! ## Words of 32 bits -/

/-- One more digit behind a number, unless the product or the sum leaves the range of a word. -/
def pushDigit? (n : BitVec 32) (c : Char) : Option (BitVec 32) :=
  if isDigit c = true ∧ n.smulOverflow 10 = false then
    let d := BitVec.ofNat 32 (digitValue c)
    if (n * 10).saddOverflow d = true then none else some (n * 10 + d)
  else none

/-- There has to be a digit. -/
def parseWord? : List Char → Option (BitVec 32)
  | [] => none
  | cs => cs.foldlM pushDigit? 0

theorem toInt_ofNat {n : Nat} (h : n ≤ maxInteger) : (BitVec.ofNat 32 n).toInt = n := by
  have hmax : maxInteger = 2147483647 := rfl
  have hn : (BitVec.ofNat 32 n).toNat = n := by
    rw [BitVec.toNat_ofNat]
    exact Nat.mod_eq_of_lt (by omega)
  rw [BitVec.toInt_eq_toNat_of_lt (by omega), hn]

theorem smulOverflow_ten_iff {n : Nat} (h : n ≤ maxInteger) :
    (BitVec.ofNat 32 n).smulOverflow 10 = true ↔ maxInteger < 10 * n := by
  have hmax : maxInteger = 2147483647 := rfl
  have hten : (10 : BitVec 32).toInt = 10 := rfl
  unfold BitVec.smulOverflow
  rw [toInt_ofNat h, hten, Bool.or_eq_true, decide_eq_true_eq, decide_eq_true_eq]
  omega

theorem saddOverflow_digit_iff {m d : Nat} (hm : m ≤ maxInteger) (hd : d < 10) :
    (BitVec.ofNat 32 m).saddOverflow (BitVec.ofNat 32 d) = true ↔ maxInteger < m + d := by
  have hmax : maxInteger = 2147483647 := rfl
  unfold BitVec.saddOverflow
  rw [toInt_ofNat hm, toInt_ofNat (by omega), Bool.or_eq_true, decide_eq_true_eq,
    decide_eq_true_eq]
  omega

/-- One digit: the word does what the number does. -/
theorem pushDigit?_ofNat {n : Nat} (hn : n ≤ maxInteger) (c : Char) :
    pushDigit? (BitVec.ofNat 32 n) c = (addDigit? n c).map (BitVec.ofNat 32) := by
  have hvalue : c.toNat - '0'.toNat = digitValue c := rfl
  unfold pushDigit? addDigit?
  rw [hvalue]
  dsimp only
  by_cases hc : isDigit c = true
  · have hd := digitValue_lt hc
    by_cases hten : maxInteger < 10 * n
    · have hmul := (smulOverflow_ten_iff hn).2 hten
      rw [if_neg fun h => Bool.false_ne_true (h.2.symm.trans hmul), if_neg (by omega)]
      rfl
    · have hmul := Bool.eq_false_iff.2 (mt (smulOverflow_ten_iff hn).1 hten)
      have hword : BitVec.ofNat 32 n * 10 = BitVec.ofNat 32 (10 * n) := by
        rw [Nat.mul_comm, BitVec.ofNat_mul]
        rfl
      have hadd := saddOverflow_digit_iff (Nat.not_lt.1 hten) hd
      rw [if_pos ⟨hc, hmul⟩, hword]
      by_cases hsum : maxInteger < 10 * n + digitValue c
      · rw [if_pos (hadd.2 hsum), if_neg (by omega)]
        rfl
      · rw [if_neg (mt hadd.1 hsum), if_pos ⟨hc, Nat.not_lt.1 hsum⟩, Option.map_some,
          BitVec.ofNat_add]
  · rw [if_neg fun h => hc h.1, if_neg fun h => hc h.1]
    rfl

theorem addDigit?_le {n m : Nat} {c : Char} (h : addDigit? n c = some m) : m ≤ maxInteger := by
  unfold addDigit? at h
  dsimp only at h
  split at h
  · next hm =>
    cases h
    exact hm.2
  · cases h

theorem foldlM_pushDigit? {n : Nat} (hn : n ≤ maxInteger) (cs : List Char) :
    cs.foldlM pushDigit? (BitVec.ofNat 32 n) =
      (cs.foldlM addDigit? n).map (BitVec.ofNat 32) := by
  -- The bound on the number is what lets the next digit be pushed.
  induction cs generalizing n with
  | nil => rfl
  | cons c cs ih =>
    rw [List.foldlM_cons, List.foldlM_cons, pushDigit?_ofNat hn]
    cases hm : addDigit? n c with
    | none => rfl
    | some m => exact ih (addDigit?_le hm)

theorem parseWord?_eq_parseInteger? (cs : List Char) :
    parseWord? cs = (parseInteger? cs).map (BitVec.ofNat 32) := by
  cases cs with
  | nil => rfl
  | cons c cs => exact foldlM_pushDigit? (Nat.zero_le _) (c :: cs)

theorem parseWord?_of_digits {cs : List Char} (hne : cs ≠ [])
    (hcs : ∀ c ∈ cs, isDigit c = true) :
    parseWord? cs =
      if decimal cs ≤ maxInteger then some (BitVec.ofNat 32 (decimal cs)) else none := by
  have hparse : parseInteger? cs = cs.foldlM addDigit? 0 := by
    cases cs with
    | nil => exact absurd rfl hne
    | cons c cs => rfl
  rw [parseWord?_eq_parseInteger?, hparse, foldlM_addDigit? hcs (Nat.zero_le _),
    ofDigitChars_eq_decimal]
  split <;> rfl

end Text

open Text (decimal parseWord?)

/-! ## Literals -/

theorem integerMeaning_eq (cs : List Char) :
    integerMeaning cs = if decimal cs ≤ maxInteger then
      .ok (.unsignedInteger, .integer (decimal cs)) else .error .integerOverflow := by
  rw [integerMeaning, Text.ofDigitChars_eq_decimal]

namespace Lexer
variable {l : Lexer} {s : String} {mark read gap digits rest : List Char}

/-- Behind the blanks `gap` come the digits `digits`, and then `rest`, which begins with none. -/
structure AtDigits (l : Lexer) (gap digits rest : List Char) : Prop where
  text : l.input.opening.rest = gap ++ (digits ++ rest)
  blank : ∀ c ∈ gap, isBlank c = true
  digit : ∀ c ∈ digits, isDigit c = true
  nonempty : digits ≠ []
  stop : ∀ c ∈ rest.head?, isDigit c = false

namespace AtDigits

/-- No other character can prolong a row of digits, and none in it can end it. -/
theorem exists_atLexeme (h : l.AtDigits gap digits rest) :
    ∃ c tail, digits = c :: tail ∧ isDigit c = true ∧ l.AtLexeme gap c tail rest := by
  obtain ⟨c, tail, rfl⟩ := List.exists_cons_of_ne_nil h.nonempty
  obtain ⟨hc, htail⟩ := List.forall_mem_cons.1 h.digit
  refine ⟨c, tail, rfl, hc, h.text, h.blank,
    isBlank_of_continuesName (l.alphabet.continuesName_of_isDigit hc), ?_⟩
  rw [l.alphabet.lexemeTail_of_isDigit hc, takeWhile_append_of_stop htail h.stop]

theorem result (h : l.AtDigits gap digits rest) :
    l.next.1 = pulled (l.input.opening.here.advanceBy gap)
      ((l.input.opening.here.advanceBy gap).advanceBy digits) (integerMeaning digits) := by
  obtain ⟨c, tail, rfl, hc, hn⟩ := h.exists_atLexeme
  rw [hn.result, l.alphabet.meaning_of_isDigit hc]

theorem rest_eq (h : l.AtDigits gap digits rest) : l.next.2.input.rest = rest := by
  obtain ⟨c, tail, rfl, -, hn⟩ := h.exists_atLexeme
  exact hn.rest_eq

theorem here (h : l.AtDigits gap digits rest) :
    l.next.2.input.here = (l.input.opening.here.advanceBy gap).advanceBy digits := by
  obtain ⟨c, tail, rfl, -, hn⟩ := h.exists_atLexeme
  exact hn.here

/-- Between the ends of the lexeme lie the digits, so there is something to parse. -/
theorem slice (h : l.AtDigits gap digits rest) (hl : l.input.Stands s mark read) :
    ∃ before, s.toList = before ++ (digits ++ rest) ∧
      (l.input.opening.here.advanceBy gap).offset = bytes before ∧
      l.input.slice (l.input.opening.here.advanceBy gap)
        ((l.input.opening.here.advanceBy gap).advanceBy digits) = String.ofList digits := by
  have hstart := hl.opening.advance gap.length
  have hrest := Input.advance_rest_of_eq h.text
  have hcut := hstart.cut
  have hoffset := hstart.offset
  have hslice := hstart.slice hrest
  rw [Input.advance_here_of_eq h.text] at hoffset hslice
  rw [hrest] at hcut
  refine ⟨_, hcut, hoffset, ?_⟩
  rw [Input.slice, hl.source, Position.advanceBy_offset _ digits, hslice]
  rfl

end AtDigits

/-- **Integer literals have their value, at any length.** Wherever a history has led, let a row of
digits be next behind blanks, and let what follows begin with no digit. The pull gives the value of
the row if this is at most `maxInteger`, and is a fault at the first digit otherwise. It takes
exactly the row; a value that it gives is not negative, and its token spans the row. Words of 32
bits hold the value under the same condition, and the scanner that goes over the bytes agrees. -/
theorem literal_has_its_value (s : String) (acts : List Action) (gap digits rest : List Char)
    (h : ((ofString s default).performAll acts).AtDigits gap digits rest) :
    let l := (ofString s default).performAll acts
    let start := l.input.opening.here.advanceBy gap
    let stop := start.advanceBy digits
    (∃ before, s.toList = before ++ (digits ++ rest) ∧ start.offset = bytes before ∧
      l.input.slice start stop = String.ofList digits) ∧
    (l.next.1 = .ok ⟨.unsignedInteger, .integer (decimal digits), start, stop⟩ ↔
      decimal digits ≤ maxInteger) ∧
    (l.next.1 = .error ⟨.integerOverflow, start⟩ ↔ maxInteger < decimal digits) ∧
    l.next.2.input.rest = rest ∧ l.next.2.input.here = stop ∧
    (∀ t, l.next.1 = .ok t →
      ∃ n, t.integer? = some n ∧ 0 ≤ n ∧ t.extent.length = digits.length) ∧
    (∀ k significant, digits = List.replicate k '0' ++ significant →
      decimal digits = decimal significant) ∧
    (∀ w, parseWord? digits = some w → w.toInt = decimal digits) ∧
    (parseWord? digits = none ↔ maxInteger < decimal digits) ∧
    l.input.cursor.scan? l.alphabet = some (l.next.1, l.next.2.input.cursor) := by
  intro l start stop
  obtain ⟨read, hl⟩ := session_stands s default acts
  have hresult : l.next.1 = pulled start stop (integerMeaning digits) := h.result
  have hword := Text.parseWord?_of_digits h.nonempty h.digit
  rw [integerMeaning_eq] at hresult
  refine ⟨h.slice hl, ?_, ?_, h.rest_eq, h.here, ?_, ?_, ?_, ?_, scan_eq hl⟩
  · rw [hresult]
    split
    · next hle => exact iff_of_true rfl hle
    · next hle => exact iff_of_false (by simp [pulled]) hle
  · rw [hresult]
    split
    · next hle => exact iff_of_false (by simp [pulled]) (Nat.not_lt.2 hle)
    · next hle => exact iff_of_true rfl (Nat.not_le.1 hle)
  · intro t ht
    rw [hresult] at ht
    split at ht
    · cases ht
      refine ⟨_, rfl, Int.natCast_nonneg _, ?_⟩
      show stop.offset - start.offset = digits.length
      rw [Position.advanceBy_offset, Text.bytes_of_digits h.digit, Nat.add_sub_cancel_left]
    · cases ht
  · rintro k significant rfl
    exact Text.decimal_zeros_append k significant
  · intro w hw
    rw [hword] at hw
    split at hw
    · next hle =>
      cases hw
      exact Text.toInt_ofNat hle
    · cases hw
  · rw [hword]
    split
    · next hle => exact iff_of_false (by simp) (Nat.not_lt.2 hle)
    · next hle => exact iff_of_true rfl (Nat.not_le.1 hle)

/-- The largest value behind a sign and many zeros, and a literal just beyond it behind a mark. -/
theorem literal_has_its_value_at_bound :
    (((ofString "= 0000000002147483647)" default).performAll [.next]).AtDigits [' ']
        "0000000002147483647".toList [')'] ∧
      ((ofString "= 0000000002147483647)" default).performAll [.next]).next.1 =
        .ok ⟨.unsignedInteger, .integer 2147483647, ⟨2, 1, 3⟩, ⟨21, 1, 22⟩⟩) ∧
    ((ofString "\ufeff2147483648x" default).performAll []).AtDigits [] "2147483648".toList ['x'] ∧
      ((ofString "\ufeff2147483648x" default).performAll []).next.1 =
        .error ⟨.integerOverflow, ⟨3, 1, 1⟩⟩ := by
  have hsmall : ((ofString "= 0000000002147483647)" default).performAll [.next]).AtDigits [' ']
      "0000000002147483647".toList [')'] :=
    ⟨by decide +kernel, List.all_eq_true.1 (by decide), List.all_eq_true.1 (by decide), by decide,
      fun c hc => by cases hc; decide⟩
  have hlarge : ((ofString "\ufeff2147483648x" default).performAll []).AtDigits []
      "2147483648".toList ['x'] :=
    ⟨by decide +kernel, List.all_eq_true.1 (by decide), List.all_eq_true.1 (by decide), by decide,
      fun c hc => by cases hc; decide⟩
  obtain ⟨-, hvalue, -⟩ := literal_has_its_value _ _ _ _ _ hsmall
  obtain ⟨-, -, hfault, -⟩ := literal_has_its_value _ _ _ _ _ hlarge
  exact ⟨⟨hsmall, (hvalue.2 (by decide)).trans (by decide +kernel)⟩,
    hlarge, (hfault.2 (by decide)).trans (by decide +kernel)⟩

end Lexer

end PLZero
