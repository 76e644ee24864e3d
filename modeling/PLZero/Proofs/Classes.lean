import PLZero.Lexeme.Lexer

/-! How the classes of characters lie to each other. Every class is a row of ranges, and two rows
whose ranges do not meet share no character.

* `startsName_eq` and `isDigit_eq` give the classes of an alphabet as ranges.
* `continuesName_eq`: a name goes on with what may start one, or with a digit.
* Blanks, the starts of names, digits and punctuation exclude each other, and a byte order mark
  is in none of these classes. -/
namespace PLZero
set_option autoImplicit false

namespace Text

/-- No range of `rs` meets a range of `ss`. -/
def apart (rs ss : List CodeRange) : Bool :=
  rs.all fun r => ss.all fun s => decide (r.last < s.first) || decide (s.last < r.first)

theorem inRanges_eq_false_of_apart {rs ss : List CodeRange} (hr : ascending rs = true)
    (hs : ascending ss = true) (h : apart rs ss = true) {c : Char} (hc : inRanges rs c = true) :
    inRanges ss c = false := by
  obtain ⟨r, hrm, hrf, hrl⟩ := (inRanges_iff hr).1 hc
  rw [← Bool.not_eq_true, inRanges_iff hs]
  rintro ⟨s, hsm, hsf, hsl⟩
  have hrs := List.all_eq_true.1 (List.all_eq_true.1 h r hrm) s hsm
  rw [Bool.or_eq_true, decide_eq_true_eq, decide_eq_true_eq] at hrs
  omega

end Text

open Text (CodeRange inRanges apart ascending letterRanges inRanges_eq_false_of_apart)

def digitRanges : List CodeRange := [⟨0x30, 0x39⟩]

theorem ascending_digitRanges : ascending digitRanges = true := by decide

theorem isDigit_eq (c : Char) : isDigit c = inRanges digitRanges c := by
  have h : isDigit c = (decide (48 ≤ c.toNat) && decide (c.toNat ≤ 57)) := rfl
  rw [h, inRanges, digitRanges, Text.inRangesFrom, Text.inRangesFrom]
  by_cases hc : 48 ≤ c.toNat
  · simp [hc, Nat.not_lt.2 hc]
  · simp [hc, Nat.not_le.1 hc]

namespace Alphabet

/-- The characters that start a name. -/
def startRanges : Alphabet → List CodeRange
  | unicode => letterRanges
  | ascii => [⟨0x41, 0x5A⟩, ⟨0x5F, 0x5F⟩, ⟨0x61, 0x7A⟩]

theorem ascending_startRanges (a : Alphabet) : ascending a.startRanges = true := by
  cases a with
  | unicode => exact Text.ascending_letterRanges
  | ascii => decide

theorem startsName_eq (a : Alphabet) (c : Char) : a.startsName c = inRanges a.startRanges c := by
  cases a with
  | unicode => rfl
  | ascii =>
    have hdef : ascii.startsName c =
        (decide (65 ≤ c.toNat ∧ c.toNat ≤ 90) ||
          (decide (97 ≤ c.toNat) && decide (c.toNat ≤ 122)) || c == '_') := rfl
    have h : ascii.startsName c = true ↔
        (65 ≤ c.toNat ∧ c.toNat ≤ 90) ∨ (97 ≤ c.toNat ∧ c.toNat ≤ 122) ∨ c.toNat = 95 := by
      have hu : c = '_' ↔ c.toNat = 95 := ⟨fun h => h ▸ rfl, fun h => Char.toNat_inj.1 h⟩
      simp only [hdef, Bool.or_eq_true, Bool.and_eq_true, decide_eq_true_eq, beq_iff_eq, hu,
        or_assoc]
    rw [Bool.eq_iff_iff, h, Text.inRanges_iff (ascending_startRanges ascii)]
    simp only [startRanges, List.mem_cons, List.not_mem_nil, or_false, exists_eq_or_imp,
      exists_eq_left]
    omega

/-! ## Names -/

theorem continuesName_eq (a : Alphabet) (c : Char) :
    a.continuesName c = (a.startsName c || isDigit c) := by
  cases a with
  | unicode => rfl
  | ascii =>
    simp only [continuesName, startsName, isDigit, Char.isAlphanum, Bool.or_right_comm]

theorem continuesName_of_startsName {a : Alphabet} {c : Char} (h : a.startsName c = true) :
    a.continuesName c = true := by
  rw [continuesName_eq, h, Bool.true_or]

theorem continuesName_of_isDigit (a : Alphabet) {c : Char} (h : isDigit c = true) :
    a.continuesName c = true := by
  rw [continuesName_eq, h, Bool.or_true]

theorem startsName_of_isLower (a : Alphabet) {c : Char} (h : c.isLower = true) :
    a.startsName c = true := by
  have hdef : c.isLower = (decide (97 ≤ c.toNat) && decide (c.toNat ≤ 122)) := rfl
  rw [hdef, Bool.and_eq_true, decide_eq_true_eq, decide_eq_true_eq] at h
  rw [startsName_eq, Text.inRanges_iff a.ascending_startRanges]
  refine ⟨⟨0x61, 0x7A⟩, ?_, h⟩
  cases a with
  | unicode => decide +kernel
  | ascii => decide

theorem isDigit_of_not_continuesName {a : Alphabet} {c : Char} (h : a.continuesName c = false) :
    isDigit c = false := by
  rw [continuesName_eq, Bool.or_eq_false_iff] at h
  exact h.2

theorem isDigit_of_startsName {a : Alphabet} {c : Char} (h : a.startsName c = true) :
    isDigit c = false := by
  rw [startsName_eq] at h
  rw [isDigit_eq]
  refine inRanges_eq_false_of_apart a.ascending_startRanges ascending_digitRanges ?_ h
  cases a <;> decide +kernel

end Alphabet

/-! ## Blanks -/

theorem ne_of_isBlank {c d : Char} (hc : isBlank c = false) (hd : isBlank d = true) : c ≠ d := by
  rintro rfl
  rw [hc] at hd
  cases hd

theorem isDigit_of_isBlank {c : Char} (h : isBlank c = true) : isDigit c = false := by
  rw [isDigit_eq]
  exact inRanges_eq_false_of_apart ascending_blankRanges ascending_digitRanges (by decide) h

theorem startsName_of_isBlank (a : Alphabet) {c : Char} (h : isBlank c = true) :
    a.startsName c = false := by
  rw [Alphabet.startsName_eq]
  refine inRanges_eq_false_of_apart ascending_blankRanges a.ascending_startRanges ?_ h
  cases a <;> decide +kernel

theorem continuesName_of_isBlank (a : Alphabet) {c : Char} (h : isBlank c = true) :
    a.continuesName c = false := by
  rw [Alphabet.continuesName_eq, startsName_of_isBlank a h, isDigit_of_isBlank h, Bool.false_or]

theorem isBlank_of_continuesName {a : Alphabet} {c : Char} (h : a.continuesName c = true) :
    isBlank c = false := by
  rw [← Bool.not_eq_true]
  intro hb
  rw [continuesName_of_isBlank a hb] at h
  exact Bool.noConfusion h

/-! ## Fixed lexemes -/

namespace Keyword

theorem ofSpelling?_spelling (k : Keyword) : ofSpelling? k.spelling = some k := by cases k <;> rfl

theorem spelling_ne_nil (k : Keyword) : k.spelling.toList ≠ [] := by cases k <;> decide

theorem startsName_of_mem (a : Alphabet) {k : Keyword} {c : Char} (h : c ∈ k.spelling.toList) :
    a.startsName c = true := by
  have hall : k.spelling.toList.all Char.isLower = true := by cases k <;> rfl
  exact a.startsName_of_isLower (List.all_eq_true.1 hall c h)

end Keyword

namespace Punctuation

theorem ofChar?_char (p : Punctuation) : ofChar? p.char = some p := by cases p <;> rfl

theorem isBlank_char (p : Punctuation) : isBlank p.char = false := by cases p <;> decide

theorem continuesName_char (a : Alphabet) (p : Punctuation) : a.continuesName p.char = false := by
  cases a <;> cases p <;> decide +kernel

end Punctuation

/-! ## The byte order mark -/

theorem isBlank_byteOrderMark : isBlank byteOrderMark = false := by decide

theorem continuesName_byteOrderMark (a : Alphabet) : a.continuesName byteOrderMark = false := by
  cases a <;> decide +kernel

end PLZero
