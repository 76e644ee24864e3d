/-! Sets of characters given by ranges of code points, in ascending order.

* `inRanges` looks a character up; it stops at the first range that lies beyond it.
* `inRanges_iff`: in ascending ranges, this finds the characters of all ranges. -/
namespace PLZero.Text
set_option autoImplicit false

/-- The code points from `first` to `last`, both included. -/
structure CodeRange where
  first : Nat
  last : Nat
  deriving DecidableEq, Repr

def inRangesFrom (n : Nat) : List CodeRange → Bool
  | [] => false
  | r :: rs => if n < r.first then false else decide (n ≤ r.last) || inRangesFrom n rs

def inRanges (rs : List CodeRange) (c : Char) : Bool := inRangesFrom c.toNat rs

/-- Every range begins after the one before it has ended. -/
def ascending : List CodeRange → Bool
  | [] => true
  | [r] => decide (r.first ≤ r.last)
  | r :: s :: rs => decide (r.first ≤ r.last) && decide (r.last < s.first) && ascending (s :: rs)

theorem first_lt_of_ascending {r : CodeRange} {rs : List CodeRange}
    (h : ascending (r :: rs) = true) : ∀ s ∈ rs, r.first < s.first := by
  induction rs generalizing r with
  | nil => simp
  | cons s rs ih =>
    simp only [ascending, Bool.and_eq_true, decide_eq_true_eq] at h
    intro t ht
    rcases List.mem_cons.1 ht with rfl | ht
    · omega
    · exact Nat.lt_trans (by omega) (ih h.2 t ht)

theorem ascending_tail {r : CodeRange} {rs : List CodeRange} (h : ascending (r :: rs) = true) :
    ascending rs = true := by
  cases rs with
  | nil => rfl
  | cons s rs => simp only [ascending, Bool.and_eq_true] at h; exact h.2

theorem inRanges_iff {rs : List CodeRange} (h : ascending rs = true) {c : Char} :
    inRanges rs c = true ↔ ∃ r ∈ rs, r.first ≤ c.toNat ∧ c.toNat ≤ r.last := by
  unfold inRanges
  induction rs with
  | nil => simp [inRangesFrom]
  | cons r rs ih =>
    have hs := first_lt_of_ascending h
    have ih := ih (ascending_tail h)
    rw [inRangesFrom]
    split
    · next hc =>
      refine ⟨fun h => by simp at h, ?_⟩
      rintro ⟨s, hm, hf, -⟩
      rcases List.mem_cons.1 hm with rfl | hm
      · omega
      · have := hs s hm
        omega
    · next hc =>
      rw [Bool.or_eq_true, decide_eq_true_eq, ih]
      constructor
      · rintro (hl | ⟨s, hm, hc⟩)
        · exact ⟨r, List.mem_cons_self, by omega, hl⟩
        · exact ⟨s, List.mem_cons_of_mem _ hm, hc⟩
      · rintro ⟨s, hm, hi⟩
        rcases List.mem_cons.1 hm with rfl | hm
        · exact .inl hi.2
        · exact .inr ⟨s, hm, hi⟩

end PLZero.Text
