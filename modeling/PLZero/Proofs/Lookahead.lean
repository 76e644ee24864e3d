import PLZero.Proofs.Runs
import PLZero.Proofs.Schedule
import PLZero.Proofs.Tiling

/-! How far a lexer looks ahead. A lexeme is settled by the first character behind it, so what is
appended to a text changes no lexeme that ends before the end of the text.

* `Lexer.Extends`: two lexers stand alike, and the second one has more characters left.
* `Lexer.Extends.next`: a pull that leaves a character keeps this, and both give the same result.
* `Lexer.Extends.later_succ`: so does a row of pulls, as long as the last of them leaves one.
* `Lexer.run_settled`: the same of whole texts, and only the last lexeme can reach the end. -/
namespace PLZero
set_option autoImplicit false

namespace Lexer

/-- `m` stands where `l` does, and has the characters `more` behind those that `l` has left. -/
structure Extends (more : List Char) (l m : Lexer) : Prop where
  alphabet : m.alphabet = l.alphabet
  here : m.input.opening.here = l.input.opening.here
  rest : m.input.opening.rest = l.input.opening.rest ++ more

/-! ## Nothing comes after the end -/

theorem rest_ne_nil_of_not_end {l : Lexer} (h : isEnd l.next.1 = false) : l.input.rest ≠ [] := by
  intro hnil
  have hlt := l.next_rest_length_lt h
  rw [hnil] at hlt
  exact absurd hlt (Nat.not_lt_zero _)

theorem next_rest_of_nil {l : Lexer} (h : l.input.rest = []) : l.next.2.input.rest = [] := by
  rcases l.next_cases with hn | ⟨gap, c, tail, rest, hn⟩
  · exact hn.rest_eq
  · exact absurd h (rest_ne_nil_of_not_end hn.isEnd)

theorem later_rest_of_nil {l : Lexer} (h : l.input.rest = []) (k : Nat) :
    (l.later k).input.rest = [] := by
  induction k with
  | zero => exact h
  | succ k ih => exact next_rest_of_nil ih

/-! ## Two lexers side by side -/

namespace Extends
variable {more : List Char} {l m : Lexer}

theorem next (h : Extends more l m) (hr : l.next.2.input.rest ≠ []) :
    m.next.1 = l.next.1 ∧ Extends more l.next.2 m.next.2 := by
  rcases l.next_cases with hn | ⟨gap, c, tail, rest, hn⟩
  · exact absurd hn.rest_eq hr
  · rw [hn.rest_eq] at hr
    -- The character after the lexeme is the same in both texts.
    have hhead : ∀ d ∈ (rest ++ more).head?, d ∈ rest.head? ∨ isBlank d = true := by
      intro d hd
      cases rest with
      | nil => exact absurd rfl hr
      | cons e rest => exact .inl hd
    have hlead := hn.leads.of_head hhead
    rw [← h.alphabet] at hlead
    have hm : m.AtLexeme gap c tail (rest ++ more) := by
      refine ⟨?_, hlead.blank, hlead.head, hlead.munch⟩
      rw [h.rest, hn.text, List.append_assoc, List.append_assoc]
    refine ⟨?_, ?_, ?_, ?_⟩
    · rw [hm.result, hn.result, h.here, h.alphabet]
    · rw [next_alphabet, next_alphabet, h.alphabet]
    · rw [next_opening, next_opening, hm.here, hn.here, h.here]
    · rw [next_opening, next_opening, hm.rest_eq, hn.rest_eq]

theorem later_succ (h : Extends more l m) (k : Nat) (hr : (l.later (k + 1)).input.rest ≠ []) :
    m.stream k = l.stream k ∧ Extends more (l.later (k + 1)) (m.later (k + 1)) := by
  induction k generalizing l m with
  | zero => exact h.next hr
  | succ k ih =>
    rw [Lexer.later_succ] at hr
    have hfirst : l.next.2.input.rest ≠ [] := fun hnil => hr (later_rest_of_nil hnil (k + 1))
    obtain ⟨hstream, hnext⟩ := ih (h.next hfirst).2 hr
    rw [stream_succ, stream_succ, Lexer.later_succ l, Lexer.later_succ m]
    exact ⟨hstream, hnext⟩

theorem stream_of_le (h : Extends more l m) {i k : Nat} (hi : i ≤ k)
    (hr : (l.later (k + 1)).input.rest ≠ []) : m.stream i = l.stream i := by
  obtain ⟨d, rfl⟩ := Nat.exists_eq_add_of_le hi
  refine (h.later_succ i fun hnil => hr ?_).1
  have hsum : i + d + 1 = i + 1 + d := by omega
  rw [hsum, later_add]
  exact later_rest_of_nil hnil d

end Extends

/-! ## Whole texts -/

theorem extends_ofString {s : String} (hs : s.toList ≠ []) (a : Alphabet) (t : String) :
    Extends t.toList (ofString s a) (ofString (s ++ t) a) := by
  obtain ⟨hstands, hrest⟩ := Input.stands_opening_ofString s
  obtain ⟨hstands', hrest'⟩ := Input.stands_opening_ofString (s ++ t)
  rw [Text.markOf_append fun hnil => absurd hnil hs] at hstands'
  rw [Text.body_append fun hnil => absurd hnil hs] at hrest'
  refine ⟨rfl, ?_, ?_⟩
  · exact hstands'.here.trans hstands.here.symm
  · show (Input.ofString (s ++ t)).opening.rest = (Input.ofString s).opening.rest ++ t.toList
    rw [hrest', hrest]

theorem later_stands (s : String) (a : Alphabet) (k : Nat) :
    ∃ mark read, ((ofString s a).later k).input.Stands s mark read := by
  induction k with
  | zero => exact ⟨[], [], Input.stands_ofString s⟩
  | succ k ih =>
    obtain ⟨mark, read, h⟩ := ih
    obtain ⟨read, h⟩ := perform_keeps Input.kept_stands h .next
    exact ⟨_, read, h⟩

theorem stop_of_later (l : Lexer) (k : Nat) :
    (l.later k).pull.stop = (l.later (k + 1)).input.here := (l.later k).pull_order.2.2

/-- Pulls that leave two lexers alike have ended alike. -/
theorem stop_eq_of_extends {more : List Char} {l m : Lexer} {k : Nat}
    (h : Extends more (l.later (k + 1)) (m.later (k + 1))) :
    (m.later k).pull.stop = (l.later k).pull.stop := by
  have hl : (l.later (k + 1)).input.opening = (l.later (k + 1)).input := next_opening _
  have hm : (m.later (k + 1)).input.opening = (m.later (k + 1)).input := next_opening _
  rw [stop_of_later, stop_of_later, ← hl, ← hm]
  exact h.here

theorem stop_offset_lt_iff (s : String) (a : Alphabet) (k : Nat) :
    ((ofString s a).later k).pull.stop.offset < s.utf8ByteSize ↔
      ((ofString s a).later (k + 1)).input.rest ≠ [] := by
  obtain ⟨mark, read, h⟩ := later_stands s a (k + 1)
  rw [stop_of_later, h.offset_lt_iff]

end Lexer

/-- **One character settles a lexeme.** Every result of a run whose lexeme ends before the end of
the text is found again, at its place, in the run on the text with anything appended; the lexeme
ends where it did. All results but the last one before the end are such. -/
theorem Lexer.run_settled (a : Alphabet) (s t : String) :
    let l := ofString s a
    let m := ofString (s ++ t) a
    (∀ k r, l.run[k]? = some r → (l.later k).pull.stop.offset < s.utf8ByteSize →
      (l.later k).pull.result = r ∧ m.run[k]? = some r ∧
        (m.later k).pull.stop = (l.later k).pull.stop) ∧
    ∀ k, k + 2 < l.run.length → (l.later k).pull.stop.offset < s.utf8ByteSize := by
  intro l m
  refine ⟨fun k r hk hstop => ?_, fun k hk => ?_⟩
  · obtain ⟨hresult, hbefore⟩ := getElem?_run.1 hk
    have hleft := (stop_offset_lt_iff s a k).1 hstop
    have hs : s.toList ≠ [] := fun hnil =>
      hleft (later_rest_of_nil (l := ofString s a) hnil (k + 1))
    have hext := extends_ofString hs a t
    obtain ⟨hstream, hnext⟩ := hext.later_succ k hleft
    have hbefore' : ∀ i < k, isEnd (m.stream i) = false := by
      intro i hi
      rw [hext.stream_of_le (Nat.le_of_lt hi) hleft]
      exact hbefore i hi
    exact ⟨hresult, getElem?_run.2 ⟨hstream.trans hresult, hbefore'⟩, stop_eq_of_extends hnext⟩
  · obtain ⟨-, hbefore⟩ := getElem?_run.1 (List.getElem?_eq_getElem hk)
    exact (stop_offset_lt_iff s a k).2 (rest_ne_nil_of_not_end (hbefore (k + 1) (by omega)))

/-- A literal that is too large, and a name that goes on in the text appended. -/
theorem Lexer.run_settled_over_fault :
    let s := "\ufeff99999999999 é"
    let r : Pulled := .error ⟨.integerOverflow, ⟨3, 1, 1⟩⟩
    ((ofString s .unicode).run[0]? = some r ∧
      ((ofString s .unicode).later 0).pull.stop.offset < s.utf8ByteSize ∧
      (ofString (s ++ "1") .unicode).run[0]? = some r) ∧
    2 < (ofString s .unicode).run.length := by
  intro s r
  have hrun : (ofString s .unicode).run = [r,
      .ok ⟨.identifier, .text "é", ⟨15, 1, 13⟩, ⟨17, 1, 14⟩⟩, .ok (.endAt ⟨17, 1, 14⟩)] := by
    decide +kernel
  have hfirst : (ofString s .unicode).run[0]? = some r := by rw [hrun]; rfl
  have hlength : 0 + 2 < (ofString s .unicode).run.length := by rw [hrun]; decide
  obtain ⟨hsettled, hends⟩ := run_settled .unicode s "1"
  have hstop := hends 0 hlength
  exact ⟨⟨hfirst, hstop, (hsettled 0 r hfirst hstop).2.1⟩, hlength⟩

/-- A lexeme that reaches the end of the text may go on. -/
example : (Lexer.ofString "en" .ascii).run[0]? ≠ (Lexer.ofString ("en" ++ "d") .ascii).run[0]? := by
  decide +kernel

end PLZero
