import PLZero.Proofs.Lookahead
import PLZero.Proofs.Scanner

/-! Progress. A pull that does not find the end moves on, so no loop of pulls goes on for ever; a
pull that finds the end finds it again each time, and nothing moves any more.

* `Lexer.isEnd_next_iff`: the end is found where nothing but blanks is left.
* `Lexer.offset_lt_of_not_end`: any other pull moves on, also one that gives a fault.
* `Lexer.pullUntil?` is a loop of pulls that is given up after a number of turns. By
  `Lexer.exists_pullUntil?` one turn more than characters are left is enough, whatever stops the
  loop; the lemmas after it tell what `run`, `tokens` and passes make of such loops.
* `Lexer.Exhausted` says that nothing is left, and `Exhausted.performAll` that this stays so. -/
namespace PLZero
set_option autoImplicit false

namespace Lexer
variable {l l' : Lexer} {rs : List Pulled} {stop : Pulled → Bool}

/-! ## One pull -/

theorem isEnd_next_iff (l : Lexer) :
    isEnd l.next.1 = true ↔ ∀ c ∈ l.input.opening.rest, isBlank c = true := by
  rcases l.next_cases with h | ⟨gap, c, tail, rest, h⟩
  · exact iff_of_true h.isEnd h.blank
  · refine iff_of_false (ne_true_of_eq_false h.isEnd) fun hblank => ?_
    have hc := hblank c (by rw [h.text]; simp)
    exact Bool.false_ne_true (h.head.symm.trans hc)

theorem offset_lt_of_not_end (h : isEnd l.next.1 = false) :
    l.input.here.offset < l.next.2.input.here.offset := by
  rcases l.next_cases with hn | ⟨gap, c, tail, rest, hn⟩
  · exact absurd (h.symm.trans hn.isEnd) Bool.false_ne_true
  · have ho := l.input.opening_here_le
    have hc := Char.utf8Size_pos c
    rw [hn.here, Position.advanceBy_offset, Position.advanceBy_offset, Text.bytes_cons]
    omega

theorem next_rest_of_end (h : isEnd l.next.1 = true) : l.next.2.input.rest = [] := by
  rcases l.next_cases with hn | ⟨gap, c, tail, rest, hn⟩
  · exact hn.rest_eq
  · exact absurd (hn.isEnd.symm.trans h) Bool.false_ne_true

theorem result_of_end (h : isEnd l.next.1 = true) :
    l.next.1 = .ok (.endAt l.next.2.input.here) := by
  rcases l.next_cases with hn | ⟨gap, c, tail, rest, hn⟩
  · rw [hn.result, hn.here]
  · exact absurd (hn.isEnd.symm.trans h) Bool.false_ne_true

/-- Under any alphabets, no more pulls give something than characters are left. -/
theorem length_pulls_le (l : Lexer) (as : List Alphabet) :
    ((l.pulls as).filter (!·.isEnd)).length ≤ l.input.rest.length := by
  induction as generalizing l with
  | nil => exact Nat.zero_le _
  | cons a as ih =>
    have hmore := ih (l.pullWith a).after
    rw [pulls, List.filter_cons]
    cases he : (l.pullWith a).isEnd with
    | true =>
      have hnil : (l.pullWith a).after.input.rest = [] :=
        next_rest_of_end (l := { l with alphabet := a }) he
      rw [hnil] at hmore
      exact Nat.le_trans hmore (Nat.zero_le _)
    | false =>
      have hlt : (l.pullWith a).after.input.rest.length < l.input.rest.length :=
        next_rest_length_lt { l with alphabet := a } he
      exact Nat.lt_of_le_of_lt hmore hlt

/-! ## Loops of pulls -/

/-- Pulls until a pull stops the loop, and gives the pulls and the lexer behind them. A loop that
has not been stopped in `n` turns gives nothing. -/
def pullUntil? (stop : Pulled → Bool) : Nat → Lexer → Option (List Pulled × Lexer)
  | 0, _ => none
  | n + 1, l =>
    if stop l.next.1 then some ([l.next.1], l.next.2)
    else (pullUntil? stop n l.next.2).map fun (rs, l') => (l.next.1 :: rs, l')

theorem exists_pullUntil? (hend : ∀ r, isEnd r = true → stop r = true) {n : Nat}
    (h : l.input.rest.length < n) : ∃ rs l', pullUntil? stop n l = some (rs, l') := by
  -- A pull that does not stop the loop does not find the end, so it takes a character.
  induction n generalizing l with
  | zero => exact absurd h (Nat.not_lt_zero _)
  | succ n ih =>
    rw [pullUntil?]
    split
    · exact ⟨_, _, rfl⟩
    · next hgo =>
      have hlt := l.next_rest_length_lt (Bool.eq_false_iff.2 (mt (hend _) hgo))
      obtain ⟨rs, l', hrs⟩ := ih (l := l.next.2) (by omega)
      exact ⟨_, _, by rw [hrs]; rfl⟩

/-- A loop ends at its first turn, or goes on as a loop from there. -/
theorem pullUntil?_cases {n : Nat} (h : pullUntil? stop n l = some (rs, l')) :
    (stop l.next.1 = true ∧ rs = [l.next.1] ∧ l' = l.next.2) ∨
    (stop l.next.1 = false ∧ ∃ k ss, n = k + 1 ∧ rs = l.next.1 :: ss ∧
      pullUntil? stop k l.next.2 = some (ss, l')) := by
  cases n with
  | zero => cases h
  | succ k =>
    rw [pullUntil?] at h
    split at h
    · next hs =>
      cases h
      exact .inl ⟨hs, rfl, rfl⟩
    · next hs =>
      obtain ⟨⟨ss, m⟩, hss, heq⟩ := Option.map_eq_some_iff.1 h
      cases heq
      exact .inr ⟨Bool.eq_false_iff.2 hs, k, ss, rfl, rfl, hss⟩

theorem run_of_pullUntil? {n : Nat} (h : pullUntil? isEnd n l = some (rs, l')) : l.run = rs := by
  induction n generalizing l rs with
  | zero => cases h
  | succ n ih =>
    rcases pullUntil?_cases h with ⟨hs, rfl, -⟩ | ⟨hs, k, ss, hk, rfl, hss⟩
    · exact run_of_end hs
    · cases hk
      rw [run_of_not_end hs, ih hss]

theorem tokensAfter_of_pullUntil? {n : Nat} (h : pullUntil? stops n l = some (rs, l'))
    (found : Array Token) :
    tokensAfter found l = ((collect rs).map fun ts => found ++ ts.toArray, l') := by
  fun_induction tokensAfter found l generalizing rs n with
  | case1 found l f m hn =>
    rcases pullUntil?_cases h with ⟨-, rfl, rfl⟩ | ⟨hs, -⟩
    · rw [hn]
      rfl
    · rw [hn] at hs
      cases hs
  | case2 found l t m hn he =>
    rcases pullUntil?_cases h with ⟨-, rfl, rfl⟩ | ⟨hs, -⟩
    · rw [hn]
      simp [collect, Except.map]
    · rw [hn] at hs
      exact absurd he (ne_true_of_eq_false hs)
  | case3 found l t m hn he ih =>
    rcases pullUntil?_cases h with ⟨hs, -, -⟩ | ⟨-, k, ss, -, rfl, hss⟩
    · rw [hn] at hs
      exact absurd hs he
    · rw [hn] at hss ⊢
      rw [ih hss, collect]
      cases collect ss <;> simp [Except.map]

theorem nextN_of_pullUntil? {n : Nat} (h : pullUntil? stops n l = some (rs, l')) (k : Nat) :
    l.pass.nextN (rs.length + k) = (rs.map shown ++ List.replicate k none, ⟨l', true⟩) := by
  induction n generalizing l rs with
  | zero => cases h
  | succ n ih =>
    rcases pullUntil?_cases h with ⟨hs, rfl, rfl⟩ | ⟨hs, m, ss, hm, rfl, hss⟩
    · rw [List.length_singleton, Nat.add_comm, pass_nextN_succ, hs, nextN_of_stopped rfl]
      rfl
    · cases hm
      rw [List.length_cons, Nat.succ_add, pass_nextN_succ, hs, ← pass, ih hss]
      rfl

theorem yields_of_pullUntil? {n : Nat} (h : pullUntil? stops n l = some (rs, l')) :
    l.yields = rs.filterMap shown := by
  fun_induction yields l generalizing rs n with
  | case1 l f m hn =>
    rcases pullUntil?_cases h with ⟨-, rfl, -⟩ | ⟨hs, -⟩
    · rw [hn]
      rfl
    · rw [hn] at hs
      cases hs
  | case2 l t m hn he =>
    rcases pullUntil?_cases h with ⟨-, rfl, -⟩ | ⟨hs, -⟩
    · rw [hn]
      simp [shown, isEnd, he]
    · rw [hn] at hs
      exact absurd he (ne_true_of_eq_false hs)
  | case3 l t m hn he ih =>
    rcases pullUntil?_cases h with ⟨hs, -, -⟩ | ⟨-, k, ss, -, rfl, hss⟩
    · rw [hn] at hs
      exact absurd hs he
    · rw [hn] at hss ⊢
      rw [ih hss]
      simp [shown, isEnd, he]

/-- Within `n` turns a loop that goes on after faults has met the end, and one that does not has met
the end or a fault. The first makes the run; a gathering of the tokens and a pass are the second,
and a pass that is asked more often stays where it is. -/
structure LoopsEnd (l : Lexer) (n : Nat) : Prop where
  run : ∃ l', pullUntil? isEnd n l = some (l.run, l')
  stopped : ∃ rs l', pullUntil? stops n l = some (rs, l') ∧
    l.tokens = ((collect rs).map List.toArray, l') ∧ l.yields = rs.filterMap shown ∧
    ∀ k, l.pass.nextN (rs.length + k) = (rs.map shown ++ List.replicate k none, ⟨l', true⟩)

theorem loopsEnd (l : Lexer) : l.LoopsEnd (l.input.rest.length + 1) where
  run := by
    obtain ⟨rs, l', h⟩ := exists_pullUntil? (fun _ => id) (Nat.lt_succ_self l.input.rest.length)
    rw [run_of_pullUntil? h]
    exact ⟨l', h⟩
  stopped := by
    have hend : ∀ r, isEnd r = true → stops r = true := by
      intro r hr
      cases r with
      | ok t => exact hr
      | error f => rfl
    obtain ⟨rs, l', h⟩ := exists_pullUntil? hend (Nat.lt_succ_self l.input.rest.length)
    have htokens := tokensAfter_of_pullUntil? h #[]
    refine ⟨rs, l', h, ?_, yields_of_pullUntil? h, nextN_of_pullUntil? h⟩
    simpa [tokens] using htokens

end Lexer

/-! ## When nothing is left -/

theorem Input.advance_of_nil {i : Input} (h : i.rest = []) (n : Nat) : i.advance n = i := by
  have hstep : i.step = i := by
    unfold step
    rw [h]
  induction n with
  | zero => rfl
  | succ n ih => rw [advance, hstep, ih]

namespace Lexer
variable {l : Lexer}

/-- The text has been opened, and nothing of it is left. -/
structure Exhausted (l : Lexer) : Prop where
  opened : l.input.opened = true
  rest : l.input.rest = []

theorem exhausted_of_end (h : isEnd l.next.1 = true) : l.next.2.Exhausted :=
  ⟨l.next_opened, next_rest_of_end h⟩

theorem Exhausted.of_input {l' : Lexer} (h : l.Exhausted) (hi : l'.input = l.input) :
    l'.Exhausted where
  opened := by rw [hi, h.opened]
  rest := by rw [hi, h.rest]

theorem Exhausted.next_eq (h : l.Exhausted) : l.next = (.ok (.endAt l.input.here), l) := by
  have hopening := Input.opening_of_opened h.opened
  have hend : l.AtEnd [] := ⟨by rw [hopening, h.rest], List.forall_mem_nil _⟩
  rw [hend.next_eq, hopening]
  rfl

theorem Exhausted.perform_input (h : l.Exhausted) (act : Action) :
    (l.perform act).input = l.input := by
  obtain ⟨n, hn⟩ := l.perform_input act
  rw [hn, Input.opening_of_opened h.opened, ite_self, Input.advance_of_nil h.rest]

theorem Exhausted.performAll_input (h : l.Exhausted) (acts : List Action) :
    (l.performAll acts).input = l.input := by
  induction acts generalizing l with
  | nil => rfl
  | cons act acts ih =>
    have hinput := h.perform_input act
    rw [performAll_cons, ih (h.of_input hinput), hinput]

/-- Nothing that is done moves the lexer in its text, and all that it gives is the token `t`. -/
structure RestsAt (l : Lexer) (t : Token) : Prop where
  input : ∀ acts, (l.performAll acts).input = l.input
  next : ∀ acts, (l.performAll acts).next = (.ok t, l.performAll acts)
  results : ∀ acts act, ∀ r ∈ (l.performAll acts).results act, r = .ok t

theorem Exhausted.restsAt (h : l.Exhausted) : l.RestsAt (.endAt l.input.here) := by
  have hnext : ∀ acts,
      (l.performAll acts).next = (.ok (.endAt l.input.here), l.performAll acts) := by
    intro acts
    have hinput := h.performAll_input acts
    have hstill := h.of_input hinput
    rw [hstill.next_eq, hinput]
  refine ⟨h.performAll_input, hnext, fun acts act r hr => ?_⟩
  have hrun := (mem_run_of_mem_results hr).2
  rw [run_of_end (by rw [hnext]; rfl), hnext] at hrun
  exact List.mem_singleton.1 hrun

/-- **Every pull makes progress, and the end is for ever.** Wherever a history has led, a pull finds
the end exactly if nothing but blanks is left behind a byte order mark; any other pull moves on. So
of any row of pulls no more give something than characters are left, under any alphabets, and the
loops over pulls end within one turn more. From the first end on every history gives this same end
and leaves the text as it is. The loops inside a pull end as well: the scanner, which gives nothing
where a loop goes on for ever, always gives the result. -/
theorem pulls_progress (s : String) (acts : List Action) :
    let l := (ofString s default).performAll acts
    (isEnd l.next.1 = true ↔ ∀ c ∈ l.input.opening.remaining.toList, isBlank c = true) ∧
    (isEnd l.next.1 = false → l.input.here.offset < l.next.2.input.here.offset) ∧
    (∀ as, ((l.pulls as).filter (!·.isEnd)).length ≤ l.input.remaining.toList.length) ∧
    l.LoopsEnd (l.input.remaining.toList.length + 1) ∧
    (∀ t, l.next.1 = .ok t → t.isEnd = true → l.next.2.RestsAt t) ∧
    l.input.cursor.scan? l.alphabet = some (l.next.1, l.next.2.input.cursor) := by
  intro l
  obtain ⟨_, hl⟩ := session_stands s default acts
  rw [Input.remaining_toList, Input.remaining_toList]
  refine ⟨l.isEnd_next_iff, offset_lt_of_not_end, l.length_pulls_le, l.loopsEnd, ?_, scan_eq hl⟩
  intro t ht he
  have hend : isEnd l.next.1 = true := by
    rw [ht]
    exact he
  obtain rfl : t = .endAt l.next.2.input.here := Except.ok.inj (ht.symm.trans (result_of_end hend))
  exact (exhausted_of_end hend).restsAt

/-- A fault that moves on, and the end behind a literal and a line feed. -/
theorem pulls_progress_to_end :
    let l := (ofString "# 1\n" default).performAll [.switch .ascii]
    let m := (ofString "# 1\n" default).performAll [.next, .next]
    l.next.1 = .error ⟨.invalidInput, .start⟩ ∧
      l.input.here.offset < l.next.2.input.here.offset ∧
    m.next.1 = .ok (.endAt ⟨4, 2, 1⟩) ∧ m.next.2.RestsAt (.endAt ⟨4, 2, 1⟩) := by
  intro l m
  have hfault : l.next.1 = .error ⟨.invalidInput, .start⟩ := by decide +kernel
  have hend : m.next.1 = .ok (.endAt ⟨4, 2, 1⟩) := by decide +kernel
  obtain ⟨-, hmoves, -⟩ := pulls_progress "# 1\n" [.switch .ascii]
  obtain ⟨-, -, -, -, hrests, -⟩ := pulls_progress "# 1\n" [.next, .next]
  refine ⟨hfault, hmoves ?_, hend, hrests _ hend rfl⟩
  rw [hfault]
  rfl

end Lexer

end PLZero
