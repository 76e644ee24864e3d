import PLZero.Proofs.Place

/-! Sessions: everything that can be done with a text and a lexer over it, in any order. A text may
be read directly, by opening it and by consuming single characters; over it lies a lexer, which may
change its alphabet, be replaced by a fresh one, pull, start passes, or gather all tokens.

* `Lexer.perform` does one action, `Lexer.performAll` a history of them.
* `Lexer.perform_input`: an action opens the text or leaves it closed, and then moves on in it.
* `Lexer.results` are the tokens and faults that an action gives, all of them pulls of a run.
* `Lexer.performAll_keeps`: what opening and moving on keep is kept by every history, as is that the
  input stands in its text; `Lexer.passedMark` tells whether a byte order mark was passed over. -/
namespace PLZero
set_option autoImplicit false

inductive Action where
  /-- The text is opened. -/
  | opening
  /-- One character is consumed. -/
  | step
  /-- The text is taken from the lexer and given to a fresh one. -/
  | rewrap
  | switch (a : Alphabet)
  | next
  /-- A fresh pass is made, asked `n` times, and dropped. -/
  | pass (n : Nat)
  | tokens
  deriving DecidableEq, Repr

/-- Whether the action opens the text. -/
def Action.opens : Action → Bool
  | opening | next | tokens => true
  | pass n => n != 0
  | step | rewrap | switch _ => false

namespace Lexer

def perform (l : Lexer) : Action → Lexer
  | .opening => { l with input := l.input.opening }
  | .step => { l with input := l.input.step }
  | .rewrap => ofInput l.input
  | .switch a => { l with alphabet := a }
  | .next => l.next.2
  | .pass n => (l.pass.nextN n).2.lexer
  | .tokens => l.tokens.2

def performAll (l : Lexer) (acts : List Action) : Lexer := acts.foldl perform l

/-- Whether one of the actions passes over a byte order mark. -/
def passedMark (l : Lexer) : List Action → Bool
  | [] => false
  | act :: acts => (act.opens && l.input.passesMark) || passedMark (l.perform act) acts

@[simp] theorem performAll_nil (l : Lexer) : l.performAll [] = l := rfl

@[simp] theorem performAll_cons (l : Lexer) (act : Action) (acts : List Action) :
    l.performAll (act :: acts) = (l.perform act).performAll acts := rfl

theorem passedMark_append (l : Lexer) (acts bcts : List Action) :
    l.passedMark (acts ++ bcts) = (l.passedMark acts || (l.performAll acts).passedMark bcts) := by
  induction acts generalizing l with
  | nil => rfl
  | cons act acts ih =>
    rw [List.cons_append, passedMark, passedMark, ih, Bool.or_assoc]
    rfl

/-! ## How an action moves on in the text -/

theorem next_input (l : Lexer) : ∃ n, l.next.2.input = l.input.opening.advance n := by
  rcases l.next_cases with h | ⟨gap, c, tail, rest, h⟩
  · exact ⟨_, h.input⟩
  · exact ⟨_, h.input⟩

/-- Pulling again goes on from where the pull before has stopped. -/
theorem exists_advance_of_next {l : Lexer} {p : Input → Prop}
    (h : ∃ n, p (l.next.2.input.opening.advance n)) : ∃ n, p (l.input.opening.advance n) := by
  obtain ⟨n, hn⟩ := h
  obtain ⟨k, hk⟩ := l.next_input
  rw [l.next_opening, hk, ← Input.advance_add] at hn
  exact ⟨k + n, hn⟩

theorem tokensAfter_input (found : Array Token) (l : Lexer) :
    ∃ n, (tokensAfter found l).2.input = l.input.opening.advance n := by
  fun_induction tokensAfter found l with
  | case1 found l e l' h =>
    have hn := l.next_input
    rw [h] at hn
    exact hn
  | case2 found l t l' h e =>
    have hn := l.next_input
    rw [h] at hn
    exact hn
  | case3 found l t l' h e ih =>
    have hl : l' = l.next.2 := by rw [h]
    rw [hl] at ih ⊢
    exact exists_advance_of_next ih

/-- A call of a running pass pulls, whatever it makes of the result. -/
theorem pass_next_lexer {p : Pass} (h : p.stopped = false) : p.next.2.lexer = p.lexer.next.2 := by
  unfold Pass.next
  rw [if_neg (ne_true_of_eq_false h)]
  split
  · next t l hn => split <;> rw [hn]
  · next e l hn => rw [hn]

theorem nextN_of_stopped {p : Pass} (h : p.stopped = true) (n : Nat) :
    p.nextN n = (List.replicate n none, p) := by
  have hp : p.next = (none, p) := by
    unfold Pass.next
    rw [if_pos h]
  induction n with
  | zero => rfl
  | succ n ih =>
    rw [Pass.nextN, hp]
    dsimp only
    rw [ih, List.replicate_succ]

theorem pass_nextN_stopped {p : Pass} (h : p.stopped = true) (n : Nat) :
    (p.nextN n).2 = p := by
  rw [nextN_of_stopped h]

theorem pass_nextN_input (p : Pass) (h : p.stopped = false) (n : Nat) :
    ∃ m, (p.nextN (n + 1)).2.lexer.input = p.lexer.input.opening.advance m := by
  have hp := pass_next_lexer h
  induction n generalizing p with
  | zero =>
    have hr : (p.nextN 1).2.lexer = p.lexer.next.2 := hp
    rw [hr]
    exact p.lexer.next_input
  | succ n ih =>
    have hr : (p.nextN (n + 1 + 1)).2 = (p.next.2.nextN (n + 1)).2 := rfl
    rw [hr]
    cases hs : p.next.2.stopped with
    | true =>
      rw [pass_nextN_stopped hs, hp]
      exact p.lexer.next_input
    | false =>
      have hn := ih p.next.2 hs (pass_next_lexer hs)
      rw [hp] at hn
      exact exists_advance_of_next hn

theorem perform_input (l : Lexer) (act : Action) :
    ∃ n, (l.perform act).input =
      (if act.opens = true then l.input.opening else l.input).advance n := by
  cases act with
  | opening => exact ⟨0, rfl⟩
  | step => exact ⟨1, rfl⟩
  | rewrap => exact ⟨0, rfl⟩
  | switch a => exact ⟨0, rfl⟩
  | next => exact l.next_input
  | pass n =>
    cases n with
    | zero => exact ⟨0, rfl⟩
    | succ n => exact pass_nextN_input l.pass rfl n
  | tokens => exact tokensAfter_input #[] l

/-! ## What an action yields -/

/-- The tokens and faults that an action gives. -/
def results (l : Lexer) : Action → List Pulled
  | .next => [l.next.1]
  | .pass n => (l.pass.nextN n).1.filterMap id
  | .tokens =>
    match l.tokens.1 with
    | .ok ts => ts.toList.map .ok
    | .error f => [.error f]
  | .opening | .step | .rewrap | .switch _ => []

theorem next_mem_run (l : Lexer) : l.next.1 ∈ l.run := by
  rw [run]
  split
  · exact List.mem_singleton_self _
  · exact List.mem_cons_self

theorem not_mem_nextN_of_stopped {p : Pass} (h : p.stopped = true) (n : Nat) (r : Pulled) :
    some r ∉ (p.nextN n).1 := by
  rw [nextN_of_stopped h]
  intro hr
  cases List.eq_of_mem_replicate hr

theorem pass_next_cases {p : Pass} (h : p.stopped = false) :
    (p.next.1 = none ∧ p.next.2.stopped = true) ∨
    (isEnd p.lexer.next.1 = false ∧ p.next.1 = some p.lexer.next.1) := by
  unfold Pass.next
  rw [if_neg (ne_true_of_eq_false h)]
  split
  · next t l hn =>
    split
    · exact .inl ⟨rfl, rfl⟩
    · next he =>
      rw [hn]
      exact .inr ⟨Bool.eq_false_iff.2 he, rfl⟩
  · next e l hn =>
    rw [hn]
    exact .inr ⟨rfl, rfl⟩

theorem mem_run_of_mem_nextN {p : Pass} {r : Pulled} (h : p.stopped = false) (n : Nat)
    (hr : some r ∈ (p.nextN n).1) : r ∈ p.lexer.run := by
  induction n generalizing p with
  | zero => cases hr
  | succ n ih =>
    have hcons : (p.nextN (n + 1)).1 = p.next.1 :: (p.next.2.nextN n).1 := rfl
    rw [hcons] at hr
    rcases pass_next_cases h with ⟨hnone, hs⟩ | ⟨he, hsome⟩
    · rcases List.mem_cons.1 hr with hr | hr
      · rw [hnone] at hr
        cases hr
      · exact absurd hr (not_mem_nextN_of_stopped hs n r)
    · rw [run_of_not_end he]
      rcases List.mem_cons.1 hr with hr | hr
      · rw [hsome] at hr
        cases hr
        exact List.mem_cons_self
      · refine List.mem_cons_of_mem _ ?_
        cases hs : p.next.2.stopped with
        | true => exact absurd hr (not_mem_nextN_of_stopped hs n r)
        | false =>
          rw [← pass_next_lexer h]
          exact ih hs hr

theorem mem_run_of_mem_results {l : Lexer} {act : Action} {r : Pulled}
    (h : r ∈ l.results act) : act.opens = true ∧ r ∈ l.run := by
  cases act with
  | next =>
    rw [List.mem_singleton.1 h]
    exact ⟨rfl, l.next_mem_run⟩
  | pass n =>
    obtain ⟨o, ho, hr⟩ := List.mem_filterMap.1 h
    cases hr
    cases n with
    | zero => cases ho
    | succ n => exact ⟨rfl, mem_run_of_mem_nextN rfl (n + 1) ho⟩
  | tokens =>
    refine ⟨rfl, ?_⟩
    rw [results] at h
    split at h
    · next ts hts =>
      rw [tokens_eq_ok_iff.1 hts]
      exact h
    · next f hf =>
      rw [List.mem_singleton.1 h]
      exact mem_of_mem_faults (List.mem_of_mem_head? ((l.tokens_eq_error_iff f).1 hf))
  | opening | step | rewrap | switch _ => cases h

/-- The ends of a token, and the place of a fault. -/
def places : Pulled → List Position
  | .ok t => [t.start, t.stop]
  | .error f => [f.place]

theorem place_of_next {l : Lexer} {p : Position} (h : p ∈ places l.next.1) :
    ∃ n, p = (l.input.opening.advance n).here := by
  rcases l.next_cases with hn | ⟨gap, c, tail, rest, hn⟩
  · have hhere := Input.advance_here_of_eq hn.text_append
    rw [hn.result, ← hhere] at h
    rcases List.mem_cons.1 h with rfl | h
    · exact ⟨_, rfl⟩
    · exact ⟨_, List.mem_singleton.1 h⟩
  · have hstart := Input.advance_here_of_eq hn.text
    have hstop := Input.advance_here_of_eq hn.text_append
    rw [Position.advanceBy_append] at hstop
    rw [hn.result, ← hstart] at h
    cases hm : l.alphabet.meaning c tail with
    | error cause =>
      rw [hm] at h
      exact ⟨_, List.mem_singleton.1 h⟩
    | ok k =>
      rw [hm] at h
      rcases List.mem_cons.1 h with rfl | h
      · exact ⟨_, rfl⟩
      · rw [hstart, ← hstop] at h
        exact ⟨_, List.mem_singleton.1 h⟩

/-- Every place that a run tells of is one where the input comes to stand. -/
theorem place_of_mem_run {l : Lexer} {r : Pulled} (hr : r ∈ l.run) {p : Position}
    (h : p ∈ places r) : ∃ n, p = (l.input.opening.advance n).here := by
  fun_induction run l with
  | case1 l he =>
    rw [List.mem_singleton.1 hr] at h
    exact place_of_next h
  | case2 l he ih =>
    rcases List.mem_cons.1 hr with rfl | hr
    · exact place_of_next h
    · exact exists_advance_of_next (p := fun i => p = i.here) (ih hr)

/-! ## Histories -/

section Histories
variable {P : List Char → List Char → Input → Prop} {mark read : List Char} {l : Lexer}

theorem perform_keeps (hP : Input.Kept P) (h : P mark read l.input) (act : Action) :
    ∃ read, P (if (act.opens && l.input.passesMark) = true then [byteOrderMark] else mark) read
      (l.perform act).input := by
  obtain ⟨n, hn⟩ := l.perform_input act
  rw [hn]
  cases act.opens with
  | false => exact ⟨_, hP.advance h n⟩
  | true => exact ⟨_, hP.advance (hP.opening h) n⟩

theorem performAll_keeps (hP : Input.Kept P) (h : P mark read l.input) (acts : List Action) :
    ∃ read, P (if l.passedMark acts = true then [byteOrderMark] else mark) read
      (l.performAll acts).input := by
  induction acts generalizing l mark read with
  | nil => exact ⟨read, h⟩
  | cons act acts ih =>
    obtain ⟨read, hr⟩ := perform_keeps hP h act
    obtain ⟨read, hs⟩ := ih hr
    refine ⟨read, ?_⟩
    rw [passedMark, performAll_cons]
    cases hm : act.opens && l.input.passesMark with
    | false => simpa [hm] using hs
    | true => simpa [hm] using hs

end Histories

/-- After every history of a fresh text the input stands in it. -/
theorem session_stands (s : String) (a : Alphabet) (acts : List Action) :
    ∃ read, ((ofString s a).performAll acts).input.Stands s
      (if (ofString s a).passedMark acts = true then [byteOrderMark] else []) read :=
  performAll_keeps Input.kept_stands (Input.stands_ofString s) acts

end Lexer

end PLZero
