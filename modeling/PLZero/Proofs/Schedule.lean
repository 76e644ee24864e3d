import PLZero.Proofs.Session

/-! Schedules: single pulls, passes and gatherings of all tokens, one after the other over one
lexer. They all read one and the same stream, the results of pulling again and again.

* `Lexer.stream` is that stream, and `Lexer.later` the lexer at each place of it.
* `Call.Reads` says which answer a call makes of the piece of the stream that it reads.
* `Lexer.perform_reads`: every call reads the piece that comes next, and leaves the lexer behind it.
* `Lexer.Follows`: so does a whole schedule, piece by piece. -/
namespace PLZero
set_option autoImplicit false

/-! ## Calls -/

inductive Call where
  | next
  | pass (n : Nat)
  | tokens
  deriving DecidableEq, Repr

def Call.action : Call → Action
  | next => .next
  | pass n => .pass n
  | tokens => .tokens

inductive Answer where
  | pulled (r : Pulled)
  /-- What each of the calls of a pass has given. -/
  | yielded (rs : List (Option Pulled))
  | gathered (r : Except Fault (Array Token))

/-- The tokens and faults in an answer. -/
def Answer.results : Answer → List Pulled
  | pulled r => [r]
  | yielded rs => rs.filterMap id
  | gathered (.ok ts) => ts.toList.map .ok
  | gathered (.error f) => [.error f]

/-- Whether tokens were gathered in vain. -/
def Answer.isVain : Answer → Bool
  | gathered (.error _) => true
  | _ => false

namespace Lexer

def answer (l : Lexer) : Call → Answer
  | .next => .pulled l.next.1
  | .pass n => .yielded (l.pass.nextN n).1
  | .tokens => .gathered l.tokens.1

/-- The answers of a schedule, each with the lexer as the call leaves it. -/
def serve (l : Lexer) : List Call → List (Answer × Lexer)
  | [] => []
  | call :: calls =>
    (l.answer call, l.perform call.action) :: serve (l.perform call.action) calls

/-! ## The stream -/

/-- The lexer after `k` pulls. -/
def later (l : Lexer) : Nat → Lexer
  | 0 => l
  | k + 1 => (l.later k).next.2

/-- The result of pull `k`, counted from zero. -/
def stream (l : Lexer) (k : Nat) : Pulled := (l.later k).next.1

theorem later_add (l : Lexer) (j k : Nat) : l.later (j + k) = (l.later j).later k := by
  induction k with
  | zero => rfl
  | succ k ih =>
    have hstep : l.later (j + (k + 1)) = (l.later (j + k)).next.2 := rfl
    rw [hstep, ih]
    rfl

theorem later_succ (l : Lexer) (k : Nat) : l.later (k + 1) = l.next.2.later k := by
  rw [Nat.add_comm, later_add]
  rfl

theorem stream_add (l : Lexer) (j k : Nat) : l.stream (j + k) = (l.later j).stream k := by
  rw [stream, later_add]
  rfl

theorem stream_succ (l : Lexer) (k : Nat) : l.stream (k + 1) = l.next.2.stream k := by
  rw [stream, later_succ]
  rfl

/-- A run is the stream up to the first end in it. -/
theorem getElem?_run {l : Lexer} {k : Nat} {r : Pulled} :
    l.run[k]? = some r ↔ l.stream k = r ∧ ∀ i < k, isEnd (l.stream i) = false := by
  induction k generalizing l with
  | zero =>
    have hfirst : l.run[0]? = some (l.stream 0) := by
      cases he : isEnd l.next.1 with
      | true => rw [run_of_end he]; rfl
      | false => rw [run_of_not_end he]; rfl
    simp [hfirst]
  | succ k ih =>
    rw [stream_succ, Nat.forall_lt_succ_left]
    cases he : isEnd l.next.1 with
    | true =>
      have hstream : isEnd (l.stream 0) = true := he
      rw [run_of_end he]
      simp [hstream]
    | false =>
      have hstream : isEnd (l.stream 0) = false := he
      simp only [run_of_not_end he, List.getElem?_cons_succ, ih, stream_succ, hstream, true_and]

/-- The results of the first `n` pulls. -/
def first (l : Lexer) (n : Nat) : List Pulled := (List.range n).map l.stream

theorem first_succ (l : Lexer) (n : Nat) : l.first (n + 1) = l.next.1 :: l.next.2.first n := by
  unfold first
  rw [List.range_succ_eq_map, List.map_cons, List.map_map]
  exact congrArg (l.next.1 :: ·) (List.map_congr_left fun i _ => l.stream_succ i)

theorem first_add (l : Lexer) (j n : Nat) : l.first (j + n) = l.first j ++ (l.later j).first n := by
  unfold first
  rw [List.range_add, List.map_append, List.map_map]
  exact congrArg _ (List.map_congr_left fun i _ => l.stream_add j i)

theorem first_later (l : Lexer) (k n : Nat) :
    (l.later k).first n = (List.range' k n).map l.stream := by
  rw [first, List.range'_eq_map_range, List.map_map]
  exact List.map_congr_left fun i _ => (l.stream_add k i).symm

end Lexer

/-! ## What calls make of it -/

namespace Lexer

/-- A pull at which a pass stops: a fault, or the end of the text. -/
def stops : Pulled → Bool
  | .ok t => t.isEnd
  | .error _ => true

/-- What a pass gives for a pull: the end is not shown. -/
def shown (r : Pulled) : Option Pulled := if isEnd r then none else some r

end Lexer

open Lexer (stops shown)

/-- The call reads the pulls `rs` and makes the answer of them. A pass that is asked `n` times reads
on until it has read so many pulls or one at which it stops, and gives nothing from then on. -/
inductive Call.Reads : Call → List Pulled → Answer → Prop
  | next (r : Pulled) : Reads next [r] (.pulled r)
  | pass (n : Nat) (rs : List Pulled) (length_le : rs.length ≤ n)
      (goes_on : ∀ r ∈ rs.dropLast, stops r = false)
      (stopped : rs.length = n ∨ ∃ r ∈ rs.getLast?, stops r = true) :
      Reads (pass n) rs (.yielded (rs.map shown ++ List.replicate (n - rs.length) none))
  | tokens (ts : List Token) (e : Token) (goes_on : ∀ t ∈ ts, t.isEnd = false)
      (stopped : e.isEnd = true) :
      Reads tokens ((ts ++ [e]).map .ok) (.gathered (.ok (ts ++ [e]).toArray))
  | fault (ts : List Token) (f : Fault) (goes_on : ∀ t ∈ ts, t.isEnd = false) :
      Reads tokens (ts.map .ok ++ [.error f]) (.gathered (.error f))

namespace Call.Reads
variable {rs : List Pulled}

theorem pass_nil : Reads (.pass 0) [] (.yielded []) :=
  .pass 0 [] (Nat.le_refl 0) (fun _ hr => by cases hr) (.inl rfl)

theorem pass_cons {n : Nat} {r : Pulled} {xs : List (Option Pulled)} (hr : stops r = false)
    (h : Reads (.pass n) rs (.yielded xs)) :
    Reads (.pass (n + 1)) (r :: rs) (.yielded (shown r :: xs)) := by
  cases h with
  | pass n rs hlen hgo hstop =>
    have hreads : Reads (.pass (n + 1)) (r :: rs) (.yielded
        ((r :: rs).map shown ++ List.replicate (n + 1 - (r :: rs).length) none)) := by
      refine .pass (n + 1) (r :: rs) (Nat.succ_le_succ hlen) ?_ ?_
      · intro x hx
        cases rs with
        | nil => cases hx
        | cons s rs =>
          rcases List.mem_cons.1 hx with rfl | hx
          · exact hr
          · exact hgo x hx
      · rcases hstop with hstop | ⟨x, hx, hstop⟩
        · exact .inl (congrArg (· + 1) hstop)
        · refine .inr ⟨x, ?_, hstop⟩
          rw [List.getLast?_cons, Option.mem_def.1 hx]
          rfl
    rwa [List.map_cons, List.length_cons, Nat.add_sub_add_right] at hreads

theorem pass_stop {r : Pulled} (hr : stops r = true) (n : Nat) :
    Reads (.pass (n + 1)) [r] (.yielded (shown r :: List.replicate n none)) :=
  .pass (n + 1) [r] (by simp) (by simp) (.inr ⟨r, rfl, hr⟩)

theorem tokens_cons {t : Token} {ts : Except Fault (Array Token)} (ht : t.isEnd = false)
    (h : Reads .tokens rs (.gathered ts)) :
    Reads .tokens (.ok t :: rs) (.gathered (ts.map (#[t] ++ ·))) := by
  cases h with
  | tokens ts e hgo hstop =>
    have hcons : #[t] ++ (ts ++ [e]).toArray = (t :: ts ++ [e]).toArray := by simp
    have hreads := tokens (t :: ts) e (List.forall_mem_cons.2 ⟨ht, hgo⟩) hstop
    rw [← hcons] at hreads
    exact hreads
  | fault ts f hgo => exact .fault (t :: ts) f (List.forall_mem_cons.2 ⟨ht, hgo⟩)

end Call.Reads

/-! ## One call -/

namespace Lexer

theorem pass_next_eq (l : Lexer) :
    l.pass.next = (shown l.next.1, ⟨l.next.2, stops l.next.1⟩) := by
  unfold Pass.next pass
  rw [if_neg Bool.false_ne_true]
  dsimp only
  split
  · next t l' hn =>
    rw [hn]
    unfold shown isEnd stops
    split
    · next ht => simp [ht]
    · next ht => simp [ht]
  · next f l' hn =>
    rw [hn]
    rfl

theorem pass_nextN_succ (l : Lexer) (n : Nat) :
    l.pass.nextN (n + 1) =
      (shown l.next.1 :: (Pass.nextN n ⟨l.next.2, stops l.next.1⟩).1,
        (Pass.nextN n ⟨l.next.2, stops l.next.1⟩).2) := by
  rw [Pass.nextN, pass_next_eq]

theorem pass_reads (l : Lexer) (n : Nat) :
    ∃ q, Call.Reads (.pass n) (l.first q) (.yielded (l.pass.nextN n).1) ∧
      (l.pass.nextN n).2.lexer = l.later q := by
  induction n generalizing l with
  | zero => exact ⟨0, .pass_nil, rfl⟩
  | succ n ih =>
    rw [pass_nextN_succ]
    cases hs : stops l.next.1 with
    | true =>
      have hstopped := nextN_of_stopped (p := ⟨l.next.2, true⟩) rfl n
      rw [hstopped]
      exact ⟨1, .pass_stop hs n, rfl⟩
    | false =>
      obtain ⟨q, hreads, hlexer⟩ := ih l.next.2
      refine ⟨q + 1, ?_, ?_⟩
      · rw [first_succ]
        exact hreads.pass_cons hs
      · rw [later_succ]
        exact hlexer

theorem tokensAfter_reads (found : Array Token) (l : Lexer) :
    ∃ q ts, (tokensAfter found l).1 = ts.map (found ++ ·) ∧
      Call.Reads .tokens (l.first q) (.gathered ts) ∧
      (tokensAfter found l).2 = l.later q := by
  fun_induction tokensAfter found l with
  | case1 found l f l' h =>
    have hresult : l.first 1 = [.error f] := by
      rw [first_succ, h]
      rfl
    refine ⟨1, .error f, rfl, ?_, ?_⟩
    · rw [hresult]
      exact .fault [] f (by simp)
    · rw [later_succ, h]
      rfl
  | case2 found l t l' h e =>
    have hresult : l.first 1 = [.ok t] := by
      rw [first_succ, h]
      rfl
    refine ⟨1, .ok #[t], ?_, ?_, ?_⟩
    · simp [Except.map]
    · rw [hresult]
      exact .tokens [] t (by simp) e
    · rw [later_succ, h]
      rfl
  | case3 found l t l' h e ih =>
    obtain ⟨q, ts, hts, hreads, hlexer⟩ := ih
    refine ⟨q + 1, ts.map (#[t] ++ ·), ?_, ?_, ?_⟩
    · rw [hts]
      cases ts <;> simp [Except.map]
    · rw [first_succ, h]
      exact hreads.tokens_cons (Bool.eq_false_iff.2 e)
    · rw [later_succ, h]
      exact hlexer

theorem perform_reads (l : Lexer) (call : Call) :
    ∃ q, call.Reads (l.first q) (l.answer call) ∧
      l.perform call.action = l.later q := by
  cases call with
  | next => exact ⟨1, .next l.next.1, rfl⟩
  | pass n =>
    obtain ⟨q, hreads, hlexer⟩ := l.pass_reads n
    exact ⟨q, hreads, hlexer⟩
  | tokens =>
    obtain ⟨q, ts, hts, hreads, hlexer⟩ := l.tokensAfter_reads #[]
    have hall : ts.map (#[] ++ ·) = ts := by cases ts <;> simp [Except.map]
    rw [hall] at hts
    refine ⟨q, ?_, hlexer⟩
    have hanswer : l.answer .tokens = .gathered ts := congrArg Answer.gathered hts
    rw [hanswer]
    exact hreads

/-! ## All calls -/

/-- The calls read the stream of `l` from place `k` on, one piece behind the other, and leave the
lexer behind each piece. -/
inductive Follows (l : Lexer) : Nat → List Call → List (Answer × Lexer) → Prop
  | nil (k : Nat) : Follows l k [] []
  | cons (k q : Nat) {call : Call} {calls : List Call} {answer : Answer}
      {served : List (Answer × Lexer)}
      (reads : call.Reads ((List.range' k q).map l.stream) answer)
      (follows : Follows l (k + q) calls served) :
      Follows l k (call :: calls) ((answer, l.later (k + q)) :: served)

theorem follows_serve (l : Lexer) (calls : List Call) (k : Nat) :
    l.Follows k calls ((l.later k).serve calls) := by
  induction calls generalizing k with
  | nil => exact .nil k
  | cons call calls ih =>
    obtain ⟨q, hreads, hlexer⟩ := (l.later k).perform_reads call
    rw [first_later] at hreads
    rw [← later_add] at hlexer
    rw [serve, hlexer]
    exact .cons k q hreads (ih (k + q))

end Lexer

/-! ## What is lost -/

namespace Lexer

theorem faults_append (rs ss : List Pulled) : faults (rs ++ ss) = faults rs ++ faults ss := by
  induction rs with
  | nil => rfl
  | cons r rs ih => cases r <;> simp [faults, ih]

theorem faults_map_ok (ts : List Token) : faults (ts.map .ok) = [] := by
  induction ts with
  | nil => rfl
  | cons t ts ih => rw [List.map_cons, faults, ih]

theorem faults_filter_not_isEnd (rs : List Pulled) : faults (rs.filter (!isEnd ·)) = faults rs := by
  induction rs with
  | nil => rfl
  | cons r rs ih =>
    cases r with
    | error f => rw [List.filter_cons_of_pos rfl, faults, faults, ih]
    | ok t =>
      rw [List.filter_cons]
      split
      · rw [faults, faults, ih]
      · rw [faults, ih]

/-- What a pass gives are the pulls it reads without the end. -/
theorem results_yielded (rs : List Pulled) (n : Nat) :
    (Answer.yielded (rs.map shown ++ List.replicate n none)).results = rs.filter (!isEnd ·) := by
  have hnone : (List.replicate n (none : Option Pulled)).filterMap id = [] := by
    rw [List.filterMap_replicate_of_none rfl]
  rw [Answer.results, List.filterMap_append, hnone, List.append_nil]
  induction rs with
  | nil => rfl
  | cons r rs ih =>
    rw [List.map_cons, List.filter_cons, ← ih]
    unfold shown
    cases isEnd r <;> rfl

end Lexer

open Lexer (faults isEnd)

namespace Call.Reads
variable {call : Call} {rs : List Pulled} {answer : Answer}

theorem results_sublist (h : call.Reads rs answer) : answer.results.Sublist rs := by
  cases h with
  | next r => exact List.Sublist.refl _
  | pass n rs hlen hgo hstop =>
    rw [Lexer.results_yielded]
    exact List.filter_sublist
  | tokens ts e hgo hstop => exact List.Sublist.refl _
  | fault ts f hgo => exact List.sublist_append_right _ _

theorem faults_results (h : call.Reads rs answer) : faults answer.results = faults rs := by
  cases h with
  | next r => rfl
  | pass n rs hlen hgo hstop => rw [Lexer.results_yielded, Lexer.faults_filter_not_isEnd]
  | tokens ts e hgo hstop => rfl
  | fault ts f hgo =>
    rw [Lexer.faults_append, Lexer.faults_map_ok]
    rfl

theorem filter_results (h : call.Reads rs answer) (hv : answer.isVain = false) :
    answer.results.filter (!isEnd ·) = rs.filter (!isEnd ·) := by
  cases h with
  | next r => rfl
  | pass n rs hlen hgo hstop =>
    rw [Lexer.results_yielded, List.filter_filter]
    simp only [Bool.and_self]
  | tokens ts e hgo hstop => rfl
  | fault ts f hgo => cases hv

end Call.Reads

/-- All the tokens and faults that a schedule gives, in this order. -/
def Lexer.given (l : Lexer) (calls : List Call) : List Pulled :=
  (l.serve calls).flatMap (·.1.results)

theorem Lexer.given_cons (l : Lexer) (call : Call) (calls : List Call) :
    l.given (call :: calls) = (l.answer call).results ++ (l.perform call.action).given calls :=
  List.flatMap_cons

theorem Lexer.given_first (l : Lexer) (calls : List Call) :
    ∃ k, l.performAll (calls.map Call.action) = l.later k ∧
      (l.given calls).Sublist (l.first k) ∧ faults (l.given calls) = faults (l.first k) ∧
      ((∀ x ∈ l.serve calls, x.1.isVain = false) →
        (l.given calls).filter (!isEnd ·) = (l.first k).filter (!isEnd ·)) := by
  induction calls generalizing l with
  | nil => exact ⟨0, rfl, List.Sublist.refl _, rfl, fun _ => rfl⟩
  | cons call calls ih =>
    obtain ⟨q, hreads, hlexer⟩ := l.perform_reads call
    obtain ⟨k, hall, hsub, hfaults, hfilter⟩ := ih (l.later q)
    have hgiven := l.given_cons call calls
    rw [hlexer] at hgiven
    refine ⟨q + k, ?_, ?_, ?_, fun hv => ?_⟩
    · rw [List.map_cons, performAll_cons, hlexer, hall, later_add]
    · rw [hgiven, first_add]
      exact hreads.results_sublist.append hsub
    · rw [hgiven, first_add, faults_append, faults_append, hreads.faults_results, hfaults]
    · rw [serve, hlexer, List.forall_mem_cons] at hv
      rw [hgiven, first_add, List.filter_append, List.filter_append,
        hreads.filter_results hv.1, hfilter hv.2]

/-- **All calls read one stream.** Under every schedule the lexer is always at some place of the
stream of its pulls; each call reads the piece that comes next and leaves the lexer behind it. So
what a schedule gives is the beginning of the stream, in its order: no fault is lost, and no token
either but those that were gathered before a fault. -/
theorem Lexer.schedule_follows_stream (l : Lexer) (calls : List Call) :
    l.Follows 0 calls (l.serve calls) ∧
    ∃ k, l.performAll (calls.map Call.action) = l.later k ∧
      (l.given calls).Sublist (l.first k) ∧ faults (l.given calls) = faults (l.first k) ∧
      ((∀ x ∈ l.serve calls, x.1.isVain = false) →
        (l.given calls).filter (!isEnd ·) = (l.first k).filter (!isEnd ·)) :=
  ⟨l.follows_serve calls 0, l.given_first calls⟩

/-- A fault between two tokens: a pass stops behind the first token, the fault is pulled, a second
pass is asked beyond the end, and at last the tokens are gathered. -/
theorem Lexer.schedule_follows_stream_over_fault :
    let l := ofString "x # 1" .unicode
    let calls := [Call.pass 1, .next, .pass 3, .tokens]
    l.Follows 0 calls (l.serve calls) ∧ (∀ x ∈ l.serve calls, x.1.isVain = false) ∧
      ∃ k, (l.given calls).filter (!isEnd ·) = (l.first k).filter (!isEnd ·) := by
  intro l calls
  have hv : ∀ x ∈ l.serve calls, x.1.isVain = false := by decide +kernel
  obtain ⟨hfollows, k, -, -, -, hfilter⟩ := schedule_follows_stream l calls
  exact ⟨hfollows, hv, k, hfilter hv⟩

end PLZero
