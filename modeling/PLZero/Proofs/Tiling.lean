import PLZero.Proofs.Session

/-! How pulls divide a text. Between two states of a lexer the text falls into pieces: a byte order
mark, runs of blanks, and the lexemes of the pulls. Nothing lies between the pieces, and nothing
belongs to two of them.

* `Lexer.pulls` are the pulls of a lexer whose alphabet may change from one pull to the next.
* `Piece.Fits` says what a piece is by its neighbours, `Tiled` that a row of pieces fits.
* `pull_tiled` tiles what one pull consumes, `pulls_tiled_from` what a row of them does.
* `Lexer.lexemes_of_run`: the tokens of a text cut out all of it but its blanks. -/
namespace PLZero
set_option autoImplicit false

open Text (bytes slice?)

/-- The result of a pull, and the lexer as the pull leaves it. -/
structure Pull where
  result : Pulled
  after : Lexer

namespace Pull

/-- Where the lexeme of the pull begins. -/
def start (x : Pull) : Position :=
  match x.result with
  | .ok t => t.start
  | .error f => f.place

/-- Where the lexeme of the pull ends. A fault does not tell, but the lexer stands behind it. -/
def stop (x : Pull) : Position :=
  match x.result with
  | .ok t => t.stop
  | .error _ => x.after.input.here

def isEnd (x : Pull) : Bool := Lexer.isEnd x.result

end Pull

namespace Lexer

def pull (l : Lexer) : Pull := ⟨l.next.1, l.next.2⟩

/-- The pull under the alphabet `a`. -/
def pullWith (l : Lexer) (a : Alphabet) : Pull := pull { l with alphabet := a }

/-- One pull after the other, each under its alphabet. -/
def pulls (l : Lexer) : List Alphabet → List Pull
  | [] => []
  | a :: as => l.pullWith a :: pulls (l.pullWith a).after as

/-- The lexer as `pulls` leaves it. -/
def afterPulls (l : Lexer) (as : List Alphabet) : Lexer :=
  as.foldl (fun l a => (l.pullWith a).after) l

end Lexer

inductive Piece where
  | mark
  | blanks (cs : List Char)
  | lexeme (x : Pull) (cs : List Char)

namespace Piece

def chars : Piece → List Char
  | mark => [byteOrderMark]
  | blanks cs => cs
  | lexeme _ cs => cs

def pull? : Piece → Option Pull
  | lexeme x _ => some x
  | _ => none

/-- What a piece is in a text that is read from where `i` stands, if `before` lies between `i` and
the piece, and `after` behind the piece. -/
def Fits (i : Input) (before after : List Char) : Piece → Prop
  | mark => before = [] ∧ i.here.offset = 0 ∧ i.opened = false
  | blanks cs => cs ≠ [] ∧ (∀ c ∈ cs, isBlank c = true) ∧
      (∀ c ∈ before.getLast?, isBlank c = false) ∧ ∀ c ∈ after.head?, isBlank c = false
  | lexeme x cs => cs ≠ [] ∧ (∀ c ∈ cs, isBlank c = false) ∧
      x.start.offset = i.here.offset + bytes before ∧
      x.stop.offset = x.start.offset + bytes cs

def text (ps : List Piece) : List Char := ps.flatMap chars

@[simp] theorem text_nil : text [] = [] := rfl

@[simp] theorem text_cons (p : Piece) (ps : List Piece) : text (p :: ps) = p.chars ++ text ps :=
  List.flatMap_cons

@[simp] theorem text_append (ps qs : List Piece) : text (ps ++ qs) = text ps ++ text qs :=
  List.flatMap_append

end Piece

/-- The pieces fit, one behind the other, between `before` and `after`. -/
def Tiled (i : Input) : List Char → List Piece → List Char → Prop
  | _, [], _ => True
  | before, p :: ps, after =>
    p.Fits i before (Piece.text ps ++ after) ∧ Tiled i (before ++ p.chars) ps after

theorem tiled_append {i : Input} {before after : List Char} (ps qs : List Piece) :
    Tiled i before (ps ++ qs) after ↔
      Tiled i before ps (Piece.text qs ++ after) ∧ Tiled i (before ++ Piece.text ps) qs after := by
  induction ps generalizing before with
  | nil => simp [Tiled]
  | cons p ps ih =>
    simp only [List.cons_append, Tiled, ih, Piece.text_append, Piece.text_cons, List.append_assoc,
      and_assoc]

/-- The pieces that a gap of blanks consists of. -/
def Piece.ofGap (gap : List Char) : List Piece := if gap = [] then [] else [blanks gap]

theorem text_ofGap (gap : List Char) : Piece.text (Piece.ofGap gap) = gap := by
  unfold Piece.ofGap
  split
  · next h => rw [h]; rfl
  · exact List.append_nil gap

theorem pulls_ofGap (gap : List Char) : (Piece.ofGap gap).filterMap Piece.pull? = [] := by
  unfold Piece.ofGap
  split <;> rfl

theorem tiled_ofGap {i : Input} {before gap after : List Char} (hg : ∀ c ∈ gap, isBlank c = true)
    (hb : gap ≠ [] → ∀ c ∈ before.getLast?, isBlank c = false)
    (ha : ∀ c ∈ after.head?, isBlank c = false) : Tiled i before (Piece.ofGap gap) after := by
  unfold Piece.ofGap
  split
  · trivial
  · next h => exact ⟨⟨h, hg, hb h, by simpa using ha⟩, trivial⟩

/-! ## One pull -/

namespace Lexer
variable {l : Lexer} {gap tail rest : List Char} {c : Char}

theorem AtEnd.pull_start (h : l.AtEnd gap) : l.pull.start = l.input.opening.here.advanceBy gap := by
  unfold Pull.start pull
  rw [h.result]
  rfl

theorem AtEnd.pull_stop (h : l.AtEnd gap) : l.pull.stop = l.input.opening.here.advanceBy gap := by
  unfold Pull.stop pull
  rw [h.result]
  rfl

theorem AtLexeme.pull_start (h : l.AtLexeme gap c tail rest) :
    l.pull.start = l.input.opening.here.advanceBy gap := by
  unfold Pull.start pull
  rw [h.result]
  cases l.alphabet.meaning c tail <;> rfl

theorem AtLexeme.pull_stop (h : l.AtLexeme gap c tail rest) :
    l.pull.stop = (l.input.opening.here.advanceBy gap).advanceBy (c :: tail) := by
  unfold Pull.stop pull
  rw [h.result]
  cases l.alphabet.meaning c tail with
  | ok k => rfl
  | error cause => exact h.here

end Lexer

/-- Pulls have brought the input from `i` to `j`, and consumed `read`. -/
structure Input.Reaches (i : Input) (read : List Char) (j : Input) : Prop where
  offset : j.here.offset = i.here.offset + bytes read
  closed : j.opened = false → read = [] ∧ i.opened = false
  last : j.rest ≠ [] → ∀ c ∈ read.getLast?, isBlank c = false

theorem Input.Reaches.refl (i : Input) : i.Reaches [] i :=
  ⟨rfl, fun hc => ⟨rfl, hc⟩, fun _ c hc => by cases hc⟩

theorem getLast?_append_of_ne_nil {p : Char → Prop} {cs ds : List Char} (hd : ds ≠ [])
    (h : ∀ c ∈ ds, p c) : ∀ c ∈ (cs ++ ds).getLast?, p c := by
  intro c hc
  rw [List.getLast?_append] at hc
  cases hl : ds.getLast? with
  | none => exact absurd (List.getLast?_eq_none_iff.1 hl) hd
  | some d =>
    rw [hl] at hc
    cases hc
    exact h c (List.mem_of_getLast? hl)

theorem opening_tiled {i j : Input} {read : List Char} (h : i.Reaches read j) :
    ∃ ps, Tiled i read ps j.opening.rest ∧ j.rest = Piece.text ps ++ j.opening.rest ∧
      ps.filterMap Piece.pull? = [] ∧ i.Reaches (read ++ Piece.text ps) j.opening := by
  cases hm : j.passesMark with
  | false =>
    have ho := Input.opening_of_not_passesMark hm
    have hr : j.opening.rest = j.rest := by rw [ho]
    have hp : j.opening.here = j.here := by rw [ho]
    refine ⟨[], trivial, hr.symm, rfl, ?_⟩
    rw [Piece.text_nil, List.append_nil]
    exact ⟨by rw [hp, h.offset], by simp, by rw [hr]; exact h.last⟩
  | true =>
    obtain ⟨hr, hc, hz, hp⟩ := Input.opening_of_passesMark hm
    obtain ⟨rfl, hi⟩ := h.closed hc
    have hi0 : i.here.offset = 0 := by
      have ho := h.offset
      simp only [Text.bytes_nil] at ho
      omega
    refine ⟨[.mark], ⟨⟨rfl, hi0, hi⟩, trivial⟩, hr, rfl, ?_, by simp, ?_⟩
    · rw [hp, hi0]
      rfl
    · intro _ c hc
      cases hc
      exact isBlank_byteOrderMark

theorem gap_tiled {i j : Input} {read gap rest : List Char} (h : i.Reaches read j)
    (hr : j.opening.rest = gap ++ rest) (hg : ∀ c ∈ gap, isBlank c = true)
    (hs : ∀ c ∈ rest.head?, isBlank c = false) :
    ∃ ps, Tiled i read ps rest ∧ j.rest = Piece.text ps ++ rest ∧
      ps.filterMap Piece.pull? = [] ∧
      j.opening.here.offset + bytes gap = i.here.offset + bytes (read ++ Piece.text ps) := by
  obtain ⟨ms, hms, hrest, hnone, ho⟩ := opening_tiled h
  have htext : Piece.text (ms ++ Piece.ofGap gap) = Piece.text ms ++ gap := by
    rw [Piece.text_append, text_ofGap]
  refine ⟨ms ++ Piece.ofGap gap, ?_, ?_, ?_, ?_⟩
  · rw [tiled_append, text_ofGap, ← hr]
    refine ⟨hms, tiled_ofGap hg (fun hne => ho.last ?_) hs⟩
    rw [hr]
    exact List.append_ne_nil_of_left_ne_nil hne rest
  · rw [htext, List.append_assoc, ← hr, hrest]
  · rw [List.filterMap_append, hnone, pulls_ofGap, List.append_nil]
  · rw [ho.offset, htext, ← List.append_assoc, Text.bytes_append _ gap, Nat.add_assoc]

/-- One pull: a gap, and a lexeme unless the end was found. -/
theorem pull_tiled {i : Input} {l : Lexer} {read : List Char} (h : i.Reaches read l.input) :
    ∃ ps, Tiled i read ps l.pull.after.input.rest ∧
      l.input.rest = Piece.text ps ++ l.pull.after.input.rest ∧
      ps.filterMap Piece.pull? = [l.pull].filter (!·.isEnd) ∧
      i.Reaches (read ++ Piece.text ps) l.pull.after.input := by
  have hafter : l.pull.after = l.next.2 := rfl
  rw [hafter]
  rcases l.next_cases with hn | ⟨gap, c, tail, rest, hn⟩
  · have hend : l.pull.isEnd = true := hn.isEnd
    obtain ⟨ps, hps, htext, hnone, hoff⟩ := gap_tiled h hn.text_append hn.blank (by simp)
    rw [hn.rest_eq]
    refine ⟨ps, hps, htext, by simp [hnone, hend], ?_, by simp, ?_⟩
    · rw [hn.here, Position.advanceBy_offset, hoff]
    · exact fun hne => absurd hn.rest_eq hne
  · have hend : l.pull.isEnd = false := hn.isEnd
    obtain ⟨ps, hps, htext, hnone, hoff⟩ :=
      gap_tiled h hn.text hn.blank (by intro d hd; cases hd; exact hn.head)
    have htext' : Piece.text (ps ++ [.lexeme l.pull (c :: tail)]) = Piece.text ps ++ c :: tail := by
      simp [Piece.chars]
    rw [hn.rest_eq]
    refine ⟨ps ++ [.lexeme l.pull (c :: tail)], ?_, ?_, ?_, ?_⟩
    · rw [tiled_append]
      refine ⟨by simpa [Piece.chars] using hps, ⟨by simp, hn.lexeme, ?_, ?_⟩, trivial⟩
      · rw [hn.pull_start, Position.advanceBy_offset, hoff]
      · rw [hn.pull_stop, hn.pull_start, Position.advanceBy_offset]
    · rw [htext', List.append_assoc, htext]
    · simp [hnone, hend, Piece.pull?]
    · rw [htext', ← List.append_assoc]
      refine ⟨?_, by simp, fun _ => getLast?_append_of_ne_nil (by simp) hn.lexeme⟩
      rw [hn.here, Position.advanceBy_offset, Position.advanceBy_offset, hoff,
        Text.bytes_append _ (c :: tail), Nat.add_assoc]

/-! ## All pulls -/

theorem pulls_tiled_from {i : Input} {l : Lexer} {read : List Char} (h : i.Reaches read l.input)
    (as : List Alphabet) :
    ∃ ps, Tiled i read ps (l.afterPulls as).input.rest ∧
      l.input.rest = Piece.text ps ++ (l.afterPulls as).input.rest ∧
      ps.filterMap Piece.pull? = (l.pulls as).filter (!·.isEnd) ∧
      i.Reaches (read ++ Piece.text ps) (l.afterPulls as).input := by
  -- `Reaches` tells each pull what the pulls before it have consumed.
  induction as generalizing l read with
  | nil => exact ⟨[], trivial, rfl, rfl, by simpa [Lexer.afterPulls] using h⟩
  | cons a as ih =>
    obtain ⟨ps, hps, htext, hpull, hreach⟩ := pull_tiled (l := { l with alphabet := a }) h
    obtain ⟨qs, hqs, htext', hpulls, hreach'⟩ := ih hreach
    have hafter : l.afterPulls (a :: as) =
        (Lexer.pull { l with alphabet := a }).after.afterPulls as := rfl
    refine ⟨ps ++ qs, ?_, ?_, ?_, ?_⟩
    · rw [hafter, tiled_append, ← htext']
      exact ⟨hps, hqs⟩
    · rw [hafter, Piece.text_append, List.append_assoc, ← htext', htext]
    · rw [List.filterMap_append, hpull, hpulls, ← List.filter_append]
      rfl
    · rw [hafter, Piece.text_append, ← List.append_assoc]
      exact hreach'

namespace Lexer

theorem pull_order (l : Lexer) :
    l.input.here.offset ≤ l.pull.start.offset ∧ l.pull.start.offset ≤ l.pull.stop.offset ∧
      l.pull.stop = l.pull.after.input.here := by
  have ho := l.input.opening_here_le
  have hafter : l.pull.after = l.next.2 := rfl
  rw [hafter]
  rcases l.next_cases with h | ⟨gap, c, tail, rest, h⟩
  · rw [h.pull_start, h.pull_stop, h.here, Position.advanceBy_offset]
    exact ⟨by omega, Nat.le_refl _, rfl⟩
  · rw [h.pull_start, h.pull_stop, h.here, Position.advanceBy_offset _ (c :: tail),
      Position.advanceBy_offset]
    exact ⟨by omega, by omega, rfl⟩

theorem start_of_mem_pulls {l : Lexer} {as : List Alphabet} :
    ∀ x ∈ l.pulls as, l.input.here.offset ≤ x.start.offset := by
  induction as generalizing l with
  | nil => intro x hx; cases hx
  | cons a as ih =>
    obtain ⟨hle, hlt, hstop⟩ := pull_order { l with alphabet := a }
    intro x hx
    rcases List.mem_cons.1 hx with rfl | hx
    · exact hle
    · have hnext := ih x hx
      unfold pullWith at hnext
      rw [← hstop] at hnext
      exact Nat.le_trans hle (Nat.le_trans hlt hnext)

theorem pairwise_pulls (l : Lexer) (as : List Alphabet) :
    (l.pulls as).Pairwise fun x y => x.stop.offset ≤ y.start.offset := by
  induction as generalizing l with
  | nil => exact List.Pairwise.nil
  | cons a as ih =>
    obtain ⟨-, -, hstop⟩ := pull_order { l with alphabet := a }
    refine List.Pairwise.cons (fun y hy => ?_) (ih _)
    unfold pullWith at hy ⊢
    rw [hstop]
    exact start_of_mem_pulls y hy

theorem afterPulls_rest_of_nil {l : Lexer} (h : l.input.rest = []) (as : List Alphabet) :
    (l.afterPulls as).input.rest = [] := by
  obtain ⟨ps, -, htext, -⟩ := pulls_tiled_from (.refl l.input) as
  rw [h] at htext
  exact (List.append_eq_nil_iff.1 htext.symm).2

theorem afterPulls_rest_of_end {l : Lexer} {as : List Alphabet}
    (h : ∃ x ∈ l.pulls as, x.isEnd = true) : (l.afterPulls as).input.rest = [] := by
  induction as generalizing l with
  | nil => obtain ⟨x, hx, -⟩ := h; cases hx
  | cons a as ih =>
    obtain ⟨x, hx, he⟩ := h
    rcases List.mem_cons.1 hx with rfl | hx
    · rcases next_cases { l with alphabet := a } with hn | ⟨gap, c, tail, rest, hn⟩
      · exact afterPulls_rest_of_nil hn.rest_eq as
      · exact absurd (hn.isEnd.symm.trans he) Bool.false_ne_true
    · exact ih ⟨x, hx, he⟩

/-! ## The lexemes of a text without faults -/

theorem filter_of_blank {cs : List Char} (h : ∀ c ∈ cs, isBlank c = true) :
    cs.filter (!isBlank ·) = [] := by
  rw [List.filter_eq_nil_iff]
  intro c hc
  rw [h c hc]
  exact Bool.false_ne_true

theorem filter_of_not_blank {cs : List Char} (h : ∀ c ∈ cs, isBlank c = false) :
    cs.filter (!isBlank ·) = cs := by
  rw [List.filter_eq_self]
  intro c hc
  rw [h c hc]
  rfl

/-- A token cuts its lexeme out of the text; the rest that its pull consumes is blank. -/
theorem lexeme_of_next {s : String} {l : Lexer} {mark read : List Char} {t : Token}
    (h : l.input.Stands s mark read) (ho : l.input.opened = true) (ht : l.next.1 = .ok t) :
    ∃ cs, t.lexeme? s = some cs ∧
      l.input.rest.filter (!isBlank ·) = cs ++ l.next.2.input.rest.filter (!isBlank ·) ∧
      (t.isEnd = true → cs = [] ∧ l.next.2.input.rest = []) := by
  have hopening := Input.opening_of_opened ho
  rcases l.next_cases with hn | ⟨gap, c, tail, rest, hn⟩
  · have hr := hn.text_append
    have hg := hn.blank
    have heq := Except.ok.inj (ht.symm.trans hn.result)
    rw [hopening] at hr hg heq
    have hnil : (l.input.advance l.input.rest.length).rest = [] ++ [] :=
      Input.advance_rest_of_eq hr
    have hslice := (h.advance l.input.rest.length).slice hnil
    rw [Input.advance_here_of_eq hr] at hslice
    rw [hn.rest_eq]
    refine ⟨[], ?_, filter_of_blank hg, fun _ => ⟨rfl, rfl⟩⟩
    rw [heq]
    exact hslice
  · have hr := hn.text
    have heq := ht.symm.trans hn.result
    rw [hopening] at hr heq
    obtain ⟨hstart, hstop⟩ := ends_of_pulled heq.symm
    have hslice := (h.advance gap.length).slice (Input.advance_rest_of_eq hr)
    rw [Input.advance_here_of_eq hr] at hslice
    rw [hn.rest_eq]
    refine ⟨c :: tail, ?_, ?_, fun he => ?_⟩
    · rw [Token.lexeme?, hstart, hstop, Position.advanceBy_offset _ (c :: tail)]
      exact hslice
    · rw [hr, List.filter_append, List.filter_append, filter_of_blank hn.blank,
        filter_of_not_blank hn.lexeme, List.nil_append]
    · have hend := hn.isEnd
      rw [ht] at hend
      exact absurd (he.symm.trans hend) (by decide)

theorem lexemes_of_run {s : String} {l : Lexer} {mark read : List Char} {ts : List Token}
    (h : l.input.Stands s mark read) (ho : l.input.opened = true) (hts : l.run = ts.map .ok) :
    ∃ lexemes, ts.mapM (Token.lexeme? s) = some lexemes ∧
      lexemes.flatten = l.input.rest.filter (!isBlank ·) := by
  induction ts generalizing l read with
  | nil => exact absurd hts l.run_ne_nil
  | cons t ts ih =>
    cases he : isEnd l.next.1 with
    | true =>
      rw [run_of_end he, List.map_cons] at hts
      obtain ⟨hfirst, hnil⟩ := List.cons.inj hts
      cases List.map_eq_nil_iff.1 hnil.symm
      rw [hfirst] at he
      obtain ⟨cs, hcs, hfilter, hend⟩ := lexeme_of_next h ho hfirst
      obtain ⟨rfl, hrest⟩ := hend he
      refine ⟨[[]], ?_, ?_⟩
      · rw [List.mapM_cons, hcs]
        rfl
      · rw [hfilter, hrest]
        rfl
    | false =>
      rw [run_of_not_end he, List.map_cons] at hts
      obtain ⟨hfirst, hmore⟩ := List.cons.inj hts
      obtain ⟨cs, hcs, hfilter, -⟩ := lexeme_of_next h ho hfirst
      obtain ⟨n, hn⟩ := l.next_input
      rw [Input.opening_of_opened ho] at hn
      obtain ⟨lexemes, hmap, hflat⟩ := ih (by rw [hn]; exact h.advance n) l.next_opened hmore
      refine ⟨cs :: lexemes, ?_, ?_⟩
      · rw [List.mapM_cons, hcs, hmap]
        rfl
      · rw [List.flatten_cons, hflat, hfilter]

end Lexer

/-- **Pulls tile the text.** From any state of a session, under any alphabets, the text from there
to where the lexer comes to stand falls into a byte order mark, runs of blanks and the lexemes of the
pulls; if the end was found, this is all the text. The lexemes of a text without faults are the text
without its mark and its blanks. -/
theorem Lexer.pulls_tile_text (s : String) :
    (∀ (acts : List Action) (as : List Alphabet),
      let l := (ofString s default).performAll acts
      let i := l.input
      let j := (l.afterPulls as).input
      ∃ ps, Tiled i [] ps j.rest ∧
        slice? s.toList i.here.offset j.here.offset = some (Piece.text ps) ∧
        ps.filterMap Piece.pull? = (l.pulls as).filter (!·.isEnd) ∧
        (l.pulls as).Pairwise (fun x y => x.stop.offset ≤ y.start.offset) ∧
        ((∃ x ∈ l.pulls as, x.isEnd = true) →
          slice? s.toList i.here.offset (bytes s.toList) = some (Piece.text ps))) ∧
    ∀ (a : Alphabet) (ts : Array Token), (ofString s a).tokens.1 = .ok ts →
      ∃ lexemes, ts.toList.mapM (Token.lexeme? s) = some lexemes ∧
        lexemes.flatten = (Text.body s).filter (!isBlank ·) := by
  refine ⟨fun acts as => ?_, fun a ts hts => ?_⟩
  · dsimp only
    generalize hl : (ofString s default).performAll acts = l
    obtain ⟨read, hs⟩ := session_stands s default acts
    rw [hl] at hs
    obtain ⟨ps, hps, htext, hpulls, hreach⟩ := pulls_tiled_from (.refl l.input) as
    have hslice := hs.slice htext
    have hoff := hreach.offset
    rw [List.nil_append] at hoff
    refine ⟨ps, hps, by rw [hoff]; exact hslice, hpulls, pairwise_pulls l as, fun hend => ?_⟩
    rw [afterPulls_rest_of_end hend, List.append_nil] at htext
    have hcut := congrArg bytes hs.cut
    rw [Text.bytes_append _ l.input.rest, ← hs.offset, htext] at hcut
    rw [hcut]
    exact hslice
  · obtain ⟨hs, hrest⟩ := Input.stands_opening_ofString s
    rw [tokens_eq_ok_iff, ← run_of_opening] at hts
    obtain ⟨lexemes, hmap, hflat⟩ :=
      lexemes_of_run (l := { ofString s a with input := (Input.ofString s).opening }) hs
        (Input.opening_opened _) hts
    rw [hrest] at hflat
    exact ⟨lexemes, hmap, hflat⟩

/-- A text that begins with a mark: read up to its end under changing alphabets, and without faults
under one. -/
theorem Lexer.pulls_tile_marked_text :
    (∃ ps, slice? "\ufeffé #\n".toList 0 (bytes "\ufeffé #\n".toList) = some (Piece.text ps)) ∧
    ∃ lexemes, [⟨.identifier, .text "x", ⟨3, 1, 1⟩, ⟨4, 1, 2⟩⟩,
        ⟨.unsignedInteger, .integer 12, ⟨5, 1, 3⟩, ⟨7, 1, 5⟩⟩,
        Token.endAt ⟨7, 1, 5⟩].mapM (Token.lexeme? "\ufeffx 12") = some lexemes ∧
      lexemes.flatten = (Text.body "\ufeffx 12").filter (!isBlank ·) := by
  constructor
  · obtain ⟨ps, -, -, -, -, hend⟩ :=
      (pulls_tile_text "\ufeffé #\n").1 [.pass 0, .rewrap] [.ascii, .unicode, .ascii]
    exact ⟨ps, hend (by decide +kernel)⟩
  · refine (pulls_tile_text "\ufeffx 12").2 .unicode
      #[⟨.identifier, .text "x", ⟨3, 1, 1⟩, ⟨4, 1, 2⟩⟩,
        ⟨.unsignedInteger, .integer 12, ⟨5, 1, 3⟩, ⟨7, 1, 5⟩⟩, .endAt ⟨7, 1, 5⟩] ?_
    rw [tokens_eq_ok_iff, run_of_not_end (by decide +kernel), run_of_not_end (by decide +kernel),
      run_of_end (by decide +kernel)]
    decide +kernel

end PLZero
