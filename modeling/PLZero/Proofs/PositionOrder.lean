import PLZero.Proofs.LineTable
import PLZero.Proofs.Runs

/-! The order of the positions of a run. Positions are ordered by offset, then by line and column.
Where they come from one text, the offset alone tells the order, and line and column alone tell it
too.

* `Position.Precedes` is the order told both ways; `precedes_advanceBy`: what lies further on in a
  text comes later.
* `Position.Agree` says that all ways to tell the order of two positions agree.
* `Token.Covers` says where a token lies in its text; `Lexer.exists_covers`: all tokens of a run lie
  somewhere in it.
* `Lexer.positions_agree` puts this together for the runs on a text. -/
namespace PLZero
set_option autoImplicit false

open Text (bytes markOf body)

/-- A text that is not too long leaves its counters room. -/
theorem Text.length_body_lt {s : String} (h : s.length ≤ UInt32.size - 2) :
    (body s).length + 1 < UInt32.size := by
  have hsize : UInt32.size = 4294967296 := rfl
  have hlen := congrArg List.length (Text.markOf_append_body s)
  rw [List.length_append, String.length_toList] at hlen
  omega

namespace Position
variable {p q : Position} {before mid : List Char}

/-! ## Ways to tell the order -/

/-- The line and column of `p` come before those of `q`. -/
def LineColumnLt (p q : Position) : Prop :=
  p.line < q.line ∨ p.line = q.line ∧ p.column < q.column

theorem compare_eq_lt_iff :
    compare p q = .lt ↔ p.offset < q.offset ∨ p.offset = q.offset ∧ p.LineColumnLt q := by
  have hdef : compare p q = (compare p.offset q.offset).then
    ((compare p.line q.line).then (compare p.column q.column)) := rfl
  rw [hdef, Ordering.then_eq_lt, Ordering.then_eq_lt, Std.compare_eq_lt, Std.compare_eq_lt,
    Std.compare_eq_lt, Std.compare_eq_iff_eq, Std.compare_eq_iff_eq]
  rfl

/-- `p` comes before `q`, by the offset as well as by line and column. -/
structure Precedes (p q : Position) : Prop where
  offset : p.offset < q.offset
  lineColumn : p.LineColumnLt q

/-- The offsets, the lines and columns, and the order of positions tell the same of `p` and `q`. -/
structure Agree (p q : Position) : Prop where
  offset_lt_iff : p.offset < q.offset ↔ compare p q = .lt
  compare_lt_iff : compare p q = .lt ↔ p.LineColumnLt q
  offset_eq_iff : p.offset = q.offset ↔ p.line = q.line ∧ p.column = q.column

theorem not_lineColumnLt_of_lt (h : p.LineColumnLt q) : ¬q.LineColumnLt p := by
  unfold LineColumnLt at *
  simp only [UInt32.lt_iff_toNat_lt, ← UInt32.toNat_inj] at *
  omega

theorem Agree.refl (p : Position) : p.Agree p := by
  have hnone : ¬p.LineColumnLt p := fun h => not_lineColumnLt_of_lt h h
  have hcompare : ¬compare p p = .lt := by
    rw [compare_eq_lt_iff]
    exact fun h => h.elim (Nat.lt_irrefl _) fun h => hnone h.2
  exact ⟨iff_of_false (Nat.lt_irrefl _) hcompare, iff_of_false hcompare hnone,
    iff_of_true rfl ⟨rfl, rfl⟩⟩

theorem Precedes.agree (h : p.Precedes q) : p.Agree q := by
  have hcompare : compare p q = .lt := compare_eq_lt_iff.2 (.inl h.offset)
  refine ⟨iff_of_true h.offset hcompare, iff_of_true hcompare h.lineColumn,
    iff_of_false (Nat.ne_of_lt h.offset) ?_⟩
  rintro ⟨hline, hcolumn⟩
  rcases h.lineColumn with hlt | ⟨-, hlt⟩
  · rw [hline] at hlt
    exact UInt32.lt_irrefl _ hlt
  · rw [hcolumn] at hlt
    exact UInt32.lt_irrefl _ hlt

theorem Precedes.agree_symm (h : p.Precedes q) : q.Agree p := by
  have hoffset : ¬q.offset < p.offset := Nat.lt_asymm h.offset
  have hcompare : ¬compare q p = .lt := by
    rw [compare_eq_lt_iff]
    exact fun hlt => hlt.elim hoffset fun heq => Nat.ne_of_lt h.offset heq.1.symm
  refine ⟨iff_of_false hoffset hcompare,
    iff_of_false hcompare (not_lineColumnLt_of_lt h.lineColumn), ?_⟩
  rw [eq_comm, h.agree.offset_eq_iff, eq_comm, @eq_comm _ p.column]

/-! ## Moving on in a text -/

/-- As long as the counters are large enough, what lies further on comes later. -/
theorem precedes_advanceBy (hline : p.line = 1) (hcolumn : p.column = 1) (hmid : mid ≠ [])
    (h : (before ++ mid).length + 1 < UInt32.size) :
    (p.advanceBy before).Precedes (p.advanceBy (before ++ mid)) where
  offset := by
    have hpos : bytes mid ≠ 0 := mt Text.bytes_eq_zero_iff.1 hmid
    rw [advanceBy_offset, advanceBy_offset, Text.bytes_append]
    omega
  lineColumn := by
    have hbefore : before.length + 1 < UInt32.size := by
      rw [List.length_append] at h
      omega
    unfold LineColumnLt
    rw [UInt32.lt_iff_toNat_lt, UInt32.lt_iff_toNat_lt, ← UInt32.toNat_inj,
      toNat_line_advanceBy hline hbefore, toNat_line_advanceBy hline h,
      toNat_column_advanceBy hcolumn hbefore, toNat_column_advanceBy hcolumn h, List.count_append]
    by_cases hnl : '\n' ∈ mid
    · have hcount := List.count_pos_iff.2 hnl
      exact .inl (by omega)
    · have hcount := List.count_eq_zero_of_not_mem hnl
      have hlength := List.length_pos_iff.2 hmid
      rw [Text.lastLine_append hnl, List.length_append]
      exact .inr ⟨by omega, by omega⟩

theorem agree_of_prefix {text ds : List Char} (hline : p.line = 1) (hcolumn : p.column = 1)
    (hbefore : before <+: text) (hds : ds <+: text) (h : text.length + 1 < UInt32.size) :
    (p.advanceBy before).Agree (p.advanceBy ds) := by
  -- Of two beginnings of a text one goes on to the other.
  have hle := hbefore.length_le
  have hle' := hds.length_le
  rcases List.prefix_or_prefix_of_prefix hbefore hds with ⟨mid, rfl⟩ | ⟨mid, rfl⟩
  · by_cases hmid : mid = []
    · rw [hmid, List.append_nil]
      exact Agree.refl _
    · exact (precedes_advanceBy hline hcolumn hmid (by omega)).agree
  · by_cases hmid : mid = []
    · rw [hmid, List.append_nil]
      exact Agree.refl _
    · exact (precedes_advanceBy hline hcolumn hmid (by omega)).agree_symm

theorem le_advanceBy (p : Position) (cs : List Char) : p ≤ p.advanceBy cs := by
  show (compare p (p.advanceBy cs)).isLE = true
  by_cases hcs : cs = []
  · have hself : compare p p = (compare p.offset p.offset).then
      ((compare p.line p.line).then (compare p.column p.column)) := rfl
    rw [hcs, advanceBy_nil, hself, Std.compare_self, Std.compare_self, Std.compare_self]
    rfl
  · have hpos : bytes cs ≠ 0 := mt Text.bytes_eq_zero_iff.1 hcs
    have hlt : p.offset < (p.advanceBy cs).offset := by
      rw [advanceBy_offset]
      omega
    rw [compare_eq_lt_iff.2 (.inl hlt)]
    rfl

end Position

/-! ## Where a token lies -/

/-- The token `t` covers `lexeme`, which comes behind `before` in a text read from `p` on. -/
structure Token.Covers (t : Token) (p : Position) (before lexeme : List Char) : Prop where
  start : t.start = p.advanceBy before
  stop : t.stop = p.advanceBy (before ++ lexeme)
  noBlank : ∀ c ∈ lexeme, isBlank c = false
  isEnd_iff : t.isEnd = true ↔ lexeme = []

namespace Token.Covers
variable {t : Token} {p : Position} {before lexeme : List Char}

theorem newline_not_mem (h : t.Covers p before lexeme) : '\n' ∉ lexeme := fun hnl =>
  absurd (h.noBlank _ hnl) (by decide)

/-- A token lies on one line. -/
theorem line_eq (h : t.Covers p before lexeme) : t.start.line = t.stop.line := by
  rw [h.start, h.stop, Position.advanceBy_append, Position.line_advanceBy _ lexeme,
    List.count_eq_zero_of_not_mem h.newline_not_mem]
  exact (UInt32.add_zero _).symm

/-- A token fills as many columns as its lexeme has characters. -/
theorem column_eq (h : t.Covers p before lexeme) (hp : p.column = 1)
    (hlen : (before ++ lexeme).length + 1 < UInt32.size) :
    t.stop.column.toNat = t.start.column.toNat + lexeme.length := by
  have hbefore : before.length + 1 < UInt32.size := by
    rw [List.length_append] at hlen
    omega
  rw [h.start, h.stop, Position.toNat_column_advanceBy hp hbefore,
    Position.toNat_column_advanceBy hp hlen, Text.lastLine_append h.newline_not_mem,
    List.length_append, Nat.add_assoc]

theorem start_eq_stop_iff (h : t.Covers p before lexeme) : t.start = t.stop ↔ t.isEnd = true := by
  rw [h.isEnd_iff, h.start, h.stop]
  constructor
  · intro heq
    have hoffset := congrArg Position.offset heq
    rw [Position.advanceBy_append, Position.advanceBy_offset _ lexeme] at hoffset
    exact Text.bytes_eq_zero_iff.1 (by omega)
  · rintro rfl
    rw [List.append_nil]

end Token.Covers

namespace Lexer
variable {a : Alphabet} {s : String} {t : Token}

theorem covers_of_mem_runAt {p : Position} {cs : List Char} (h : .ok t ∈ runAt a p cs) :
    ∃ before lexeme rest, cs = before ++ lexeme ++ rest ∧ t.Covers p before lexeme := by
  induction cs using Alphabet.text_induction (a := a) generalizing p with
  | blank gap hg =>
    rw [runAt_of_blank hg] at h
    cases List.mem_singleton.1 h
    refine ⟨gap, [], [], by simp, rfl, ?_, List.forall_mem_nil _, iff_of_true rfl rfl⟩
    rw [List.append_nil]
    rfl
  | lexeme gap c tail rest hlead ih =>
    rw [runAt_of_leads hlead] at h
    rcases List.mem_cons.1 h with h | h
    · have hn : (standing a p (gap ++ (c :: tail ++ rest))).AtLexeme gap c tail rest :=
        ⟨rfl, hlead.blank, hlead.head, hlead.munch⟩
      obtain ⟨hstart, hstop⟩ := ends_of_pulled h.symm
      refine ⟨gap, c :: tail, rest, (List.append_assoc _ _ _).symm, hstart, ?_, hn.lexeme, ?_⟩
      · rw [hstop, Position.advanceBy_append]
      · have hend := isEnd_pulled a c tail (p.advanceBy gap)
          ((p.advanceBy gap).advanceBy (c :: tail))
        rw [← h] at hend
        exact iff_of_false (ne_true_of_eq_false hend) (List.cons_ne_nil _ _)
    · obtain ⟨before, lexeme, after, rfl, hcovers⟩ := ih h
      refine ⟨gap ++ c :: tail ++ before, lexeme, after, by simp, ?_, ?_, hcovers.noBlank,
        hcovers.isEnd_iff⟩
      · rw [hcovers.start, Position.advanceBy_append, Position.advanceBy_append]
      · rw [hcovers.stop, List.append_assoc (gap ++ c :: tail), Position.advanceBy_append p,
          Position.advanceBy_append p gap]

/-- Every token of a run on a text lies in the body of the text. -/
theorem exists_covers (h : .ok t ∈ (ofString s a).run) :
    ∃ before lexeme rest, body s = before ++ lexeme ++ rest ∧
      t.Covers (.behind (markOf s)) before lexeme := by
  rw [run_ofString] at h
  exact covers_of_mem_runAt h

theorem lexeme?_of_covers {before lexeme rest : List Char}
    (hbody : body s = before ++ lexeme ++ rest)
    (h : t.Covers (.behind (markOf s)) before lexeme) : t.lexeme? s = some lexeme := by
  refine Text.slice?_eq_some_iff.2 ⟨markOf s ++ before, rest, ?_, ?_, ?_⟩
  · rw [← Text.markOf_append_body s, hbody]
    simp
  · rw [h.start, Position.advanceBy_offset, Text.bytes_append]
    rfl
  · rw [h.start, h.stop, Position.advanceBy_append, Position.advanceBy_offset _ lexeme]

theorem stop_column_of_covers {before lexeme rest : List Char} (hs : s.length ≤ UInt32.size - 2)
    (hbody : body s = before ++ lexeme ++ rest)
    (h : t.Covers (.behind (markOf s)) before lexeme) :
    t.stop.column.toNat = t.start.column.toNat + lexeme.length := by
  have hlen := Text.length_body_lt hs
  rw [hbody, List.length_append] at hlen
  exact h.column_eq rfl (by omega)

/-- Every position that a run on a text tells of lies in the body of the text. -/
theorem exists_prefix_of_mem_places {r : Pulled} (hr : r ∈ (ofString s a).run) {p : Position}
    (hp : p ∈ places r) :
    ∃ before, before <+: body s ∧ p = (Position.behind (markOf s)).advanceBy before := by
  obtain ⟨hstands, hrest⟩ := Input.stands_opening_ofString s
  obtain ⟨n, rfl⟩ := place_of_mem_run hr hp
  have hthere := (hstands.advance n).here
  rw [hrest, List.nil_append] at hthere
  exact ⟨(body s).take n, List.take_prefix n _, hthere⟩

/-- Every token that is pulled could be made: it does not start after its end. -/
theorem make?_of_next {l : Lexer} (h : l.next.1 = .ok t) :
    Token.make? t.kind t.value t.start t.stop = .ok t := by
  have hle : t.start ≤ t.stop := by
    rcases l.next_cases with hn | ⟨gap, c, tail, rest, hn⟩
    · rw [hn.result] at h
      cases h
      exact Position.le_advanceBy _ []
    · obtain ⟨hstart, hstop⟩ := ends_of_pulled (hn.result.symm.trans h)
      rw [hstart, hstop]
      exact Position.le_advanceBy _ _
  rw [Token.make?, if_pos hle]

/-- **The positions of a run are in one order.** In a text that is not too long, any two positions
that a run tells of are ordered alike by their offsets, by line and column, and by the order of
positions, and only equal positions have equal offsets. A token lies on one line, fills one column
for each character of its lexeme, and is empty only at the end. No token that is ever pulled starts
after its end. -/
theorem positions_agree (a : Alphabet) (s : String) (h : s.length ≤ UInt32.size - 2) :
    (∀ r ∈ (ofString s a).run, ∀ r' ∈ (ofString s a).run, ∀ p ∈ places r, ∀ q ∈ places r',
      p.Agree q) ∧
    (∀ t, .ok t ∈ (ofString s a).run →
      t.start ≤ t.stop ∧ (t.start = t.stop ↔ t.isEnd = true) ∧ t.start.line = t.stop.line ∧
      ∃ lexeme, t.lexeme? s = some lexeme ∧
        t.stop.column.toNat = t.start.column.toNat + lexeme.length) ∧
    ∀ (acts : List Action) (t : Token), ((ofString s default).performAll acts).next.1 = .ok t →
      Token.make? t.kind t.value t.start t.stop = .ok t := by
  have hbody := Text.length_body_lt h
  refine ⟨fun r hr r' hr' p hp q hq => ?_, fun t ht => ?_, fun acts t => make?_of_next⟩
  · obtain ⟨before, hbefore, rfl⟩ := exists_prefix_of_mem_places hr hp
    obtain ⟨ds, hds, rfl⟩ := exists_prefix_of_mem_places hr' hq
    exact Position.agree_of_prefix rfl rfl hbefore hds hbody
  · obtain ⟨before, lexeme, rest, hcut, hcovers⟩ := exists_covers ht
    refine ⟨?_, hcovers.start_eq_stop_iff, hcovers.line_eq, lexeme, lexeme?_of_covers hcut hcovers,
      stop_column_of_covers h hcut hcovers⟩
    rw [hcovers.stop, Position.advanceBy_append, ← hcovers.start]
    exact Position.le_advanceBy _ _

/-- Behind a mark: a letter of two bytes, a fault, and a literal on the next line. -/
theorem positions_agree_marked :
    let s := "\ufeffé #\n12"
    let t : Token := ⟨.unsignedInteger, .integer 12, ⟨8, 2, 1⟩, ⟨10, 2, 3⟩⟩
    s.length ≤ UInt32.size - 2 ∧ (Position.mk 6 1 3).Agree t.start ∧
      ∃ lexeme, t.lexeme? s = some lexeme ∧
        t.stop.column.toNat = t.start.column.toNat + lexeme.length := by
  intro s t
  have hlen : s.length ≤ UInt32.size - 2 := by decide
  have hfault : .error ⟨.invalidInput, ⟨6, 1, 3⟩⟩ ∈ (ofString s .unicode).run := by decide +kernel
  have ht : .ok t ∈ (ofString s .unicode).run := by decide +kernel
  obtain ⟨hplaces, htokens, -⟩ := positions_agree .unicode s hlen
  obtain ⟨-, -, -, hlexeme⟩ := htokens t ht
  exact ⟨hlen, hplaces _ hfault _ ht _ (List.mem_singleton_self _) _ List.mem_cons_self, hlexeme⟩

end Lexer

end PLZero
