import Mathlib.Data.List.DropRight
import PLZero.Proofs.Session
import PLZero.Text.Listing

/-! Two ways to tell the line of a place. An input counts lines and columns as it moves on; a
listing keeps a table of the offsets where lines begin. Both agree at every place where an input can
stand.

* `Text.lineStartsAfter_append` splits the table at a place of the text.
* `Position.toNat_line_advanceBy` and `Position.toNat_column_advanceBy` say what the counters hold;
  in texts that are not too long they do not wrap around.
* `Listing.Locates` says that a position is right for a listing; `Input.Stands.located`: an input
  that stands in a text has such a position. -/
namespace PLZero
set_option autoImplicit false

open Text (bytes lineStartsAfter)

/-! ## The table -/

namespace Text

/-- What has been written on the line where `cs` ends. -/
def lastLine (cs : List Char) : List Char := cs.rtakeWhile (· != '\n')

/-- The lines before the one where `cs` ends. -/
def linesBefore (cs : List Char) : List Char := cs.rdropWhile (· != '\n')

theorem lastLine_newline (cs : List Char) : lastLine (cs ++ ['\n']) = [] :=
  List.rtakeWhile_concat_neg _ _ _ (by decide)

theorem lastLine_concat {c : Char} (h : c ≠ '\n') (cs : List Char) :
    lastLine (cs ++ [c]) = lastLine cs ++ [c] :=
  List.rtakeWhile_concat_pos _ _ _ (by simp [h])

theorem lastLine_append {cs ds : List Char} (h : '\n' ∉ ds) :
    lastLine (cs ++ ds) = lastLine cs ++ ds := by
  induction ds using List.reverseRecOn with
  | nil => rw [List.append_nil, List.append_nil]
  | append_singleton ds c ih =>
    rw [List.mem_append, List.mem_singleton, not_or] at h
    rw [← List.append_assoc, lastLine_concat (Ne.symm h.2), ih h.1, List.append_assoc]

theorem linesBefore_newline (cs : List Char) : linesBefore (cs ++ ['\n']) = cs ++ ['\n'] :=
  List.rdropWhile_concat_neg _ _ _ (by decide)

theorem linesBefore_concat {c : Char} (h : c ≠ '\n') (cs : List Char) :
    linesBefore (cs ++ [c]) = linesBefore cs :=
  List.rdropWhile_concat_pos _ _ _ (by simp [h])

theorem length_lastLine_le (cs : List Char) : (lastLine cs).length ≤ cs.length :=
  (List.rtakeWhile_suffix _ _).length_le

theorem lineStartsAfter_append (n : Nat) (cs ds : List Char) :
    lineStartsAfter n (cs ++ ds) = lineStartsAfter n cs ++ lineStartsAfter (n + bytes cs) ds := by
  induction cs generalizing n with
  | nil => rfl
  | cons c cs ih =>
    rw [List.cons_append, lineStartsAfter, lineStartsAfter, ih, bytes_cons, Nat.add_assoc]
    split
    · rfl
    · rfl

theorem length_lineStartsAfter (n : Nat) (cs : List Char) :
    (lineStartsAfter n cs).length = cs.count '\n' := by
  induction cs generalizing n with
  | nil => rfl
  | cons c cs ih =>
    rw [lineStartsAfter]
    by_cases hc : c = '\n'
    · rw [if_pos hc, hc, List.length_cons, ih, List.count_cons_self]
    · rw [if_neg hc, ih, List.count_cons_of_ne hc]

theorem lt_of_mem_lineStartsAfter {m n : Nat} {cs : List Char} (h : m ∈ lineStartsAfter n cs) :
    n < m := by
  induction cs generalizing n with
  | nil => cases h
  | cons c cs ih =>
    have hc := Char.utf8Size_pos c
    rw [lineStartsAfter] at h
    split at h
    · rcases List.mem_cons.1 h with rfl | h
      · omega
      · have hlt := ih h
        omega
    · have hlt := ih h
      omega

theorem getElem?_lineStartsAfter (cs : List Char) :
    (0 :: lineStartsAfter 0 cs)[cs.count '\n']? = some (bytes (linesBefore cs)) := by
  induction cs using List.reverseRecOn with
  | nil => rfl
  | append_singleton cs c ih =>
    -- A line feed adds the last entry, and any other character adds none.
    have hlen := length_lineStartsAfter 0 cs
    rw [lineStartsAfter_append, Nat.zero_add, List.count_append]
    by_cases hc : c = '\n'
    · subst hc
      rw [linesBefore_newline, bytes_append]
      show (0 :: (lineStartsAfter 0 cs ++ [bytes cs + 1]))[cs.count '\n' + 1]? = some (bytes cs + 1)
      rw [List.getElem?_cons_succ, ← hlen, List.getElem?_concat_length]
    · rw [linesBefore_concat hc, List.count_singleton, if_neg (by simpa using hc), ← ih,
        lineStartsAfter, if_neg hc]
      show (0 :: (lineStartsAfter 0 cs ++ []))[cs.count '\n' + 0]? = _
      rw [List.append_nil, Nat.add_zero]

end Text

open Text (lastLine linesBefore)

/-! ## The counters -/

namespace Position

theorem line_advance (p : Position) (c : Char) :
    (p.advance c).line = if c = '\n' then p.line + 1 else p.line := by
  unfold advance
  split <;> rfl

theorem column_advance (p : Position) (c : Char) :
    (p.advance c).column = if c = '\n' then 1 else p.column + 1 := by
  unfold advance
  split <;> rfl

theorem advanceBy_concat (p : Position) (cs : List Char) (c : Char) :
    p.advanceBy (cs ++ [c]) = (p.advanceBy cs).advance c := advanceBy_append p cs [c]

theorem line_advanceBy (p : Position) (cs : List Char) :
    (p.advanceBy cs).line = p.line + UInt32.ofNat (cs.count '\n') := by
  induction cs generalizing p with
  | nil => simp
  | cons c cs ih =>
    rw [advanceBy_cons, ih, line_advance]
    by_cases hc : c = '\n'
    · rw [if_pos hc, hc, List.count_cons_self, UInt32.ofNat_add, UInt32.add_assoc,
        UInt32.add_comm 1]
      rfl
    · rw [if_neg hc, List.count_cons_of_ne hc]

/-- A counter that is not full counts on. -/
theorem toNat_succ {n : UInt32} {k : Nat} (h : n.toNat = k) (hk : k + 1 < UInt32.size) :
    (n + 1).toNat = k + 1 := by
  rw [UInt32.toNat_add, h]
  exact Nat.mod_eq_of_lt hk

theorem toNat_line_advanceBy {p : Position} (hp : p.line = 1) {cs : List Char}
    (h : cs.length + 1 < UInt32.size) : (p.advanceBy cs).line.toNat = 1 + cs.count '\n' := by
  have hsize : UInt32.size = 4294967296 := rfl
  have hle := List.count_le_length (a := '\n') (l := cs)
  have hone : (1 : UInt32).toNat = 1 := rfl
  rw [line_advanceBy, hp, UInt32.toNat_add, UInt32.toNat_ofNat', hone, Nat.mod_eq_of_lt (by omega),
    Nat.mod_eq_of_lt (by omega)]

theorem toNat_column_advanceBy {p : Position} (hp : p.column = 1) {cs : List Char}
    (h : cs.length + 1 < UInt32.size) :
    (p.advanceBy cs).column.toNat = 1 + (lastLine cs).length := by
  induction cs using List.reverseRecOn with
  | nil => rw [advanceBy_nil, hp]; rfl
  | append_singleton cs c ih =>
    rw [List.length_append, List.length_singleton] at h
    have hcs := ih (by omega)
    have hle := Text.length_lastLine_le cs
    rw [advanceBy_concat, column_advance]
    by_cases hc : c = '\n'
    · rw [if_pos hc, hc, Text.lastLine_newline]
      rfl
    · rw [if_neg hc, toNat_succ hcs (by omega), Text.lastLine_concat hc, List.length_append]
      rfl

end Position

/-! ## Places in a listing -/

/-- The position `p` stands between `read` and `rest` in the listing: its counters and the table of
the listing say so. A byte order mark that was passed over fills no column. -/
structure Listing.Locates (l : Listing) (passed : Bool) (read rest : List Char) (p : Position) :
    Prop where
  cut : l.content.toList = read ++ rest
  mark : passed = true → read.head? = some byteOrderMark
  offset : p.offset = bytes read
  line : p.line.toNat = 1 + read.count '\n'
  column : p.column.toNat = 1 + (lastLine (if passed then read.drop 1 else read)).length
  lineCount : 1 ≤ p.line.toNat ∧ p.line.toNat ≤ l.lineCount
  begins : l.lineStarts[p.line.toNat - 1]? = some (bytes (linesBefore read))
  ends : ∀ n ∈ l.lineStarts[p.line.toNat]?, p.offset < n
  room : rest ≠ [] → p.line.toNat + 1 < UInt32.size ∧ p.column.toNat + 1 < UInt32.size

namespace Listing
variable {l : Listing} {read rest : List Char}

theorem lineStarts_of_cut (h : l.content.toList = read ++ rest) :
    l.lineStarts = (0 :: lineStartsAfter 0 read) ++ lineStartsAfter (bytes read) rest := by
  rw [lineStarts, h, Text.lineStartsAfter_append, Nat.zero_add, List.cons_append]

theorem length_lineStarts_read (read : List Char) :
    (0 :: lineStartsAfter 0 read).length = read.count '\n' + 1 := by
  rw [List.length_cons, Text.length_lineStartsAfter]

theorem count_lt_lineCount (h : l.content.toList = read ++ rest) :
    read.count '\n' < l.lineCount := by
  rw [lineCount, lineStarts_of_cut h, List.length_append, length_lineStarts_read]
  omega

theorem getElem?_lineStarts (h : l.content.toList = read ++ rest) :
    l.lineStarts[read.count '\n']? = some (bytes (linesBefore read)) := by
  have hlen := length_lineStarts_read read
  rw [lineStarts_of_cut h, List.getElem?_append_left (by omega)]
  exact Text.getElem?_lineStartsAfter read

theorem lt_of_getElem?_lineStarts (h : l.content.toList = read ++ rest) {n : Nat}
    (hn : n ∈ l.lineStarts[read.count '\n' + 1]?) : bytes read < n := by
  have hlen := length_lineStarts_read read
  rw [lineStarts_of_cut h, List.getElem?_append_right (by omega)] at hn
  exact Text.lt_of_mem_lineStartsAfter (List.mem_of_getElem? hn)

end Listing

/-- An input that stands in a text is located in it, if the counters are large enough for it. -/
theorem Input.Stands.located {name s : String} {passed : Bool} {read : List Char} {i : Input}
    (h : i.Stands s (if passed = true then [byteOrderMark] else []) read)
    (hs : s.length ≤ UInt32.size - 2) :
    (Listing.mk name s).Locates passed
      ((if passed = true then [byteOrderMark] else []) ++ read) i.rest i.here := by
  generalize hm : (if passed = true then [byteOrderMark] else []) = mark at h
  have hsize : UInt32.size = 4294967296 := rfl
  have hcut : (Listing.mk name s).content.toList = (mark ++ read) ++ i.rest := h.cut
  have hlen := congrArg List.length h.cut
  rw [String.length_toList, List.length_append, List.length_append] at hlen
  have hcount : (mark ++ read).count '\n' = read.count '\n' := by
    rw [List.count_append, ← hm]
    cases passed <;> simp [byteOrderMark]
  have hline : i.here.line.toNat = 1 + (mark ++ read).count '\n' := by
    rw [h.here, hcount]
    exact Position.toNat_line_advanceBy rfl (by omega)
  have hcolumn : i.here.column.toNat = 1 + (lastLine read).length := by
    rw [h.here]
    exact Position.toNat_column_advanceBy rfl (by omega)
  have hlt := Listing.count_lt_lineCount hcut
  have hle := List.count_le_length (a := '\n') (l := read)
  have hlast := Text.length_lastLine_le read
  refine ⟨hcut, ?_, h.offset, hline, ?_, ⟨by omega, by omega⟩, ?_, ?_, fun hne => ?_⟩
  · intro hp
    rw [← hm, hp]
    rfl
  · rw [hcolumn, ← hm]
    cases passed <;> rfl
  · rw [hline, Nat.add_sub_cancel_left]
    exact Listing.getElem?_lineStarts hcut
  · rw [hline, h.offset, Nat.add_comm]
    exact fun n hn => Listing.lt_of_getElem?_lineStarts hcut hn
  · have hpos := List.length_pos_iff.2 hne
    exact ⟨by omega, by omega⟩

/-- **Positions and the line table agree.** After every history the input stands at a position that
is located in the listing of its text, and so are the positions of all tokens and faults that an
action gives. -/
theorem Lexer.session_located (name s : String) (h : s.length ≤ UInt32.size - 2)
    (acts : List Action) :
    let l := (ofString s default).performAll acts
    let listing := Listing.mk name s
    (∃ read, listing.Locates ((ofString s default).passedMark acts) read l.input.rest
      l.input.here) ∧
    ∀ act, ∀ r ∈ l.results act, ∀ p ∈ places r, ∃ read rest,
      listing.Locates ((ofString s default).passedMark (acts ++ [act])) read rest p := by
  intro l listing
  obtain ⟨read, hs⟩ := session_stands s default acts
  refine ⟨⟨_, hs.located h⟩, fun act r hr p hp => ?_⟩
  obtain ⟨hopens, hrun⟩ := mem_run_of_mem_results hr
  -- The place is one at which the input itself stands, once it has been opened by the action.
  obtain ⟨n, rfl⟩ := place_of_mem_run hrun hp
  have hpassed : (ofString s default).passedMark (acts ++ [act]) =
      (l.input.passesMark || (ofString s default).passedMark acts) := by
    rw [passedMark_append, passedMark, passedMark, hopens, Bool.true_and, Bool.or_false,
      Bool.or_comm]
  have hmark : (if l.input.passesMark = true then [byteOrderMark]
        else if (ofString s default).passedMark acts = true then [byteOrderMark] else []) =
      if (ofString s default).passedMark (acts ++ [act]) = true then [byteOrderMark] else [] := by
    rw [hpassed]
    cases l.input.passesMark <;> rfl
  have hnext := hs.opening.advance n
  rw [hmark] at hnext
  exact ⟨_, _, hnext.located h⟩

/-- A mark that is passed over fills no column, and one that is consumed does. -/
theorem Lexer.session_located_marked :
    (∃ read, (Listing.mk "" "\ufeffé\n x").Locates true read [' ', 'x'] ⟨6, 2, 1⟩) ∧
    ∃ read rest, (Listing.mk "" "\ufeffx").Locates false read rest ⟨3, 1, 2⟩ := by
  constructor
  · obtain ⟨read, h⟩ := (session_located "" "\ufeffé\n x" (by decide) [.next, .step]).1
    exact ⟨read, h⟩
  · exact (session_located "" "\ufeffx" (by decide) [.step]).2 .next _ (List.mem_singleton_self _)
      ⟨3, 1, 2⟩ (by decide +kernel)

end PLZero
