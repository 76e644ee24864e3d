import PLZero.Proofs.Caret
import PLZero.Proofs.Cursor

/-! The table of a listing cuts its text into lines. An entry is a place behind a line feed, so from
an entry up to the next one there stands a line with the line feed that ends it, and behind the last
entry the line that none ends.

* `Text.lines_induction` goes through a text line by line.
* `Text.mem_lineStartsAfter_iff` says which offsets are entries; `Text.newline_byte_iff` finds them
  among the bytes of a text.
* `Text.exists_pieces` are the pieces between the entries.
* `Listing.lineAt?_succ` says what is shown of a line, for every number.
* `Listing.lineStarts_cut_text` puts this together. -/
namespace PLZero
set_option autoImplicit false

open Text (bytes slice? trimLineEnd lineStartsAfter)

namespace Text

/-! ## Texts line by line -/

theorem lines_induction {P : List Char → Prop} (last : ∀ line, '\n' ∉ line → P line)
    (more : ∀ line cs, '\n' ∉ line → P cs → P (line ++ '\n' :: cs)) (cs : List Char) : P cs := by
  by_cases h : '\n' ∈ cs
  · obtain ⟨line, rest, hcut, hline⟩ := List.eq_append_cons_of_mem h
    have hlt : rest.length < cs.length := by
      rw [hcut, List.length_append, List.length_cons]
      omega
    rw [hcut]
    exact more line rest hline (lines_induction last more rest)
  · exact last cs h
termination_by cs.length

section
variable {line : List Char}

theorem lineStartsAfter_of_line (h : '\n' ∉ line) (n : Nat) : lineStartsAfter n line = [] := by
  rw [← List.length_eq_zero_iff, length_lineStartsAfter]
  exact List.count_eq_zero_of_not_mem h

theorem lineStartsAfter_line_append (h : '\n' ∉ line) (n : Nat) (cs : List Char) :
    lineStartsAfter n (line ++ '\n' :: cs) =
      (n + bytes line + 1) :: lineStartsAfter (n + bytes line + 1) cs := by
  rw [lineStartsAfter_append, lineStartsAfter_of_line h, List.nil_append, lineStartsAfter,
    if_pos rfl]
  rfl

theorem trimLineEnd_of_line (h : '\n' ∉ line) :
    trimLineEnd line = line.rdropWhile (· == '\r') := by
  induction line using List.reverseRecOn with
  | nil => rfl
  | append_singleton line c ih =>
    rw [List.mem_append, List.mem_singleton, not_or] at h
    by_cases hc : c = '\r'
    · have htrim : trimLineEnd (line ++ [c]) = trimLineEnd line :=
        List.rdropWhile_concat_pos _ _ _ (by simp [hc])
      rw [htrim, ih h.1, List.rdropWhile_concat_pos _ _ _ (by simp [hc])]
    · have htrim := trimLineEnd_append (Ne.symm h.2) hc line []
      rw [htrim, List.rdropWhile_concat_neg _ _ _ (by simp [hc])]
      rfl

end

theorem length_splitOn_newline (cs : List Char) :
    (cs.splitOn '\n').length = cs.count '\n' + 1 := by
  induction cs using lines_induction with
  | last line h => rw [List.splitOn_eq_singleton h, List.count_eq_zero_of_not_mem h]; rfl
  | more line cs h ih =>
    rw [List.splitOn_append_cons_self_of_not_mem h, List.length_cons, ih, List.count_append,
      List.count_cons_self, List.count_eq_zero_of_not_mem h, Nat.zero_add]

theorem newline_not_mem_of_mem_splitOn {cs line : List Char} (h : line ∈ cs.splitOn '\n') :
    '\n' ∉ line := by
  induction cs using lines_induction with
  | last piece hpiece =>
    rw [List.splitOn_eq_singleton hpiece, List.mem_singleton] at h
    exact h ▸ hpiece
  | more piece cs hpiece ih =>
    rw [List.splitOn_append_cons_self_of_not_mem hpiece] at h
    rcases List.mem_cons.1 h with rfl | h
    · exact hpiece
    · exact ih h

/-! ## The entries -/

theorem mem_lineStartsAfter_iff {m n : Nat} {cs : List Char} :
    m ∈ lineStartsAfter n cs ↔
      ∃ before after, cs = before ++ '\n' :: after ∧ m = n + bytes before + 1 := by
  constructor
  · intro h
    induction cs generalizing n with
    | nil => cases h
    | cons c cs ih =>
      have hlater : m ∈ lineStartsAfter (n + c.utf8Size) cs →
          ∃ before after, c :: cs = before ++ '\n' :: after ∧ m = n + bytes before + 1 := by
        intro h
        obtain ⟨before, after, rfl, rfl⟩ := ih h
        exact ⟨c :: before, after, rfl, by rw [bytes_cons]; omega⟩
      rw [lineStartsAfter] at h
      split at h
      · next hc =>
        rcases List.mem_cons.1 h with rfl | h
        · exact ⟨[], cs, by rw [hc]; rfl, by rw [hc]; rfl⟩
        · exact hlater h
      · exact hlater h
  · rintro ⟨before, after, rfl, rfl⟩
    rw [lineStartsAfter_append, lineStartsAfter, if_pos rfl]
    exact List.mem_append_right _ (List.mem_cons_self ..)

theorem pairwise_lineStartsAfter (n : Nat) (cs : List Char) :
    (n :: lineStartsAfter n cs).Pairwise (· < ·) := by
  induction cs using lines_induction generalizing n with
  | last line h =>
    rw [lineStartsAfter_of_line h]
    exact List.pairwise_singleton _ _
  | more line cs h ih =>
    refine List.pairwise_cons.2 ⟨fun m hm => lt_of_mem_lineStartsAfter hm, ?_⟩
    rw [lineStartsAfter_line_append h]
    exact ih _

/-- Only the line feed has its byte: the bytes of any other character are none of ASCII, or it is
another character of ASCII. -/
theorem newline_byte_iff {s : String} {i : Nat} :
    s.toByteArray.data[i]? = some 10 ↔
      ∃ before after, s.toList = before ++ '\n' :: after ∧ i = bytes before := by
  constructor
  · intro h
    obtain ⟨hi, hbyte⟩ := Array.getElem?_eq_some_iff.1 h
    have hvalid : (String.Pos.Raw.mk i).IsValid s := by
      refine String.Pos.Raw.isValid_iff_isUTF8FirstByte.2 (.inr ⟨hi, ?_⟩)
      change (s.toByteArray.data[i]).IsUTF8FirstByte
      rw [hbyte]
      decide
    obtain ⟨before, rest, hcut, rfl⟩ := isValid_iff.1 hvalid
    cases rest with
    | nil =>
      have hsize : s.toByteArray.data.size = bytes before := by
        rw [← size_utf8Encode, ← List.append_nil before, ← hcut, String.utf8Encode_toList]
        rfl
      omega
    | cons c after =>
      obtain ⟨w, ws, hencode, hdecode⟩ := firstByte c
      rw [getElem?_bytes hcut, hencode] at h
      obtain rfl : w = 10 := Option.some.inj h
      exact ⟨before, after, by rw [hcut, ← hdecode (by decide)]; rfl, rfl⟩
  · rintro ⟨before, after, hcut, rfl⟩
    rw [getElem?_bytes hcut]
    decide

/-! ## The pieces -/

/-- What `f` makes of an entry and the next one, where `e` comes behind the last entry. -/
theorem getElem?_zipWith_next {α β : Type} (f : α → α → β) (a : α) (as : List α) (e : α) (k : Nat) :
    (List.zipWith f (a :: as) (as ++ [e]))[k]? =
      (a :: as)[k]?.map fun i => f i ((a :: as)[k + 1]?.getD e) := by
  induction as generalizing a k with
  | nil => cases k <;> rfl
  | cons b as ih =>
    cases k with
    | zero => rfl
    | succ k => exact ih b k

/-- Behind `before`, the pieces between the entries are the lines, with the line feeds that end
them. -/
theorem exists_pieces {text : List Char} (cs : List Char) {before : List Char}
    (h : text = before ++ cs) :
    ∃ pieces : List (List Char),
      List.zipWith (slice? text) (bytes before :: lineStartsAfter (bytes before) cs)
        (lineStartsAfter (bytes before) cs ++ [bytes text]) = pieces.map some ∧
      pieces.flatten = cs ∧
      pieces.map trimLineEnd = (cs.splitOn '\n').map (List.rdropWhile (· == '\r')) := by
  induction cs using lines_induction generalizing before with
  | last line hline =>
    have hslice := slice?_append before line []
    rw [List.append_nil, ← h, ← bytes_append, ← h] at hslice
    refine ⟨[line], ?_, List.flatten_singleton, ?_⟩
    · rw [lineStartsAfter_of_line hline, List.nil_append, List.zipWith_cons_cons, hslice]
      rfl
    · rw [List.splitOn_eq_singleton hline, List.map_singleton, trimLineEnd_of_line hline]
      rfl
  | more line cs hline ih =>
    have hcut : text = before ++ (line ++ ['\n']) ++ cs := by simp [h]
    have hnewline : bytes ['\n'] = 1 := by decide
    have hend : bytes (before ++ (line ++ ['\n'])) = bytes before + bytes line + 1 := by
      rw [bytes_append, bytes_append, hnewline, Nat.add_assoc]
    have hslice := slice?_append before (line ++ ['\n']) cs
    rw [← List.append_assoc, ← hcut, ← bytes_append, hend] at hslice
    obtain ⟨pieces, hpieces, hflat, htrim⟩ := ih hcut
    rw [hend] at hpieces
    refine ⟨(line ++ ['\n']) :: pieces, ?_, ?_, ?_⟩
    · rw [lineStartsAfter_line_append hline, List.cons_append, List.zipWith_cons_cons, hslice,
        hpieces]
      rfl
    · rw [List.flatten_cons, hflat, List.append_assoc]
      rfl
    · rw [List.map_cons, htrim, trimLineEnd_newline, trimLineEnd_of_line hline,
        List.splitOn_append_cons_self_of_not_mem hline, List.map_cons]

end Text

/-! ## Listings -/

namespace Listing

/-- The pieces from one entry to the next, and from the last one to the end of the text. -/
def pieces? (l : Listing) : List (Option String) :=
  List.zipWith (Text.between? l.content) l.lineStarts
    (l.lineStarts.tail ++ [l.content.utf8ByteSize])

theorem exists_pieces (l : Listing) :
    ∃ pieces : List (List Char), l.pieces? = (pieces.map String.ofList).map some ∧
      pieces.flatten = l.content.toList ∧
      pieces.map trimLineEnd =
        (l.content.toList.splitOn '\n').map (List.rdropWhile (· == '\r')) := by
  obtain ⟨pieces, hpieces, hflat, htrim⟩ :=
    Text.exists_pieces l.content.toList (List.nil_append l.content.toList).symm
  refine ⟨pieces, ?_, hflat, htrim⟩
  have hbetween : Text.between? l.content =
      fun i j => (slice? l.content.toList i j).map String.ofList := by
    funext i j
    exact Text.between?_eq l.content i j
  have hzip : l.pieces? = (List.zipWith (slice? l.content.toList)
      (0 :: lineStartsAfter 0 l.content.toList)
      (lineStartsAfter 0 l.content.toList ++ [bytes l.content.toList])).map
        (Option.map String.ofList) := by
    rw [pieces?, hbetween, List.map_zipWith, Text.utf8ByteSize_eq_bytes]
    rfl
  rw [hzip, show 0 = bytes [] from rfl, hpieces, List.map_map, List.map_map]
  rfl

/-- A line is the piece at its place, trimmed. -/
theorem lineAt?_eq_piece (l : Listing) (k : Nat) :
    l.lineAt? (k + 1) = l.pieces?[k]?.bind
      (Option.map fun s => String.ofList (trimLineEnd s.toList)) := by
  have hpiece : l.pieces?[k]? = l.lineStarts[k]?.map fun i =>
      Text.between? l.content i (l.lineStarts[k + 1]?.getD l.content.utf8ByteSize) :=
    Text.getElem?_zipWith_next _ _ _ _ k
  rw [hpiece, lineAt?]
  cases l.lineStarts[k]? with
  | none => rfl
  | some i =>
    dsimp only
    rw [Option.map_some, Option.bind_some, Text.between?_eq, Option.map_map]
    congr 1
    funext cs
    rw [Function.comp_apply, String.toList_ofList]

theorem lineAt?_succ (l : Listing) (k : Nat) :
    l.lineAt? (k + 1) = (l.content.toList.splitOn '\n')[k]?.map fun line =>
      String.ofList (line.rdropWhile (· == '\r')) := by
  obtain ⟨pieces, hpieces, -, htrim⟩ := l.exists_pieces
  have hline := congrArg (fun lines => (lines[k]?).map String.ofList) htrim
  simp only [List.getElem?_map, Option.map_map] at hline
  rw [lineAt?_eq_piece, hpieces, List.getElem?_map, List.getElem?_map]
  refine Eq.trans ?_ hline
  cases pieces[k]? with
  | none => rfl
  | some piece =>
    simp only [Option.map_some, Option.bind_some, String.toList_ofList, Function.comp_apply]

theorem lineCount_eq (l : Listing) : l.lineCount = l.content.toList.count '\n' + 1 := by
  rw [lineCount, lineStarts, List.length_cons, Text.length_lineStartsAfter]

theorem isSome_lineAt?_iff {l : Listing} {k : Nat} :
    (l.lineAt? k).isSome ↔ 1 ≤ k ∧ k ≤ l.lineCount := by
  cases k with
  | zero => simp [lineAt?]
  | succ k =>
    rw [lineAt?_succ, Option.isSome_map, isSome_getElem?, Text.length_splitOn_newline,
      lineCount_eq]
    omega

theorem mem_lineStarts_iff {l : Listing} {i : Nat} :
    i ∈ l.lineStarts ↔ i = 0 ∨
      ∃ before after, l.content.toList = before ++ '\n' :: after ∧ i = bytes before + 1 := by
  rw [lineStarts, List.mem_cons, Text.mem_lineStartsAfter_iff]
  simp only [Nat.zero_add]

theorem isValid_of_mem_lineStarts {l : Listing} {i : Nat} (h : i ∈ l.lineStarts) :
    (String.Pos.Raw.mk i).IsValid l.content := by
  rcases mem_lineStarts_iff.1 h with rfl | ⟨before, after, hcut, rfl⟩
  · exact Text.isValid_iff.2 ⟨[], _, rfl, rfl⟩
  · refine Text.isValid_iff.2 ⟨before ++ ['\n'], after, ?_, ?_⟩
    · rw [hcut, List.append_assoc]
      rfl
    · rw [Text.bytes_append]
      rfl

/-- **The table of lines cuts the text.** Its entries increase from 0; each of them falls between
two characters, and all but the first are the places behind the bytes of line feeds. The pieces
between the entries exist, and one after the other they are the text. So there is one line more than
there are line feeds; a number from one up to that many has a line, which is shown as the text
between two line feeds without the carriage returns at its end, and no other number has one. -/
theorem lineStarts_cut_text (l : Listing) :
    l.lineStarts.Pairwise (· < ·) ∧ l.lineStarts.head? = some 0 ∧
    (∀ i ∈ l.lineStarts, i ≤ l.content.utf8ByteSize ∧ (String.Pos.Raw.mk i).IsValid l.content) ∧
    (∀ i, 0 < i → (i ∈ l.lineStarts ↔ l.content.toByteArray.data[i - 1]? = some 10)) ∧
    (∃ pieces : List String, l.pieces? = pieces.map some ∧ String.join pieces = l.content) ∧
    l.lineCount = l.content.toList.count '\n' + 1 ∧
    (∀ k, (l.lineAt? k).isSome ↔ 1 ≤ k ∧ k ≤ l.lineCount) ∧
    ∀ k, l.lineAt? (k + 1) = (l.content.toList.splitOn '\n')[k]?.map fun line =>
      String.ofList (line.rdropWhile (· == '\r')) := by
  refine ⟨Text.pairwise_lineStartsAfter 0 _, rfl, fun i hi => ?_, fun i hi => ?_, ?_,
    l.lineCount_eq, fun k => isSome_lineAt?_iff, l.lineAt?_succ⟩
  · have hvalid := isValid_of_mem_lineStarts hi
    exact ⟨hvalid.le_rawEndPos, hvalid⟩
  · rw [mem_lineStarts_iff, Text.newline_byte_iff]
    constructor
    · rintro (rfl | ⟨before, after, hcut, rfl⟩)
      · exact absurd hi (Nat.lt_irrefl 0)
      · exact ⟨before, after, hcut, Nat.add_sub_cancel ..⟩
    · rintro ⟨before, after, hcut, hb⟩
      exact .inr ⟨before, after, hcut, by omega⟩
  · obtain ⟨pieces, hpieces, hflat, -⟩ := l.exists_pieces
    refine ⟨pieces.map String.ofList, hpieces, ?_⟩
    rw [← String.toList_inj, String.toList_join, ← hflat, List.flatMap_map]
    simp [List.flatMap_def]

example : Listing.lineStarts ⟨"a.pl0", "é\r\r\n\nx"⟩ = [0, 5, 6] := by decide

end Listing

end PLZero
