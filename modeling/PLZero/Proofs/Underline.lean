import PLZero.Proofs.Caret
import PLZero.Proofs.PositionOrder

/-! What the carets below a token underline. The number of carets comes from the bytes of the token,
the blanks before them from its column, and the line above from the table of lines. All three speak
of the same characters.

* `Listing.Shows` says that a line of the listing shows a piece of its text from a place on.
* `Listing.exists_shows`: trimming and a byte order mark take nothing of a piece without blanks.
* `Listing.caretCount_extent`: a token has one caret for each character of its lexeme.
* `Listing.underlined_covers_lexeme` puts this together for the tokens of a run. -/
namespace PLZero
set_option autoImplicit false

open Text (row alignRight lastLine trimLineEnd markOf body)

/-! ## Pieces of a line -/

namespace Text
variable {piece : List Char}

theorem takeWhile_line_append (h : ∀ c ∈ piece, isBlank c = false) (after : List Char) :
    (piece ++ after).takeWhile (· != '\n') = piece ++ after.takeWhile (· != '\n') := by
  refine List.takeWhile_append_of_pos fun c hc => ?_
  have hn : c ≠ '\n' := ne_of_isBlank (h c hc) (by decide)
  exact bne_iff_ne.2 hn

/-- Trimming the end of a line takes nothing of a piece without blanks, nor of what is before it. -/
theorem trimLineEnd_append_append (hne : piece ≠ []) (h : ∀ c ∈ piece, isBlank c = false)
    (before after : List Char) :
    trimLineEnd (before ++ (piece ++ after)) = before ++ (piece ++ trimLineEnd after) := by
  obtain ⟨init, c, rfl⟩ := (List.eq_nil_or_concat piece).resolve_left hne
  have hc : isBlank c = false := h c (by simp)
  have hn : c ≠ '\n' := ne_of_isBlank hc (by decide)
  have hr : c ≠ '\r' := ne_of_isBlank hc (by decide)
  have htrim := trimLineEnd_append hn hr (before ++ init) after
  simpa using htrim

end Text

namespace Listing
variable {l : Listing} {t : Token} {p : Position} {line : String} {before piece rest : List Char}

/-- The line `line` of the listing is that of the place `p`, and in the columns from `p` on it shows
`piece`. -/
structure Shows (l : Listing) (p : Position) (line : String) (piece : List Char) : Prop where
  lineAt : l.lineAt? p.line.toNat = some line
  number : p.line.toNat ≤ l.lineCount
  column : 1 ≤ p.column.toNat
  above : piece <+: (columns p.line.toNat line).drop (p.column.toNat - 1)

theorem exists_shows (hl : l.content.length ≤ UInt32.size - 2)
    (hbody : body l.content = before ++ (piece ++ rest)) (hne : piece ≠ [])
    (hblank : ∀ c ∈ piece, isBlank c = false)
    (hp : p = (Position.behind (markOf l.content)).advanceBy before) :
    ∃ line, l.Shows p line piece := by
  have hloc := l.locates_of_body hl hbody
  rw [← hp] at hloc
  have hcolumn : p.column.toNat = 1 + (lastLine before).length := by
    have hlen := Text.length_body_lt hl
    rw [hbody, List.length_append] at hlen
    rw [hp]
    exact Position.toNat_column_advanceBy rfl (by omega)
  have hline := lineAt?_of_cut hloc.cut
  rw [Text.takeWhile_line_append hblank, Text.trimLineEnd_append_append hne hblank, Nat.add_comm,
    ← hloc.line] at hline
  generalize trimLineEnd (rest.takeWhile (· != '\n')) = more at hline
  have hhead : (piece ++ more).head? = (piece ++ rest).head? := by
    rw [List.head?_append_of_ne_nil _ hne, List.head?_append_of_ne_nil _ hne]
  have hcolumns := columns_of_cut hloc.cut hhead
  rw [← hloc.line] at hcolumns
  refine ⟨_, hline, hloc.lineCount.2, by omega, ?_⟩
  rw [hcolumns, hcolumn, Nat.add_sub_cancel_left, List.drop_left]
  exact List.prefix_append piece more

namespace Shows

theorem length_le (h : l.Shows p line piece) (hne : piece ≠ []) :
    p.column.toNat - 1 + piece.length ≤ (columns p.line.toNat line).length := by
  have hle := h.above.length_le
  have hpos := List.length_pos_iff.2 hne
  rw [List.length_drop] at hle
  omega

theorem drop_take_columns (h : l.Shows p line piece) :
    ((columns p.line.toNat line).take (p.column.toNat - 1 + piece.length)).drop
      (p.column.toNat - 1) = piece := by
  rw [List.drop_take, Nat.add_sub_cancel_left]
  exact (List.prefix_iff_eq_take.1 h.above).symm

end Shows

/-- A token that is not empty has one caret for each character of its lexeme. -/
theorem caretCount_extent (h : t.lexeme? l.content = some piece) (hne : piece ≠ []) :
    l.caretCount t.extent = piece.length := by
  have hslice : Text.slice? l.content.toList t.extent.start t.extent.stop = some piece := h
  have hpos := List.length_pos_iff.2 hne
  rw [caretCount, hslice, Option.getD_some]
  omega

/-! ## Tokens -/

/-- **Carets underline exactly the lexeme.** Every token of a run but the last is shown in three
lines: its place, the line of its place behind its number, and a row of carets. There is one caret
for each character of the lexeme, and what stands above the carets, from the column where the token
starts up to the one where it stops, is the lexeme. The carets never run past the end of the
line. -/
theorem underlined_covers_lexeme (l : Listing) (hl : l.content.length ≤ UInt32.size - 2)
    (a : Alphabet) (t : Token) (ht : .ok t ∈ (Lexer.ofString l.content a).run)
    (he : t.isEnd = false) :
    let number := t.start.line.toNat
    let column := t.start.column.toNat
    let next := t.stop.column.toNat
    let width := max 3 l.lineCount.repr.length
    ∃ line lexeme,
      l.lineAt? number = some line ∧ t.lexeme? l.content = some lexeme ∧
      l.underlined? t.extent = some ("\n".intercalate [
        "--> " ++ l.name ++ ":" ++ number.repr ++ ":" ++ column.repr,
        alignRight width number.repr ++ " | " ++ line,
        row width ' ' ++ " | " ++ row (column - 1) ' ' ++ row lexeme.length '^']) ∧
      number.repr.length ≤ width ∧ 1 ≤ column ∧ next = column + lexeme.length ∧
      next - 1 ≤ (columns number line).length ∧
      ((columns number line).take (next - 1)).drop (column - 1) = lexeme := by
  intro number column next width
  obtain ⟨before, lexeme, rest, hcut, hcovers⟩ := Lexer.exists_covers ht
  have hlexeme := Lexer.lexeme?_of_covers hcut hcovers
  have hne : lexeme ≠ [] := by
    intro hnil
    rw [hcovers.isEnd_iff.2 hnil] at he
    cases he
  have hnext : next = column + lexeme.length := Lexer.stop_column_of_covers hl hcut hcovers
  rw [List.append_assoc] at hcut
  obtain ⟨line, hshows⟩ := exists_shows hl hcut hne hcovers.noBlank hcovers.start
  have hcolumn : 1 ≤ column := hshows.column
  have hsum : next - 1 = column - 1 + lexeme.length := by omega
  have hunder := underlined?_of_lineAt? (e := t.extent) hshows.lineAt
  rw [caretCount_extent hlexeme hne] at hunder
  rw [hsum]
  exact ⟨line, lexeme, hshows.lineAt, hlexeme, hunder, length_repr_le_gutter hshows.number, hcolumn,
    hnext, hshows.length_le hne, hshows.drop_take_columns⟩

/-- Behind a mark and a carriage return, a name with letters of two bytes at the end of a line. -/
theorem underlined_covers_marked_name :
    let l : Listing := ⟨"a.pl0", "\ufeff\rx été\r\n"⟩
    let t : Token := ⟨.identifier, .text "été", ⟨6, 1, 4⟩, ⟨11, 1, 7⟩⟩
    .ok t ∈ (Lexer.ofString l.content .unicode).run ∧ t.isEnd = false ∧
      ∃ line lexeme, l.lineAt? 1 = some line ∧ t.lexeme? l.content = some lexeme ∧
        7 = 4 + lexeme.length ∧ ((columns 1 line).take 6).drop 3 = lexeme := by
  intro l t
  have ht : .ok t ∈ (Lexer.ofString l.content .unicode).run := by decide +kernel
  have he : t.isEnd = false := by decide
  obtain ⟨line, lexeme, hline, hlexeme, -, -, -, hlength, -, habove⟩ :=
    underlined_covers_lexeme l (by decide) .unicode t ht he
  exact ⟨ht, he, line, lexeme, hline, hlexeme, hlength, habove⟩

example : Listing.underlined? ⟨"a.pl0", "if\n  été\r\n"⟩ ⟨5, 10, 2, 3⟩ =
    some "--> a.pl0:2:3\n  2 |   été\n    |   ^^^" := by decide +kernel

end Listing

end PLZero
