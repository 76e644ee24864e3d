import PLZero.Proofs.LinePieces
import PLZero.Proofs.QuotedForms

/-! How any extent is shown, also one that no token has: it may be reversed, cut characters, go
beyond the end of the text or claim a line or a column that is not there. Only the line decides
whether there is something to show, and the two rows are aligned in every case.

* `Extent.Counts` says how many carets there are below a line.
* `Listing.newline_not_mem_lineAt?` and `Listing.length_alignRight_gutter`: a row is one line, and
  has its rule where the other row has it.
* `Listing.underlined_total` puts this together, for extents and for reports. -/
namespace PLZero
set_option autoImplicit false

open Text (slice? row alignRight)

/-! ## Carets -/

/-- The extent `e` has `n` carets in the text `s`: one for each character of the piece that its
bytes are, and one if they are no piece, or an empty one. -/
structure Extent.Counts (e : Extent) (s : String) (n : Nat) : Prop where
  piece : ∀ (hi : (String.Pos.Raw.mk e.start).IsValid s) (hj : (String.Pos.Raw.mk e.stop).IsValid s)
    (hlt : e.start < e.stop), n = (s.slice ⟨_, hi⟩ ⟨_, hj⟩ (Nat.le_of_lt hlt)).copy.length
  single : ¬((String.Pos.Raw.mk e.start).IsValid s ∧ (String.Pos.Raw.mk e.stop).IsValid s ∧
    e.start < e.stop) → n = 1

theorem Text.length_of_between? {s piece : String} {i j : Nat}
    (h : Text.between? s i j = some piece) : i ≤ j ∧ (piece.length = 0 ↔ i = j) := by
  rw [Text.between?_eq, Option.map_eq_some_iff] at h
  obtain ⟨cs, hcs, rfl⟩ := h
  obtain ⟨-, -, -, -, rfl⟩ := Text.slice?_eq_some_iff.1 hcs
  have hzero : Text.bytes cs = 0 ↔ cs = [] := Text.bytes_eq_zero_iff
  rw [String.length_ofList, List.length_eq_zero_iff, ← hzero]
  omega

theorem Listing.caretCount_eq (l : Listing) (e : Extent) :
    l.caretCount e =
      max 1 (((Text.between? l.content e.start e.stop).map String.length).getD 0) := by
  rw [Listing.caretCount, Text.between?_eq, Option.map_map]
  cases slice? l.content.toList e.start e.stop with
  | none => rfl
  | some cs => simp

theorem Listing.counts_caretCount (l : Listing) (e : Extent) :
    e.Counts l.content (l.caretCount e) where
  piece hi hj hlt := by
    have hpiece : Text.between? l.content e.start e.stop = some _ :=
      dif_pos ⟨hi, hj, Nat.le_of_lt hlt⟩
    have hlength := (Text.length_of_between? hpiece).2
    rw [l.caretCount_eq, hpiece, Option.map_some, Option.getD_some]
    omega
  single h := by
    rw [l.caretCount_eq]
    by_cases hv : (String.Pos.Raw.mk e.start).IsValid l.content ∧
        (String.Pos.Raw.mk e.stop).IsValid l.content ∧ e.start ≤ e.stop
    · have hpiece : Text.between? l.content e.start e.stop = some _ := dif_pos hv
      have hlength := (Text.length_of_between? hpiece).2
      have heq : e.start = e.stop :=
        (Nat.lt_or_eq_of_le hv.2.2).resolve_left fun hlt => h ⟨hv.1, hv.2.1, hlt⟩
      rw [hpiece, Option.map_some, Option.getD_some]
      omega
    · have hpiece : Text.between? l.content e.start e.stop = none := dif_neg hv
      rw [hpiece]
      rfl

namespace Listing
variable {l : Listing} {e : Extent} {line shown : String}

/-! ## Rows -/

theorem newline_not_mem_lineAt? {k : Nat} (h : l.lineAt? k = some line) : '\n' ∉ line.toList := by
  cases k with
  | zero => cases h
  | succ k =>
    rw [lineAt?_succ, Option.map_eq_some_iff] at h
    obtain ⟨piece, hpiece, rfl⟩ := h
    have hline := Text.newline_not_mem_of_mem_splitOn (List.mem_of_getElem? hpiece)
    rw [String.toList_ofList]
    exact fun hmem => hline ((List.rdropWhile_prefix _ _).mem hmem)

theorem newline_not_mem_alignRight (w n : Nat) : '\n' ∉ (alignRight w n.repr).toList := by
  rw [alignRight, row, String.toList_append, String.toList_ofList, List.mem_append]
  rintro (h | h)
  · exact absurd (List.eq_of_mem_replicate h) (by decide)
  · exact absurd (Text.isDigit_of_mem_repr h) (by decide)

theorem length_alignRight_gutter {n : Nat} (h : n ≤ l.lineCount) :
    (alignRight l.gutter n.repr).length = l.gutter := by
  have hfits := length_repr_le_gutter h
  rw [Text.length_alignRight]
  omega

theorem newline_not_mem_source {k : Nat} (h : l.lineAt? k = some line) (w : Nat) :
    '\n' ∉ (alignRight w k.repr ++ " | " ++ line).toList := by
  have hnumber := newline_not_mem_alignRight w k
  have hline := newline_not_mem_lineAt? h
  have hmargin : '\n' ∉ " | ".toList := by decide
  rw [String.toList_append, String.toList_append, List.mem_append, List.mem_append]
  rintro ((h | h) | h)
  · exact hnumber h
  · exact hmargin h
  · exact hline h

/-- **Every extent on a line of the listing is shown, in aligned rows.** An extent is shown exactly
if the listing has its line, whatever its other numbers are. Below its location there stand two
rows. The number of the line fills the gutter of the first one, and behind a rule comes the line,
which has no line feed in it; the gutter of the second one is as wide and blank, and behind the rule
come as many blanks as there are columns before the extent, and then its carets. A report is its
headline with this below, or with the bare location if the listing has no such line. -/
theorem underlined_total (l : Listing) (e : Extent) :
    let width := max 3 l.lineCount.repr.length
    ((l.underlined? e).isSome ↔ 1 ≤ e.line.toNat ∧ e.line.toNat ≤ l.lineCount) ∧
    (∀ shown, l.underlined? e = some shown → ∃ number line n,
      shown = "\n".intercalate [
        "--> " ++ l.name ++ ":" ++ e.line.toNat.repr ++ ":" ++ e.column.toNat.repr,
        number ++ " | " ++ line,
        row width ' ' ++ " | " ++ row (e.column.toNat - 1) ' ' ++ row n '^'] ∧
      number = row (width - e.line.toNat.repr.length) ' ' ++ e.line.toNat.repr ∧
      number.length = width ∧ l.lineAt? e.line.toNat = some line ∧
      '\n' ∉ (number ++ " | " ++ line).toList ∧ e.Counts l.content n) ∧
    ∀ (code : Option String) (message : String),
      let r : Report := ⟨code, message, e⟩
      r.render l = r.headline ++ "\n" ++
        match l.underlined? e with
        | some shown => shown
        | none => "--> " ++ l.name ++ ":" ++ e.line.toNat.repr ++ ":" ++ e.column.toNat.repr := by
  intro width
  have hsome : (l.underlined? e).isSome = (l.lineAt? e.line.toNat).isSome := Option.isSome_map
  refine ⟨by rw [hsome, isSome_lineAt?_iff], fun shown h => ?_, fun code message => ?_⟩
  · rw [h, Option.isSome_some] at hsome
    have hfits := (isSome_lineAt?_iff.1 hsome.symm).2
    obtain ⟨line, hline⟩ := Option.isSome_iff_exists.1 hsome.symm
    have hrows := underlined?_of_lineAt? hline
    rw [h] at hrows
    exact ⟨alignRight width e.line.toNat.repr, line, l.caretCount e, Option.some.inj hrows, rfl,
      length_alignRight_gutter hfits, hline, newline_not_mem_source hline width,
      l.counts_caretCount e⟩
  · intro r
    rw [Report.render]
    cases l.underlined? e <;> rfl

/-- A reversed extent in column 0, on a line whose number is narrower than the gutter. -/
example : Listing.underlined? ⟨"a.pl0", "é\r\n"⟩ ⟨7, 1, 1, 0⟩ =
    some "--> a.pl0:1:0\n  1 | é\n    | ^" := by decide +kernel

end Listing

end PLZero
