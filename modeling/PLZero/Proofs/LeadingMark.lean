import PLZero.Proofs.Dumps

/-! A byte order mark at the start of a text. It is no part of the text: a run behind it gives what
the run without it gives, three bytes further on, and a dump does not tell whether it was there.

* `Text.markOf_mark_append`, `Text.body_mark_append`: the parts of a text with a mark put before it.
* `Lexer.mark_invisible`: the runs, and the dumps, with a mark and without. -/
namespace PLZero
set_option autoImplicit false

open Lexer (withoutOffsets)

namespace Text

theorem toList_mark_append (s : String) : ("\ufeff" ++ s).toList = byteOrderMark :: s.toList := by
  rw [String.toList_append]
  rfl

theorem markOf_mark_append (s : String) : markOf ("\ufeff" ++ s) = [byteOrderMark] := by
  rw [markOf, toList_mark_append]
  rfl

theorem body_mark_append (s : String) : body ("\ufeff" ++ s) = s.toList := by
  rw [body, markOf_mark_append, toList_mark_append]
  rfl

end Text

namespace Lexer

theorem run_mark_append (a : Alphabet) {s : String} (hs : s.toList.head? ≠ some byteOrderMark) :
    (ofString ("\ufeff" ++ s) a).run = (ofString s a).run.map (moved 3 0) := by
  have hbehind : Position.behind [byteOrderMark] = (Position.behind []).moved 3 0 := rfl
  rw [run_ofString, run_ofString, Text.markOf_mark_append, Text.body_mark_append,
    Text.markOf_eq_nil hs, Text.body_eq_toList hs, hbehind, runAt_moved]

end Lexer

/-- **A mark at the start is invisible.** With a byte order mark before a text that has none, the
run gives the same results, with three bytes added to their offsets; a dump gives the same text, or
fails for the same cause at the same line and column. -/
theorem Lexer.mark_invisible (s : String) (hs : s.toList.head? ≠ some byteOrderMark) :
    (∀ a, (ofString ("\ufeff" ++ s) a).run = (ofString s a).run.map (moved 3 0)) ∧
    ∀ (name : String) (settings : Settings),
      Listing.Alike ((Listing.mk name ("\ufeff" ++ s)).dump settings)
        ((Listing.mk name s).dump settings) := by
  refine ⟨fun a => run_mark_append a hs, fun name settings => Listing.dump_alike ?_⟩
  have hmap : ∀ rs : List Pulled,
      (rs.map (moved 3 0)).map withoutOffsets = rs.map withoutOffsets := by
    intro rs
    rw [List.map_map]
    exact List.map_congr_left fun r _ => withoutOffsets_moved 3 r
  show (ofString ("\ufeff" ++ s) settings.alphabet).run.map withoutOffsets = _
  rw [run_mark_append _ hs, hmap]

/-- A mark before a text that has a second one in it, and a fault on its second line. -/
theorem Lexer.mark_invisible_before_fault :
    "é\n#\ufeff".toList.head? ≠ some byteOrderMark ∧
    (ofString ("\ufeff" ++ "é\n#\ufeff") .unicode).run =
      [.ok ⟨.identifier, .text "é", ⟨3, 1, 1⟩, ⟨5, 1, 2⟩⟩, .error ⟨.invalidInput, ⟨6, 2, 1⟩⟩,
        .error ⟨.invalidInput, ⟨7, 2, 2⟩⟩, .ok (.endAt ⟨10, 2, 3⟩)] ∧
    Listing.Alike ((Listing.mk "a.pl0" ("\ufeff" ++ "é\n#\ufeff")).dump default)
      ((Listing.mk "a.pl0" "é\n#\ufeff").dump default) := by
  have hs : "é\n#\ufeff".toList.head? ≠ some byteOrderMark := by decide
  obtain ⟨hrun, hdump⟩ := mark_invisible "é\n#\ufeff" hs
  refine ⟨hs, ?_, hdump "a.pl0" default⟩
  rw [hrun]
  decide +kernel

/-- A second mark is no mark but a fault. -/
example : (Lexer.ofString ("\ufeff" ++ "\ufeff") .ascii).run ≠
    (Lexer.ofString "\ufeff" .ascii).run.map (Lexer.moved 3 0) := by decide +kernel

end PLZero
