import PLZero.Proofs.LineTable
import PLZero.Proofs.Runs

/-! Runs line by line. No lexeme goes on behind a line feed, and nothing but the position is carried
over it, so a run over two texts with a line feed between them is the run over the first, without
its end, and then the run over the second, with its places moved behind the first.

* `Lexer.runAt_append_lineFeed`: the run over characters, cut at any line feed.
* `Position.behind_lineFeed`: where the second text begins; the column is the first one again.
* `Lexer.run_line_by_line`: the same of whole texts, where a byte order mark may begin the first. -/
namespace PLZero
set_option autoImplicit false

open Text (bytes)

namespace Lexer

theorem runAt_append_lineFeed (a : Alphabet) (p : Position) (cs ds : List Char) :
    runAt a p (cs ++ '\n' :: ds) =
      (runAt a p cs).dropLast ++ runAt a (p.advanceBy (cs ++ ['\n'])) ds := by
  have hfeed : isBlank '\n' = true := by decide
  induction cs using Alphabet.text_induction (a := a) generalizing p with
  | blank gap hg =>
    have hgap : ∀ d ∈ gap ++ ['\n'], isBlank d = true :=
      List.forall_mem_append.2 ⟨hg, by simpa using hfeed⟩
    rw [runAt_of_blank hg, List.append_cons, runAt_blank_append hgap]
    rfl
  | lexeme gap c tail rest h ih =>
    -- The lexeme ends where it did, be it at the line feed or before.
    have hlead : a.Leads gap c tail (rest ++ '\n' :: ds) := by
      refine h.of_head fun d hd => ?_
      cases rest with
      | nil =>
        obtain rfl : '\n' = d := Option.some.inj hd
        exact .inr hfeed
      | cons e rest => exact .inl hd
    have hcut : gap ++ (c :: tail ++ rest) ++ '\n' :: ds =
        gap ++ (c :: tail ++ (rest ++ '\n' :: ds)) := by simp
    have hplace : ((p.advanceBy gap).advanceBy (c :: tail)).advanceBy (rest ++ ['\n']) =
        p.advanceBy (gap ++ (c :: tail ++ rest) ++ ['\n']) := by
      simp [Position.advanceBy_append]
    rw [hcut, runAt_of_leads hlead, ih, hplace, dropLast_runAt_of_leads h]
    rfl

end Lexer

/-! ## Where the second text begins -/

namespace Position

theorem behind_lineFeed (mark cs : List Char) :
    (behind mark).advanceBy (cs ++ ['\n']) =
      start.moved (bytes (mark ++ cs) + 1) (UInt32.ofNat (cs.count '\n' + 1)) := by
  have hoffset := (behind mark).advanceBy_offset (cs ++ ['\n'])
  have hline := (behind mark).line_advanceBy (cs ++ ['\n'])
  have hcolumn : ((behind mark).advanceBy (cs ++ ['\n'])).column = 1 := by
    rw [advanceBy_concat, column_advance, if_pos rfl]
  have hbytes : bytes mark + bytes (cs ++ ['\n']) = 0 + (bytes (mark ++ cs) + 1) := by
    rw [Text.bytes_append, Text.bytes_append, Nat.zero_add, Nat.add_assoc]
    rfl
  have hcount : (cs ++ ['\n']).count '\n' = cs.count '\n' + 1 := by
    rw [List.count_append]
    rfl
  rw [hcount] at hline
  generalize (behind mark).advanceBy (cs ++ ['\n']) = p at hoffset hline hcolumn ⊢
  calc p = ⟨p.offset, p.line, p.column⟩ := rfl
    _ = ⟨bytes mark + bytes (cs ++ ['\n']), 1 + UInt32.ofNat (cs.count '\n' + 1), 1⟩ := by
      rw [hoffset, hline, hcolumn]
      rfl
    _ = start.moved (bytes (mark ++ cs) + 1) (UInt32.ofNat (cs.count '\n' + 1)) := by
      rw [hbytes]
      rfl

end Position

namespace Text

theorem toList_lineFeed_append (t : String) : ("\n" ++ t).toList = '\n' :: t.toList := by
  rw [String.toList_append]
  rfl

theorem head?_lineFeed_append (t : String) : ("\n" ++ t).toList.head? ≠ some byteOrderMark := by
  rw [toList_lineFeed_append, List.head?_cons]
  decide

theorem markOf_lineFeed_append (s t : String) : markOf (s ++ "\n" ++ t) = markOf s := by
  rw [String.append_assoc, markOf_append fun _ => head?_lineFeed_append t]

theorem body_lineFeed_append (s t : String) :
    body (s ++ "\n" ++ t) = body s ++ '\n' :: t.toList := by
  rw [String.append_assoc, body_append fun _ => head?_lineFeed_append t, toList_lineFeed_append]

end Text

namespace Lexer

theorem line_of_mem_run {a : Alphabet} {s : String} {r : Pulled} (hr : r ∈ (ofString s a).run)
    {p : Position} (hp : p ∈ places r) (hs : s.length + 1 < UInt32.size) :
    p.line.toNat ≤ s.length + 1 := by
  obtain ⟨n, rfl⟩ := place_of_mem_run hr hp
  obtain ⟨read, h⟩ : ∃ read, ((ofString s a).input.opening.advance n).Stands s
    (Text.markOf s) read := ⟨_, (Input.stands_opening_ofString s).1.advance n⟩
  have hlen : read.length ≤ s.length := by
    have hcut := congrArg List.length h.cut
    rw [String.length_toList, List.length_append, List.length_append] at hcut
    omega
  have hcount := List.count_le_length (a := '\n') (l := read)
  rw [h.here, Position.toNat_line_advanceBy rfl (by omega)]
  omega

end Lexer

/-- **Runs go line by line.** The run over two texts with a line feed between them is the run over
the first, without its end, and then the run over the second, with the bytes and the lines before it
added to its places. No byte order mark may begin the second text. If the counters are large enough
for the whole text, the lines are added without wrapping around. -/
theorem Lexer.run_line_by_line (a : Alphabet) (s t : String)
    (ht : t.toList.head? ≠ some byteOrderMark) :
    let bytes := s.utf8ByteSize + 1
    let lines := s.toList.count '\n' + 1
    let r := (ofString s a).run
    (ofString (s ++ "\n" ++ t) a).run =
      r.dropLast ++ (ofString t a).run.map (moved bytes (UInt32.ofNat lines)) ∧
    (∀ x ∈ r.dropLast, isEnd x = false) ∧ (∃ p, r = r.dropLast ++ [.ok (.endAt p)]) ∧
    ((s ++ "\n" ++ t).length ≤ UInt32.size - 2 →
      ∀ x ∈ (ofString t a).run, ∀ p ∈ places x,
        (p.moved bytes (UInt32.ofNat lines)).line.toNat = p.line.toNat + lines) := by
  intro bytes lines r
  obtain ⟨hend, hno⟩ := runAt_end a (.behind (Text.markOf s)) (Text.body s)
  rw [← run_ofString] at hend hno
  refine ⟨?_, hno, ⟨_, hend⟩, ?_⟩
  · have hsize : Text.bytes (Text.markOf s ++ Text.body s) = s.utf8ByteSize := by
      rw [Text.markOf_append_body, Text.utf8ByteSize_eq_bytes]
    have hcount : (Text.body s).count '\n' = s.toList.count '\n' := by
      rw [← Text.markOf_append_body s, List.count_append,
        List.count_eq_zero_of_not_mem (Text.newline_not_mem_markOf s), Nat.zero_add]
    rw [run_ofString, run_ofString t, Text.markOf_lineFeed_append, Text.body_lineFeed_append,
      runAt_append_lineFeed, Position.behind_lineFeed, runAt_moved, hsize, hcount,
      Text.markOf_eq_nil ht, Text.body_eq_toList ht, ← run_ofString]
    rfl
  · intro hlen x hx p hp
    have hsize : UInt32.size = 4294967296 := rfl
    have hlength : (s ++ "\n" ++ t).length = s.length + 1 + t.length := by
      rw [String.length_append, String.length_append]
      rfl
    have hline := line_of_mem_run hx hp (by omega)
    have hlines : s.toList.count '\n' ≤ s.length := List.count_le_length
    rw [Position.moved, UInt32.toNat_add, UInt32.toNat_ofNat', Nat.mod_eq_of_lt (by omega),
      Nat.mod_eq_of_lt (by omega)]

/-- A mark and a fault in the first text, and a name on the second line of the second one. -/
theorem Lexer.run_line_by_line_marked :
    "\nx".toList.head? ≠ some byteOrderMark ∧
    (ofString ("\ufeff#" ++ "\n" ++ "\nx") .unicode).run =
      [.error ⟨.invalidInput, ⟨3, 1, 1⟩⟩, .ok ⟨.identifier, .text "x", ⟨6, 3, 1⟩, ⟨7, 3, 2⟩⟩,
        .ok (.endAt ⟨7, 3, 2⟩)] := by
  have ht : "\nx".toList.head? ≠ some byteOrderMark := by decide
  have hfirst : (ofString "\ufeff#" .unicode).run =
      [.error ⟨.invalidInput, ⟨3, 1, 1⟩⟩, .ok (.endAt ⟨4, 1, 2⟩)] := by decide +kernel
  have hsecond : (ofString "\nx" .unicode).run =
      [.ok ⟨.identifier, .text "x", ⟨1, 2, 1⟩, ⟨2, 2, 2⟩⟩, .ok (.endAt ⟨2, 2, 2⟩)] := by
    decide +kernel
  have hrun := (run_line_by_line .unicode "\ufeff#" "\nx" ht).1
  rw [hfirst, hsecond] at hrun
  exact ⟨ht, hrun⟩

/-- A mark that begins the second text is passed over only if nothing stands before it. -/
example : (Lexer.ofString ("" ++ "\n" ++ "\ufeff") .unicode).run ≠
    (Lexer.ofString "" .unicode).run.dropLast ++
      (Lexer.ofString "\ufeff" .unicode).run.map (Lexer.moved 1 1) := by decide +kernel

end PLZero
