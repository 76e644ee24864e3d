import PLZero.Proofs.Pull

/-! Where an input stands in its text. What has been consumed is a beginning of the text, and the
position is found by going through it; a byte order mark that was passed over counts its bytes only.

* `Text.slice?_eq_some_iff`: the bytes of a piece cut out the piece.
* `Text.markOf` and `Text.body` are the parts of a text: the mark, if there is one, and the rest.
* `Input.Stands` is the invariant; `Stands.opening` and `Stands.advance` keep it. -/
namespace PLZero
set_option autoImplicit false

namespace Text

theorem bytes_eq_zero_iff {cs : List Char} : bytes cs = 0 ↔ cs = [] := by
  cases cs with
  | nil => simp
  | cons c cs =>
    have hc := Char.utf8Size_pos c
    simp only [bytes_cons, reduceCtorEq, iff_false]
    omega

theorem size_utf8Encode (cs : List Char) : cs.utf8Encode.size = bytes cs := by
  induction cs with
  | nil => rfl
  | cons c cs ih =>
    rw [List.utf8Encode_cons, ByteArray.size_append, List.utf8Encode_singleton,
      List.size_toByteArray, String.length_utf8EncodeChar, ih, bytes_cons]

theorem utf8ByteSize_eq_bytes (s : String) : s.utf8ByteSize = bytes s.toList := by
  rw [← size_utf8Encode, String.utf8Encode_toList, String.size_toByteArray]

theorem charsIn_bytes (k : Nat) (cs ds : List Char) :
    charsIn k (cs ++ ds) (bytes cs) = some (k + cs.length) := by
  induction cs generalizing k with
  | nil => cases ds <;> simp [charsIn]
  | cons c cs ih =>
    have hc := Char.utf8Size_pos c
    have hne : c.utf8Size + bytes cs ≠ 0 := by omega
    rw [List.cons_append, bytes_cons, charsIn, if_neg hne, if_pos (Nat.le_add_right _ _),
      Nat.add_sub_cancel_left, ih, List.length_cons]
    congr 1
    omega

theorem slice?_append (cs ds es : List Char) :
    slice? (cs ++ (ds ++ es)) (bytes cs) (bytes cs + bytes ds) = some ds := by
  have hi := charsIn_bytes 0 cs (ds ++ es)
  have hj := charsIn_bytes 0 (cs ++ ds) es
  rw [List.append_assoc, bytes_append] at hj
  unfold slice?
  rw [if_pos (Nat.le_add_right _ _), hi, hj]
  simp [← List.append_assoc]

theorem charsIn_eq_some_iff {k n m : Nat} {cs : List Char} :
    charsIn k cs n = some m ↔ ∃ ds es, cs = ds ++ es ∧ n = bytes ds ∧ m = k + ds.length := by
  constructor
  · intro h
    fun_induction charsIn k cs n with
    | case1 k =>
      exact ⟨[], [], rfl, rfl, (Option.some.inj h).symm⟩
    | case2 k n hn => cases h
    | case3 k c cs => exact ⟨[], c :: cs, rfl, rfl, (Option.some.inj h).symm⟩
    | case4 k c cs n hn hle ih =>
      obtain ⟨ds, es, rfl, hb, rfl⟩ := ih h
      refine ⟨c :: ds, es, rfl, ?_, ?_⟩
      · rw [bytes_cons]
        omega
      · rw [List.length_cons]
        omega
    | case5 k c cs n hn hle => cases h
  · rintro ⟨ds, es, rfl, rfl, rfl⟩
    exact charsIn_bytes k ds es

theorem slice?_eq_some_iff {cs ds : List Char} {i j : Nat} :
    slice? cs i j = some ds ↔
      ∃ before after, cs = before ++ (ds ++ after) ∧ i = bytes before ∧ j = i + bytes ds := by
  constructor
  · intro h
    unfold slice? at h
    split at h
    · next hle =>
      split at h
      · next m n hm hn =>
        obtain ⟨before, rest, hcs, rfl, rfl⟩ := charsIn_eq_some_iff.1 hm
        obtain ⟨upTo, after, hcs', rfl, rfl⟩ := charsIn_eq_some_iff.1 hn
        -- The shorter beginning is the one with fewer bytes.
        have hcut : ∃ mid, upTo = before ++ mid := by
          rcases List.append_eq_append_iff.1 (hcs.symm.trans hcs')
            with ⟨mid, hmid, -⟩ | ⟨mid, hmid, -⟩
          · exact ⟨mid, hmid⟩
          · rw [hmid, bytes_append] at hle
            have hnil : mid = [] := bytes_eq_zero_iff.1 (by omega)
            exact ⟨[], by rw [hmid, hnil, List.append_nil, List.append_nil]⟩
        obtain ⟨mid, rfl⟩ := hcut
        rw [hcs', Nat.zero_add, Nat.zero_add, List.take_left, List.drop_left] at h
        obtain rfl : mid = ds := Option.some.inj h
        exact ⟨before, after, by rw [hcs', List.append_assoc], rfl, bytes_append _ _⟩
      · cases h
    · cases h
  · rintro ⟨before, after, rfl, rfl, rfl⟩
    exact slice?_append before ds after

/-- The byte order mark at the start of a text, if it has one. -/
def markOf (s : String) : List Char :=
  if s.toList.head? == some byteOrderMark then [byteOrderMark] else []

/-- A text without its byte order mark. -/
def body (s : String) : List Char := s.toList.drop (markOf s).length

theorem markOf_eq_nil {s : String} (h : s.toList.head? ≠ some byteOrderMark) : markOf s = [] := by
  unfold markOf
  rw [if_neg (by simpa using h)]

theorem markOf_append_body (s : String) : markOf s ++ body s = s.toList := by
  unfold body markOf
  by_cases hm : s.toList.head? = some byteOrderMark
  · obtain ⟨cs, hcs⟩ := List.head?_eq_some_iff.1 hm
    simp [hcs]
  · simp [hm]

theorem body_eq_toList {s : String} (h : s.toList.head? ≠ some byteOrderMark) :
    body s = s.toList := by
  rw [body, markOf_eq_nil h]
  rfl

/-- What is appended belongs to the body, unless it brings the first character with it. -/
theorem markOf_append {s t : String} (h : s.toList = [] → t.toList.head? ≠ some byteOrderMark) :
    markOf (s ++ t) = markOf s := by
  unfold markOf
  rw [String.toList_append]
  cases hs : s.toList with
  | nil => simp [h hs]
  | cons c cs => rfl

theorem body_append {s t : String} (h : s.toList = [] → t.toList.head? ≠ some byteOrderMark) :
    body (s ++ t) = body s ++ t.toList := by
  have hcut := markOf_append_body (s ++ t)
  rw [markOf_append h, String.toList_append, ← markOf_append_body s, List.append_assoc] at hcut
  exact List.append_cancel_left hcut

theorem markOf_of_toList {s t : String} {cs : List Char} (ht : t.toList = markOf s ++ cs)
    (hcs : cs.head? ≠ some byteOrderMark) : markOf t = markOf s := by
  by_cases hm : s.toList.head? = some byteOrderMark
  · have hs : markOf s = [byteOrderMark] := by simp [markOf, hm]
    rw [hs] at ht
    rw [hs, markOf, ht]
    rfl
  · rw [markOf_eq_nil hm, List.nil_append] at ht
    rw [markOf_eq_nil hm]
    exact markOf_eq_nil (by rw [ht]; exact hcs)

theorem body_of_toList {s t : String} {cs : List Char} (ht : t.toList = markOf s ++ cs)
    (hcs : cs.head? ≠ some byteOrderMark) : body t = cs := by
  rw [body, markOf_of_toList ht hcs, ht, List.drop_left]

theorem newline_not_mem_markOf (s : String) : '\n' ∉ markOf s := by
  unfold markOf
  split
  · decide
  · exact List.not_mem_nil

end Text

open Text (bytes slice?)

/-- The lexeme of a token of `s`. -/
def Token.lexeme? (s : String) (t : Token) : Option (List Char) :=
  slice? s.toList t.start.offset t.stop.offset

namespace Position

/-- Where a text goes on behind `mark`, which fills no column. -/
def behind (mark : List Char) : Position := ⟨bytes mark, 1, 1⟩

theorem advanceBy_offset (p : Position) (cs : List Char) :
    (p.advanceBy cs).offset = p.offset + bytes cs := by
  induction cs generalizing p with
  | nil => rfl
  | cons c cs ih =>
    rw [advanceBy_cons, ih, advance_offset, Text.bytes_cons, Nat.add_assoc]

end Position

namespace Input

/-- The input stands in the text `s` behind `mark`, which was passed over, and `read`, which was
consumed. -/
structure Stands (s : String) (mark read : List Char) (i : Input) : Prop where
  source : i.source = s
  cut : s.toList = mark ++ read ++ i.rest
  here : i.here = (Position.behind mark).advanceBy read

theorem stands_ofString (s : String) : Stands s [] [] (ofString s) := ⟨rfl, rfl, rfl⟩

namespace Stands
variable {s : String} {mark read : List Char} {i : Input}

theorem offset (h : Stands s mark read i) : i.here.offset = bytes (mark ++ read) := by
  rw [h.here, Position.advanceBy_offset, Text.bytes_append]
  rfl

theorem offset_lt_iff (h : Stands s mark read i) :
    i.here.offset < s.utf8ByteSize ↔ i.rest ≠ [] := by
  have hsize : s.utf8ByteSize = i.here.offset + bytes i.rest := by
    rw [Text.utf8ByteSize_eq_bytes, h.cut, Text.bytes_append, ← h.offset]
  rw [hsize, ne_eq, ← Text.bytes_eq_zero_iff]
  omega

/-- At the first byte no mark was passed over, and nothing was read. -/
theorem nil_of_offset (h : Stands s mark read i) (hz : i.here.offset = 0) :
    mark = [] ∧ read = [] := by
  rw [h.offset] at hz
  exact List.append_eq_nil_iff.1 (Text.bytes_eq_zero_iff.1 hz)

theorem advance (h : Stands s mark read i) (n : Nat) :
    Stands s mark (read ++ i.rest.take n) (i.advance n) where
  source := by rw [advance_source, h.source]
  cut := by
    rw [advance_rest, List.append_assoc, List.append_assoc, List.take_append_drop,
      ← List.append_assoc, h.cut]
  here := by rw [advance_here, h.here, Position.advanceBy_append]

theorem opening (h : Stands s mark read i) :
    Stands s (if i.passesMark then [byteOrderMark] else mark) read i.opening := by
  cases hm : i.passesMark with
  | false =>
    have ho := opening_of_not_passesMark hm
    rw [ho]
    exact ⟨h.source, h.cut, h.here⟩
  | true =>
    obtain ⟨hrest, -, hz, hhere⟩ := opening_of_passesMark hm
    obtain ⟨rfl, rfl⟩ := h.nil_of_offset hz
    refine ⟨by rw [opening_source, h.source], ?_, ?_⟩
    · rw [h.cut, hrest]
      rfl
    · rw [hhere, h.here]
      rfl

theorem slice (h : Stands s mark read i) {cs ds : List Char} (hr : i.rest = cs ++ ds) :
    slice? s.toList i.here.offset (i.here.offset + bytes cs) = some cs := by
  rw [h.offset, h.cut, hr]
  exact Text.slice?_append _ _ _

end Stands

/-- What is known of an input by the mark that was passed over and the characters that were read,
and stays known while the input is opened and moves on. -/
structure Kept (P : List Char → List Char → Input → Prop) : Prop where
  opening : ∀ {mark read i}, P mark read i →
    P (if i.passesMark then [byteOrderMark] else mark) read i.opening
  advance : ∀ {mark read i}, P mark read i → ∀ n, P mark (read ++ i.rest.take n) (i.advance n)

theorem kept_stands {s : String} : Kept (Stands s) := ⟨Stands.opening, Stands.advance⟩

/-- A fresh text, once opened, stands behind its mark and has its body left. -/
theorem stands_opening_ofString (s : String) :
    Stands s (Text.markOf s) [] (ofString s).opening ∧ (ofString s).opening.rest = Text.body s := by
  have h := (stands_ofString s).opening
  have hm : (ofString s).passesMark = (s.toList.head? == some byteOrderMark) := rfl
  have hs : Stands s (Text.markOf s) [] (ofString s).opening := by
    rw [hm] at h
    exact h
  refine ⟨hs, ?_⟩
  have hc := hs.cut
  rw [List.append_nil] at hc
  rw [Text.body, hc, List.drop_left]

end Input

end PLZero
