import PLZero.Proofs.Session

/-! The input as a cursor over the bytes of its text. A cursor keeps the whole text and finds the
next character by its offset alone: it reads one byte, and if that is no character by itself, it
cuts the text at the offset and decodes. A cut that does not fall between characters is an error, so
the operations that cut may fail.

* `Cursor` has the operations; `Input.cursor` forgets the characters that an input holds ready.
* `Input.Stands.mirrored`: an input that stands in its text and its cursor show the same, move on
  together, and never fail.
* `Input.Recalls` is `Input.Stands` with the place of the character that was read last.
* `Lexer.session_mirrored` puts this together for all histories. -/
namespace PLZero
set_option autoImplicit false

open Text (bytes slice?)

/-! ## Cutting a text at an offset -/

namespace Text
variable {s : String} {cs ds : List Char}

/-- The text from an offset on, if the offset falls between characters. -/
def from? (s : String) (i : Nat) : Option String :=
  if h : (String.Pos.Raw.mk i).IsValid s then some (s.sliceFrom ⟨_, h⟩).copy else none

/-- The text between two offsets, if both fall between characters. -/
def between? (s : String) (i j : Nat) : Option String :=
  if h : (String.Pos.Raw.mk i).IsValid s ∧ (String.Pos.Raw.mk j).IsValid s ∧ i ≤ j then
    some (s.slice ⟨_, h.1⟩ ⟨_, h.2.1⟩ h.2.2).copy
  else none

theorem eq_ofList_append (h : s.toList = cs ++ ds) :
    s = String.ofList cs ++ String.ofList ds := by
  rw [← String.ofList_append, ← h, String.ofList_toList]

theorem rawEndPos_ofList (cs : List Char) : (String.ofList cs).rawEndPos = ⟨bytes cs⟩ := by
  have h := utf8ByteSize_eq_bytes (String.ofList cs)
  rw [String.toList_ofList] at h
  exact congrArg String.Pos.Raw.mk h

theorem isValid_iff {n : Nat} :
    (String.Pos.Raw.mk n).IsValid s ↔ ∃ cs ds, s.toList = cs ++ ds ∧ n = bytes cs := by
  rw [String.Pos.Raw.isValid_iff_exists_append]
  constructor
  · rintro ⟨a, b, rfl, hn⟩
    refine ⟨a.toList, b.toList, String.toList_append, ?_⟩
    rw [← utf8ByteSize_eq_bytes]
    exact congrArg String.Pos.Raw.byteIdx hn
  · rintro ⟨cs, ds, h, rfl⟩
    exact ⟨_, _, eq_ofList_append h, (rawEndPos_ofList cs).symm⟩

theorem from?_of_append (h : s.toList = cs ++ ds) :
    from? s (bytes cs) = some (String.ofList ds) := by
  have hv : (String.Pos.Raw.mk (bytes cs)).IsValid s := isValid_iff.2 ⟨cs, ds, h, rfl⟩
  have hsplits : (String.Pos.mk _ hv).Splits (String.ofList cs) (String.ofList ds) :=
    ⟨eq_ofList_append h, (rawEndPos_ofList cs).symm⟩
  rw [from?, dif_pos hv, hsplits.copy_sliceFrom_eq]

theorem between?_eq (s : String) (i j : Nat) :
    between? s i j = (slice? s.toList i j).map String.ofList := by
  unfold between?
  split
  · next h =>
    obtain ⟨before, after, hi, hj⟩ := String.copy_slice_eq_iff_splits.1
      ⟨show String.Pos.mk _ h.1 ≤ String.Pos.mk _ h.2.1 from h.2.2, rfl⟩
    generalize (s.slice _ _ _).copy = piece at hi hj ⊢
    have hi' : i = bytes before.toList := by
      rw [← utf8ByteSize_eq_bytes]
      exact congrArg String.Pos.Raw.byteIdx hi.offset_eq_rawEndPos
    have hj' : j = i + bytes piece.toList := by
      rw [hi', ← bytes_append, ← String.toList_append, ← utf8ByteSize_eq_bytes]
      exact congrArg String.Pos.Raw.byteIdx hj.offset_eq_rawEndPos
    have hcut : s.toList = before.toList ++ (piece.toList ++ after.toList) := by
      rw [← String.toList_append, ← String.toList_append, ← hi.eq_append]
    rw [slice?_eq_some_iff.2 ⟨_, _, hcut, hi', hj'⟩, Option.map_some, String.ofList_toList]
  · next h =>
    have hnone : slice? s.toList i j = none := by
      rw [Option.eq_none_iff_forall_ne_some]
      intro ds hds
      obtain ⟨before, after, hcut, hi, hj⟩ := slice?_eq_some_iff.1 hds
      refine h ⟨isValid_iff.2 ⟨before, _, hcut, hi⟩,
        isValid_iff.2 ⟨before ++ ds, after, ?_, ?_⟩, by omega⟩
      · rw [hcut, List.append_assoc]
      · rw [hj, hi, bytes_append]
    rw [hnone]
    rfl

theorem getElem?_bytes {c : Char} (h : s.toList = cs ++ c :: ds) :
    s.toByteArray.data[bytes cs]? = (String.utf8EncodeChar c)[0]? := by
  have hsize : cs.utf8Encode.data.size = bytes cs := size_utf8Encode cs
  have hpos : 0 < (String.utf8EncodeChar c).length := by
    rw [String.length_utf8EncodeChar]
    exact Char.utf8Size_pos c
  rw [← String.utf8Encode_toList, h, List.utf8Encode_append, List.utf8Encode_cons,
    List.utf8Encode_singleton, ByteArray.data_append, ByteArray.data_append,
    List.data_toByteArray, Array.getElem?_append_right (Nat.le_of_eq hsize), hsize, Nat.sub_self]
  generalize String.utf8EncodeChar c = ws at hpos
  rw [Array.getElem?_append_left hpos, List.getElem?_toArray]

theorem firstByte (c : Char) :
    ∃ w ws, String.utf8EncodeChar c = w :: ws ∧ (w < 128 → Char.ofUInt8 w = c) := by
  have hlead : ∀ n, 128 ≤ n → n < 256 → ¬UInt8.ofNat n < 128 := by
    intro n hle hlt
    rw [UInt8.lt_iff_toNat_lt, UInt8.toNat_ofNat', Nat.mod_eq_of_lt hlt]
    exact Nat.not_lt.2 hle
  unfold String.utf8EncodeChar
  dsimp only
  by_cases hone : c.val.toNat ≤ 127
  · rw [if_pos hone]
    refine ⟨_, _, rfl, fun _ => ?_⟩
    have hw : (Char.ofUInt8 (UInt8.ofNat c.val.toNat)).val =
        (UInt8.ofNat c.val.toNat).toUInt32 := rfl
    apply Char.ext
    rw [← UInt32.toNat_inj, hw, UInt8.toNat_toUInt32, UInt8.toNat_ofNat',
      Nat.mod_eq_of_lt (by omega)]
  · rw [if_neg hone]
    split
    · exact ⟨_, _, rfl, fun h => absurd h (hlead _ (by omega) (by omega))⟩
    · split
      · exact ⟨_, _, rfl, fun h => absurd h (hlead _ (by omega) (by omega))⟩
      · exact ⟨_, _, rfl, fun h => absurd h (hlead _ (by omega) (by omega))⟩

end Text

/-! ## Cursors -/

structure Cursor where
  source : String
  here : Position
  last : Position
  opened : Bool
  deriving DecidableEq, Repr

namespace Cursor

def remaining? (k : Cursor) : Option String := Text.from? k.source k.here.offset

def slice (k : Cursor) (p q : Position) : String :=
  (Text.between? k.source p.offset q.offset).getD ""

def atEnd (k : Cursor) : Bool := decide (k.source.utf8ByteSize ≤ k.here.offset)

/-- A byte below 128 is a character; for any other byte the text is cut and decoded. -/
def peek? (k : Cursor) : Option Char :=
  match k.source.toByteArray.data[k.here.offset]? with
  | none => some endMark
  | some w =>
    if w < 128 then some (Char.ofUInt8 w)
    else k.remaining?.map fun s => s.toList.headD endMark

def next? (k : Cursor) : Option (Char × Cursor) :=
  k.peek?.map fun c =>
    if k.atEnd then (c, k) else (c, { k with here := k.here.advance c, last := k.here })

def advance? : Nat → Cursor → Option Cursor
  | 0, k => some k
  | n + 1, k => k.next?.bind fun r => advance? n r.2

def opening (k : Cursor) : Cursor :=
  if k.opened then k
  else if k.here.offset = 0 ∧ k.source.toList.head? = some byteOrderMark then
    let p := { k.here with offset := byteOrderMark.utf8Size }
    ⟨k.source, p, p, true⟩
  else { k with opened := true }

end Cursor

/-! ## An input and its cursor -/

namespace Input
variable {s : String} {mark read : List Char} {i : Input}

def cursor (i : Input) : Cursor := ⟨i.source, i.here, i.last, i.opened⟩

@[simp] theorem cursor_source (i : Input) : i.cursor.source = i.source := rfl

@[simp] theorem cursor_here (i : Input) : i.cursor.here = i.here := rfl

@[simp] theorem cursor_opened (i : Input) : i.cursor.opened = i.opened := rfl

theorem remaining_toList (i : Input) : i.remaining.toList = i.rest := String.toList_ofList

/-- An input shows what is left of its text. -/
structure Shows (i : Input) : Prop where
  joined : i.slice .start i.here ++ i.remaining = i.source
  atEnd_iff : i.atEnd = true ↔ i.remaining = ""
  peek : i.peek = i.remaining.toList.headD endMark
  next : i.next.1 = i.peek
  consumes : i.atEnd = false → i.remaining = String.singleton i.peek ++ i.next.2.remaining
  stays : i.atEnd = true → i.next = (endMark, i)

/-- The cursor of an input does not fail: it shows the same, and goes on to the cursor of the input
that the input goes on to. -/
structure Mirrored (i : Input) : Prop where
  boundary : (String.Pos.Raw.mk i.here.offset).IsValid i.source
  remaining : i.cursor.remaining? = some i.remaining
  atEnd : i.cursor.atEnd = i.atEnd
  peek : i.cursor.peek? = some i.peek
  next : i.cursor.next? = some (i.next.1, i.next.2.cursor)
  opening : i.cursor.opening = i.opening.cursor
  slice : ∀ p q, i.cursor.slice p q = i.slice p q

theorem cursor_slice (i : Input) (p q : Position) : i.cursor.slice p q = i.slice p q := by
  rw [Cursor.slice, cursor_source, Text.between?_eq, Input.slice]
  cases slice? i.source.toList p.offset q.offset <;> rfl

theorem Stands.joined (h : Stands s mark read i) : i.slice .start i.here ++ i.remaining = s := by
  have hslice : slice? i.source.toList 0 i.here.offset = some (mark ++ read) :=
    Text.slice?_eq_some_iff.2
      ⟨[], i.rest, by rw [h.source, h.cut]; rfl, rfl, by rw [h.offset, Nat.zero_add]⟩
  unfold Input.slice remaining
  rw [show Position.start.offset = 0 from rfl, hslice]
  exact (Text.eq_ofList_append h.cut).symm

theorem Stands.shows (h : Stands s mark read i) : i.Shows where
  joined := by rw [h.joined, h.source]
  atEnd_iff := by
    rw [atEnd, List.isEmpty_iff, ← remaining_toList, String.toList_eq_nil_iff]
  peek := by rw [remaining_toList]; rfl
  next := rfl
  consumes he := by
    unfold atEnd at he
    unfold next peek remaining
    rw [step_rest]
    cases hr : i.rest with
    | nil => rw [hr] at he; cases he
    | cons c cs => simp [String.ofList_cons]
  stays he := by
    unfold atEnd at he
    unfold next peek step
    rw [List.isEmpty_iff.1 he]
    rfl

theorem Stands.cursor_remaining (h : Stands s mark read i) :
    i.cursor.remaining? = some i.remaining := by
  rw [Cursor.remaining?, cursor_source, cursor_here, h.source, h.offset]
  exact Text.from?_of_append h.cut

theorem Stands.cursor_atEnd (h : Stands s mark read i) : i.cursor.atEnd = i.atEnd := by
  have hsize : i.source.utf8ByteSize = i.here.offset + bytes i.rest := by
    rw [h.source, Text.utf8ByteSize_eq_bytes, h.cut, Text.bytes_append, h.offset]
  rw [Bool.eq_iff_iff, Cursor.atEnd, atEnd, decide_eq_true_iff, List.isEmpty_iff,
    ← Text.bytes_eq_zero_iff]
  show i.source.utf8ByteSize ≤ i.here.offset ↔ _
  omega

theorem Stands.cursor_peek (h : Stands s mark read i) : i.cursor.peek? = some i.peek := by
  have hcut := h.cut
  rw [← h.source] at hcut
  unfold Cursor.peek? peek
  rw [h.cursor_remaining]
  cases hr : i.rest with
  | nil =>
    have hend : i.source.toByteArray.data[i.here.offset]? = none := by
      rw [hr, List.append_nil] at hcut
      rw [Array.getElem?_eq_none_iff, h.offset, ← hcut, ← Text.utf8ByteSize_eq_bytes]
      exact Nat.le_refl _
    rw [show i.cursor.source.toByteArray.data[i.cursor.here.offset]? = none from hend]
    rfl
  | cons c cs =>
    rw [hr] at hcut
    obtain ⟨w, ws, hw, hchar⟩ := Text.firstByte c
    have hbyte : i.cursor.source.toByteArray.data[i.cursor.here.offset]? = some w := by
      have hget := Text.getElem?_bytes hcut
      rw [← h.offset, hw] at hget
      exact hget
    rw [hbyte]
    dsimp only
    split
    · next hlt => rw [hchar hlt]; rfl
    · rw [Option.map_some, remaining_toList, hr]

theorem Stands.cursor_next (h : Stands s mark read i) :
    i.cursor.next? = some (i.next.1, i.next.2.cursor) := by
  unfold Cursor.next?
  rw [h.cursor_peek, h.cursor_atEnd, Option.map_some]
  unfold next peek step atEnd
  cases hr : i.rest with
  | nil => rfl
  | cons c cs => rfl

theorem Stands.cursor_opening (h : Stands s mark read i) :
    i.cursor.opening = i.opening.cursor := by
  -- At the first byte what is left is the whole text.
  have hfirst : i.here.offset = 0 → i.source.toList = i.rest := by
    intro hz
    obtain ⟨rfl, rfl⟩ := h.nil_of_offset hz
    rw [h.source, h.cut]
    rfl
  unfold Cursor.opening Input.opening
  by_cases ho : i.opened = true
  · simp [ho]
  · by_cases hz : i.here.offset = 0
    · cases hr : i.rest with
      | nil => simp [cursor, ho, hfirst hz, hr]
      | cons c cs => by_cases hc : c = byteOrderMark <;> simp [cursor, ho, hz, hfirst hz, hr, hc]
    · cases i.rest <;> simp [cursor, ho, hz]

theorem Stands.mirrored (h : Stands s mark read i) : i.Mirrored where
  boundary := Text.isValid_iff.2 ⟨_, _, by rw [h.source, h.cut], h.offset⟩
  remaining := h.cursor_remaining
  atEnd := h.cursor_atEnd
  peek := h.cursor_peek
  next := h.cursor_next
  opening := h.cursor_opening
  slice := i.cursor_slice

theorem Stands.cursor_advance (h : Stands s mark read i) (n : Nat) :
    i.cursor.advance? n = some (i.advance n).cursor := by
  induction n generalizing i read with
  | zero => rfl
  | succ n ih =>
    rw [Cursor.advance?, h.cursor_next, Option.bind_some]
    exact ih (h.advance 1)

/-! ## The character that was read last -/

theorem opening_last_of_passesMark (h : i.passesMark = true) : i.opening.last = i.opening.here := by
  simp only [passesMark, Bool.and_eq_true, Bool.not_eq_true', beq_iff_eq] at h
  obtain ⟨⟨ho, hz⟩, hm⟩ := h
  obtain ⟨cs, hcs⟩ := List.head?_eq_some_iff.1 hm
  unfold opening
  simp [ho, hz, hcs]

/-- The input stands in its text, and `last` is where it stood before the last character. -/
structure Recalls (s : String) (mark read : List Char) (i : Input) : Prop
    extends Stands s mark read i where
  last : i.last = (Position.behind mark).advanceBy read.dropLast

namespace Recalls

theorem step (h : Recalls s mark read i) : Recalls s mark (read ++ i.rest.take 1) i.step where
  toStands := h.advance 1
  last := by
    unfold Input.step
    cases hr : i.rest with
    | nil =>
      rw [List.take_nil, List.append_nil]
      exact h.last
    | cons c cs =>
      rw [List.take_succ_cons, List.take_zero, List.dropLast_concat]
      exact h.here

theorem advance (h : Recalls s mark read i) (n : Nat) :
    Recalls s mark (read ++ i.rest.take n) (i.advance n) := by
  induction n generalizing i read with
  | zero =>
    rw [List.take_zero, List.append_nil]
    exact h
  | succ n ih =>
    have hstep := ih h.step
    rw [step_rest, List.append_assoc, ← List.take_add, Nat.add_comm] at hstep
    exact hstep

/-- Opening that passes over a mark finds the input as it was made. -/
theorem eq_ofString (h : Recalls s mark read i) (hm : i.passesMark = true) :
    mark = [] ∧ read = [] ∧ i = ofString s := by
  obtain ⟨-, ho, hz, -⟩ := opening_of_passesMark hm
  obtain ⟨rfl, rfl⟩ := h.nil_of_offset hz
  refine ⟨rfl, rfl, ?_⟩
  cases i with
  | mk source rest here last opened =>
    obtain rfl : source = s := h.source
    obtain rfl : source.toList = rest := h.cut
    obtain rfl : here = .start := h.here
    obtain rfl : last = .start := h.last
    obtain rfl : opened = false := ho
    rfl

theorem opening (h : Recalls s mark read i) :
    Recalls s (if i.passesMark then [byteOrderMark] else mark) read i.opening where
  toStands := h.toStands.opening
  last := by
    cases hm : i.passesMark with
    | false =>
      rw [opening_of_not_passesMark hm]
      exact h.last
    | true =>
      have hhere := h.toStands.opening.here
      rw [hm] at hhere
      obtain ⟨-, rfl, -⟩ := h.eq_ofString hm
      rw [opening_last_of_passesMark hm]
      exact hhere

theorem last_of_read (h : Recalls s mark read i) {c : Char} (hc : c ∈ read.getLast?) :
    i.last.advance c = i.here ∧ i.slice i.last i.here = String.singleton c := by
  obtain ⟨before, rfl⟩ := List.getLast?_eq_some_iff.1 hc
  have hlast := h.last
  rw [List.dropLast_concat] at hlast
  have hadvance : i.last.advance c = i.here := by
    rw [h.here, Position.advanceBy_append, hlast]
    rfl
  have hoffset : i.last.offset = bytes (mark ++ before) := by
    rw [hlast, Position.advanceBy_offset, Text.bytes_append]
    rfl
  have hslice : slice? i.source.toList i.last.offset i.here.offset = some [c] := by
    rw [← hadvance, Position.advance_offset, h.source]
    refine Text.slice?_eq_some_iff.2 ⟨mark ++ before, i.rest, ?_, hoffset, rfl⟩
    rw [h.cut]
    simp
  refine ⟨hadvance, ?_⟩
  rw [Input.slice, hslice]
  rfl

end Recalls

theorem kept_recalls : Kept (Recalls s) := ⟨Recalls.opening, Recalls.advance⟩

theorem recalls_ofString (s : String) : Recalls s [] [] (ofString s) := ⟨stands_ofString s, rfl⟩

/-- Opening acts once at most, and then at most on a mark before which nothing was read. -/
structure OpensOnce (i : Input) : Prop where
  again : i.opened = true → i.opening = i
  plain : i.passesMark = false → i.opening = { i with opened := true }
  marked : i.passesMark = true → i = ofString i.source ∧
    i.remaining = String.singleton byteOrderMark ++ i.opening.remaining ∧
    i.opening.here = ⟨3, 1, 1⟩ ∧ i.opening.last = ⟨3, 1, 1⟩

theorem Recalls.opensOnce (h : Recalls s mark read i) : i.OpensOnce where
  again := opening_of_opened
  plain := opening_of_not_passesMark
  marked hm := by
    obtain ⟨-, -, hi⟩ := h.eq_ofString hm
    obtain ⟨hrest, -, -, hhere⟩ := opening_of_passesMark hm
    have hstart : i.opening.here = ⟨3, 1, 1⟩ := by
      rw [hhere, hi]
      rfl
    refine ⟨by rw [h.source]; exact hi, ?_, hstart, ?_⟩
    · unfold remaining
      rw [hrest, String.ofList_cons]
    · rw [opening_last_of_passesMark hm, hstart]

end Input

/-! ## Histories -/

namespace Lexer

theorem perform_offset_le (l : Lexer) (act : Action) :
    l.input.here.offset ≤ (l.perform act).input.here.offset := by
  obtain ⟨n, hn⟩ := l.perform_input act
  rw [hn, Input.advance_here, Position.advanceBy_offset]
  have ho := l.input.opening_here_le
  split <;> omega

theorem performAll_opened (l : Lexer) (acts : List Action) :
    (l.performAll acts).input.opened = (l.input.opened || acts.any Action.opens) := by
  induction acts generalizing l with
  | nil => rw [List.any_nil, Bool.or_false]; rfl
  | cons act acts ih =>
    obtain ⟨n, hn⟩ := l.perform_input act
    rw [performAll_cons, ih, List.any_cons, hn, Input.advance_opened, ← Bool.or_assoc]
    cases act.opens <;> simp

theorem perform_cursor {s : String} {mark read : List Char} {l : Lexer}
    (h : l.input.Stands s mark read) (act : Action) :
    ∃ n, (if act.opens = true then l.input.cursor.opening else l.input.cursor).advance? n =
      some (l.perform act).input.cursor := by
  obtain ⟨n, hn⟩ := l.perform_input act
  refine ⟨n, ?_⟩
  rw [hn, h.cursor_opening]
  cases act.opens with
  | false => exact h.cursor_advance n
  | true => exact h.opening.cursor_advance n

/-- **An input never loses its text.** After every history of a fresh text the input shows what is
left of it, and the cursor over the bytes follows the input without ever failing. What was read lies
between the mark that was passed over and what is left; `last` is where the last character of it
stands. No action goes back, and opening does something only once. -/
theorem session_mirrored (s : String) (acts : List Action) :
    let l := (ofString s default).performAll acts
    let mark := if (ofString s default).passedMark acts = true then [byteOrderMark] else []
    l.input.source = s ∧ l.input.Shows ∧ l.input.Mirrored ∧
    (∃ read, s.toList = mark ++ read ++ l.input.remaining.toList ∧
      (read = [] → l.input.last = l.input.here) ∧
      ∀ c ∈ read.getLast?, l.input.last.advance c = l.input.here ∧
        l.input.slice l.input.last l.input.here = String.singleton c) ∧
    (∀ act, l.input.here.offset ≤ (l.perform act).input.here.offset ∧
      ∃ n, (if act.opens = true then l.input.cursor.opening else l.input.cursor).advance? n =
        some (l.perform act).input.cursor) ∧
    l.input.opened = acts.any Action.opens ∧ l.input.OpensOnce := by
  intro l mark
  obtain ⟨read, h⟩ := performAll_keeps (l := ofString s default) Input.kept_recalls
    (Input.recalls_ofString s) acts
  refine ⟨h.source, h.shows, h.mirrored, ⟨read, ?_, ?_, fun c => h.last_of_read⟩,
    fun act => ⟨l.perform_offset_le act, perform_cursor h.toStands act⟩, ?_, h.opensOnce⟩
  · rw [Input.remaining_toList]
    exact h.cut
  · rintro rfl
    rw [h.last, h.here]
    rfl
  · rw [performAll_opened]
    rfl

end Lexer

end PLZero
