import PLZero.Dump
import PLZero.Proofs.QuotedForms

/-! The lines of a dump, and what can be read off them. A line is made of a range, if ranges are
shown, of the name of the kind, and of the value in parentheses; each of these shows where it ends.
No line has a line feed in it, so a dump falls into its lines again.

* `Token.ShowsAs`: two tokens of the same kind and value, with the same lines and columns if ranges
  are shown.
* `Token.line_eq_iff`: these are the tokens with the same line.
* `Text.unlines` puts lines together; `Text.splitOn_unlines` takes them apart.
* `dump_unambiguous` puts this together for all dumps. -/
namespace PLZero
set_option autoImplicit false

open Text (SelfDelimiting)

/-! ## Kinds -/

namespace Kind

theorem ofName?_name (k : Kind) : ofName? k.name = some k := by
  cases k with
  | keyword k => cases k <;> rfl
  | punctuation p => cases p <;> rfl
  | _ => rfl

theorem name_injective : Function.Injective name := by
  intro k l h
  exact Option.some.inj (by rw [← ofName?_name k, h, ofName?_name])

theorem isAlpha_of_mem_name {k : Kind} {c : Char} (h : c ∈ k.name.toList) : c.isAlpha = true := by
  have hall : k.name.toList.all Char.isAlpha = true := by
    cases k with
    | keyword k => cases k <;> rfl
    | punctuation p => cases p <;> rfl
    | _ => rfl
  exact List.all_eq_true.1 hall c h

end Kind

/-! ## Values -/

namespace Value

theorem isDigit_or_minus_of_mem_repr {n : Int} {c : Char} (h : c ∈ n.repr.toList) :
    c.isDigit = true ∨ c = '-' := by
  rw [Int.repr_eq_if] at h
  split at h
  · exact .inl (Text.isDigit_of_mem_repr h)
  · rw [String.toList_append, List.mem_append] at h
    rcases h with h | h
    · exact .inr (List.mem_singleton.1 h)
    · exact .inl (Text.isDigit_of_mem_repr h)

theorem repr_toList_ne_nil (n : Int) : n.repr.toList ≠ [] := by
  rw [Int.repr_eq_if]
  split
  · rw [Nat.repr_eq_ofList_toDigits, String.toList_ofList]
    exact Nat.toDigits_ne_nil
  · simp

/-- No integer begins like a quoted form. -/
theorem repr_ne_quoted {n : Int} {q : Char} (hq : Text.IsQuote q) (cs : List Char) :
    n.repr.toList ≠ q :: cs := by
  intro h
  have hmem : q ∈ n.repr.toList := by
    rw [h]
    exact List.mem_cons_self
  rcases hq with rfl | rfl
  · exact absurd (isDigit_or_minus_of_mem_repr hmem) (by decide)
  · exact absurd (isDigit_or_minus_of_mem_repr hmem) (by decide)

theorem display_injective : Function.Injective display := by
  intro v w h
  have hl := congrArg String.toList h
  cases v with
  | none =>
    cases w with
    | none => rfl
    | integer n => exact absurd hl.symm (repr_toList_ne_nil n)
    | text s => simp [display, Text.toList_quoted] at hl
    | char c => simp [display, Text.toList_quotedChar] at hl
  | integer m =>
    cases w with
    | none => exact absurd hl (repr_toList_ne_nil m)
    | integer n => exact congrArg integer (Int.repr_inj.1 h)
    | text s => exact absurd (hl.trans (Text.toList_quoted s)) (repr_ne_quoted (.inl rfl) _)
    | char c => exact absurd (hl.trans (Text.toList_quotedChar c)) (repr_ne_quoted (.inr rfl) _)
  | text s =>
    cases w with
    | none => simp [display, Text.toList_quoted] at hl
    | integer n =>
      exact absurd (hl.symm.trans (Text.toList_quoted s)) (repr_ne_quoted (.inl rfl) _)
    | text t => exact congrArg text (Text.selfDelimiting_quoted.injective hl)
    | char c => simp [display, Text.toList_quoted, Text.toList_quotedChar] at hl
  | char c =>
    cases w with
    | none => simp [display, Text.toList_quotedChar] at hl
    | integer n =>
      exact absurd (hl.symm.trans (Text.toList_quotedChar c)) (repr_ne_quoted (.inr rfl) _)
    | text s => simp [display, Text.toList_quoted, Text.toList_quotedChar] at hl
    | char d => exact congrArg char (Text.selfDelimiting_quotedChar.injective hl)

theorem newline_not_mem_display (v : Value) : '\n' ∉ v.display.toList := by
  cases v with
  | none => exact List.not_mem_nil
  | integer n => exact fun h => absurd (isDigit_or_minus_of_mem_repr h) (by decide)
  | text s => exact Text.newline_not_mem_quoted s
  | char c => exact Text.newline_not_mem_quotedChar c

/-- What stands behind the name of the kind. -/
def behindName : Value → List Char
  | none => []
  | v => '(' :: (v.display.toList ++ [')'])

theorem behindName_injective : Function.Injective behindName := by
  have hshown : ∀ v w : Value, '(' :: (v.display.toList ++ [')']) =
      '(' :: (w.display.toList ++ [')']) → v = w := by
    intro v w h
    exact display_injective (String.toList_inj.1 (List.append_cancel_right (List.cons.inj h).2))
  intro v w h
  cases v <;> cases w <;> first
    | rfl
    | exact hshown _ _ h
    | cases h

theorem head_behindName (v : Value) : ∀ c ∈ v.behindName.head?, c.isAlpha = false := by
  intro c hc
  cases v <;> cases hc <;> rfl

theorem newline_not_mem_behindName (v : Value) : '\n' ∉ v.behindName := by
  have h := v.newline_not_mem_display
  cases v <;> simp_all [behindName]

end Value

/-! ## Lines -/

namespace Token
variable {t u : Token}

theorem toList_text (t : Token) : t.text.toList = t.kind.name.toList ++ t.value.behindName := by
  unfold text
  cases t.value <;> simp [Value.behindName]

theorem text_inj (h : t.text = u.text) : t.kind = u.kind ∧ t.value = u.value := by
  have hl := congrArg String.toList h
  rw [toList_text, toList_text] at hl
  obtain ⟨hname, hvalue⟩ := Text.append_inj_of_stop (fun _ => Kind.isAlpha_of_mem_name)
    (fun _ => Kind.isAlpha_of_mem_name) t.value.head_behindName u.value.head_behindName hl
  exact ⟨Kind.name_injective (String.toList_inj.1 hname), Value.behindName_injective hvalue⟩

theorem newline_not_mem_text (t : Token) : '\n' ∉ t.text.toList := by
  rw [toList_text, List.mem_append, not_or]
  exact ⟨fun h => absurd (Kind.isAlpha_of_mem_name h) (by decide),
    t.value.newline_not_mem_behindName⟩

/-- The range of a token as a line shows it. -/
def range (t : Token) : String := t.start.text ++ "-" ++ t.stop.text ++ " "

/-- What a range tells: line and column of the start and of the end. -/
def corners (t : Token) : (UInt32 × UInt32) × UInt32 × UInt32 :=
  ((t.start.line, t.start.column), t.stop.line, t.stop.column)

/-- A line and a column, with a sign behind them. -/
def place (e : Char) (p : UInt32 × UInt32) : List Char :=
  (p.1.toNat.repr.toList ++ [':']) ++ (p.2.toNat.repr.toList ++ [e])

theorem selfDelimiting_place {e : Char} (he : e.isDigit = false) : SelfDelimiting (place e) :=
  ((Text.selfDelimiting_decimal (by decide)).comp fun _ _ => UInt32.toNat_inj.1).pair
    ((Text.selfDelimiting_decimal he).comp fun _ _ => UInt32.toNat_inj.1)

theorem toList_range (t : Token) :
    t.range.toList = place '-' t.corners.1 ++ place ' ' t.corners.2 := by
  simp [range, place, corners, Position.text]

theorem newline_not_mem_range (t : Token) : '\n' ∉ t.range.toList := by
  have hdigits : ∀ n : Nat, '\n' ∉ Nat.toDigits 10 n := fun n h =>
    absurd (Nat.isDigit_of_mem_toDigits (by decide) (by decide) h) (by decide)
  simp [range, Position.text, hdigits]

theorem line_true (t : Token) : t.line true = t.range ++ t.text := rfl

theorem line_eq (spans : Bool) (t : Token) :
    t.line spans = if spans then t.range ++ t.text else t.text := by
  cases spans <;> rfl

/-- The same kind and value, and the same lines and columns if ranges are shown. -/
structure ShowsAs (spans : Bool) (t u : Token) : Prop where
  kind : t.kind = u.kind
  value : t.value = u.value
  range : spans = true → t.start.line = u.start.line ∧ t.start.column = u.start.column ∧
    t.stop.line = u.stop.line ∧ t.stop.column = u.stop.column

theorem corners_eq_iff : t.corners = u.corners ↔
    t.start.line = u.start.line ∧ t.start.column = u.start.column ∧
      t.stop.line = u.stop.line ∧ t.stop.column = u.stop.column := by
  simp [corners, Prod.ext_iff, and_assoc]

theorem text_congr (hkind : t.kind = u.kind) (hvalue : t.value = u.value) : t.text = u.text := by
  unfold text
  rw [hkind, hvalue]

theorem line_eq_iff {spans : Bool} : t.line spans = u.line spans ↔ ShowsAs spans t u := by
  cases spans with
  | false =>
    constructor
    · intro h
      obtain ⟨hkind, hvalue⟩ := text_inj h
      exact ⟨hkind, hvalue, fun hs => by cases hs⟩
    · intro h
      exact text_congr h.kind h.value
  | true =>
    constructor
    · intro h
      have hl := congrArg String.toList h
      rw [line_true, line_true, String.toList_append, String.toList_append, toList_range,
        toList_range] at hl
      obtain ⟨hcorners, htext⟩ := ((selfDelimiting_place (by decide)).pair
        (selfDelimiting_place (by decide))) t.corners u.corners _ _ hl
      obtain ⟨hkind, hvalue⟩ := text_inj (String.toList_inj.1 htext)
      exact ⟨hkind, hvalue, fun _ => corners_eq_iff.1 hcorners⟩
    · intro h
      have hcorners := corners_eq_iff.2 (h.range rfl)
      have hrange : t.range = u.range := by
        rw [← String.toList_inj, toList_range, toList_range, hcorners]
      rw [line_true, line_true, hrange, text_congr h.kind h.value]

theorem newline_not_mem_line (spans : Bool) (t : Token) : '\n' ∉ (t.line spans).toList := by
  cases spans with
  | false => exact t.newline_not_mem_text
  | true =>
    rw [line_true, String.toList_append, List.mem_append, not_or]
    exact ⟨t.newline_not_mem_range, t.newline_not_mem_text⟩

end Token

/-! ## Lines put together -/

namespace Text

/-- The lines, each ended by a line feed. -/
def unlines (lines : List String) : String := String.join (lines.map (· ++ "\n"))

theorem splitOn_unlines {lines : List String} (h : ∀ line ∈ lines, '\n' ∉ line.toList) :
    (unlines lines).toList.splitOn '\n' = lines.map String.toList ++ [[]] := by
  unfold unlines
  rw [String.toList_join]
  induction lines with
  | nil => rfl
  | cons line lines ih =>
    obtain ⟨hline, hlines⟩ := List.forall_mem_cons.1 h
    rw [List.map_cons, List.flatMap_cons, String.toList_append, List.append_assoc,
      show "\n".toList = ['\n'] from rfl, List.singleton_append,
      List.splitOn_append_cons_self_of_not_mem hline, ih hlines]
    rfl

theorem unlines_inj {xs ys : List String} (hxs : ∀ x ∈ xs, '\n' ∉ x.toList)
    (hys : ∀ y ∈ ys, '\n' ∉ y.toList) (h : unlines xs = unlines ys) : xs = ys := by
  have hsplit := splitOn_unlines hxs
  rw [h, splitOn_unlines hys] at hsplit
  exact List.map_injective_iff.2 (fun _ _ => String.toList_inj.1)
    (List.append_cancel_right hsplit).symm

end Text

/-! ## Dumps -/

theorem dumpText_eq_unlines (spans : Bool) (ts : List Token) :
    dumpText spans ts = Text.unlines (ts.map (·.line spans)) := by
  rw [dumpText, Text.unlines, List.map_map]
  rfl

theorem newline_not_mem_of_mem_lines {spans : Bool} {ts : List Token} :
    ∀ line ∈ ts.map (·.line spans), '\n' ∉ line.toList := by
  intro line h
  obtain ⟨t, -, rfl⟩ := List.mem_map.1 h
  exact t.newline_not_mem_line spans

theorem map_line_eq_iff {spans : Bool} {ts us : List Token} :
    ts.map (·.line spans) = us.map (·.line spans) ↔ List.Forall₂ (Token.ShowsAs spans) ts us := by
  rw [← List.forall₂_eq_eq_eq, List.forall₂_map_left_iff, List.forall₂_map_right_iff]
  simp only [Token.line_eq_iff]

theorem map_line_true (ts : List Token) :
    ts.map (·.line true) =
      List.zipWith (fun t line => t.range ++ line) ts (ts.map (·.line false)) := by
  rw [List.zipWith_map_right, List.zipWith_self]
  rfl

namespace Listing
variable {l : Listing} {a : Alphabet} {spans : Bool}

theorem dump_of_ok {ts : Array Token} (h : (Lexer.ofString l.content a).tokens.1 = .ok ts) :
    l.dump ⟨a, spans⟩ = .ok (dumpText spans ts.toList) := by
  rw [dump, tokens, h]
  rfl

theorem dump_of_error {f : Fault} (h : (Lexer.ofString l.content a).tokens.1 = .error f) :
    l.dump ⟨a, spans⟩ = .error ⟨f, (Report.ofFault f).render l⟩ := by
  rw [dump, tokens, h]
  rfl

end Listing

/-- **A dump is unambiguous.** Two lists of tokens have the same dump exactly if they have the same
length and show the same at each place: kind and value, and lines and columns if ranges are shown.
A dump has one line for each token, since no line has a line feed in it. The dump of a listing is
that of its tokens, with ranges or without; the one with ranges is the other one with a range put
before each line. A listing that does not tokenize has neither, and both fail alike. -/
theorem dump_unambiguous :
    (∀ spans ts us, dumpText spans ts = dumpText spans us ↔
      List.Forall₂ (Token.ShowsAs spans) ts us) ∧
    (∀ spans (t : Token), '\n' ∉ (t.line spans).toList) ∧
    (∀ spans ts, (dumpText spans ts).toList.splitOn '\n' =
      ts.map (fun t => (t.line spans).toList) ++ [[]]) ∧
    ∀ (l : Listing) (a : Alphabet),
      match (Lexer.ofString l.content a).tokens.1 with
      | .error f => ∀ spans, l.dump ⟨a, spans⟩ = .error ⟨f, (Report.ofFault f).render l⟩
      | .ok ts => (∀ spans, l.dump ⟨a, spans⟩ = .ok (dumpText spans ts.toList)) ∧
          ∃ lines : List String, lines.length = ts.size ∧
            (∀ line ∈ lines, '\n' ∉ line.toList) ∧
            l.dump ⟨a, false⟩ = .ok (Text.unlines lines) ∧
            l.dump ⟨a, true⟩ =
              .ok (Text.unlines (List.zipWith (fun t line => t.range ++ line) ts.toList lines)) := by
  refine ⟨fun spans ts us => ?_, fun spans t => t.newline_not_mem_line spans,
    fun spans ts => ?_, fun l a => ?_⟩
  · rw [dumpText_eq_unlines, dumpText_eq_unlines, ← map_line_eq_iff]
    exact ⟨Text.unlines_inj newline_not_mem_of_mem_lines newline_not_mem_of_mem_lines,
      congrArg Text.unlines⟩
  · rw [dumpText_eq_unlines, Text.splitOn_unlines newline_not_mem_of_mem_lines, List.map_map]
    rfl
  · cases h : (Lexer.ofString l.content a).tokens.1 with
    | error f => exact fun spans => Listing.dump_of_error h
    | ok ts =>
      have hdump : ∀ spans, l.dump ⟨a, spans⟩ = .ok (dumpText spans ts.toList) :=
        fun spans => Listing.dump_of_ok h
      refine ⟨hdump, ts.toList.map (·.line false), ?_, newline_not_mem_of_mem_lines, ?_, ?_⟩
      · rw [List.length_map, Array.length_toList]
      · rw [← dumpText_eq_unlines, hdump]
      · rw [← map_line_true, ← dumpText_eq_unlines, hdump]

end PLZero
