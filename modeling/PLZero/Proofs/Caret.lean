import PLZero.Dump
import PLZero.Proofs.FaultPlaces
import PLZero.Proofs.LineTable

/-! What the report of a fault points at. The report shows the line of the fault and a caret below;
the caret stands below the character at which the fault lies.

* `Listing.lineAt?_of_cut` says what the line of a place shows: all that was written on it so far
  and what follows up to its end. Trimming takes nothing of it that is not at the end.
* `Listing.columns` are the characters of a shown line that fill columns;
  `Listing.columns_of_cut`: the column of a place counts those before it.
* `Listing.length_repr_le_gutter`: every line number fits the gutter.
* `Fault.Cause.Rejects` says which character is at fault. -/
namespace PLZero
set_option autoImplicit false

open Text (bytes slice? row alignRight lastLine linesBefore trimLineEnd lineStartsAfter markOf body)

/-! ## Shown lines -/

namespace Text

theorem trimLineEnd_newline (cs : List Char) : trimLineEnd (cs ++ ['\n']) = trimLineEnd cs :=
  List.rdropWhile_concat_pos _ _ _ (by decide)

theorem trimLineEnd_append {c : Char} (hn : c ≠ '\n') (hr : c ≠ '\r') (cs ds : List Char) :
    trimLineEnd (cs ++ c :: ds) = cs ++ c :: trimLineEnd ds := by
  have hc : (c == '\n' || c == '\r') = false := by simp [hn, hr]
  have hcut : (cs ++ c :: ds).reverse = ds.reverse ++ c :: cs.reverse := by simp
  unfold trimLineEnd
  rw [hcut, List.dropWhile_append]
  split
  · next h =>
    rw [List.dropWhile_cons_of_neg (by simp [hc]), List.isEmpty_iff.1 h]
    simp
  · simp

theorem lastLine_append_of_mem {cs ds : List Char} (h : '\n' ∈ ds) :
    lastLine (cs ++ ds) = lastLine ds := by
  unfold lastLine List.rtakeWhile
  rw [List.reverse_append, List.takeWhile_append, if_neg]
  intro hlen
  have hall := List.takeWhile_eq_self_iff.1
    ((List.takeWhile_prefix (· != '\n')).eq_of_length hlen) '\n' (List.mem_reverse.2 h)
  exact absurd hall (by decide)

theorem lastLine_eq_self {cs : List Char} (h : '\n' ∉ cs) : lastLine cs = cs := by
  refine List.rtakeWhile_eq_self_iff.2 fun c hc => ?_
  have hne : c ≠ '\n' := fun e => h (e ▸ hc)
  simpa using hne

theorem slice?_self (cs : List Char) (i : Nat) : (slice? cs i i).getD [] = [] := by
  unfold slice?
  rw [if_pos (Nat.le_refl i)]
  cases charsIn 0 cs i with
  | none => rfl
  | some n => simp

/-- The next line begins behind the line feed that ends this one, if there is one. -/
theorem head?_lineStartsAfter (n : Nat) (cs : List Char) :
    (lineStartsAfter n cs).head? =
      (cs.dropWhile (· != '\n')).head?.map fun _ => n + bytes (cs.takeWhile (· != '\n')) + 1 := by
  induction cs generalizing n with
  | nil => rfl
  | cons c cs ih =>
    rw [lineStartsAfter]
    by_cases hc : c = '\n'
    · subst hc
      rfl
    · have hd : (c :: cs).dropWhile (· != '\n') = cs.dropWhile (· != '\n') :=
        List.dropWhile_cons_of_pos (by simp [hc])
      have ht : (c :: cs).takeWhile (· != '\n') = c :: cs.takeWhile (· != '\n') :=
        List.takeWhile_cons_of_pos (by simp [hc])
      rw [if_neg hc, ih, hd, ht, bytes_cons, Nat.add_assoc n]

end Text

namespace Listing
variable {l : Listing} {read rest : List Char}

theorem getElem?_lineStarts_succ (h : l.content.toList = read ++ rest) :
    l.lineStarts[read.count '\n' + 1]? = (lineStartsAfter (bytes read) rest).head? := by
  have hlen := length_lineStarts_read read
  rw [lineStarts_of_cut h, List.getElem?_append_right (by omega), hlen, Nat.sub_self,
    List.head?_eq_getElem?]

theorem lineAt?_of_cut (h : l.content.toList = read ++ rest) :
    l.lineAt? (read.count '\n' + 1) =
      some (String.ofList (trimLineEnd (lastLine read ++ rest.takeWhile (· != '\n')))) := by
  have hread : linesBefore read ++ lastLine read = read := List.rdropWhile_append_rtakeWhile
  have hrest := List.takeWhile_append_dropWhile (p := (· != '\n')) (l := rest)
  have hnext := getElem?_lineStarts_succ h
  rw [Text.head?_lineStartsAfter] at hnext
  rw [lineAt?, getElem?_lineStarts h]
  dsimp only
  rw [hnext]
  generalize rest.takeWhile (· != '\n') = more at hrest ⊢
  cases hd : rest.dropWhile (· != '\n') with
  | nil =>
    -- The line is the last one and goes on to the end of the text.
    rw [hd, List.append_nil] at hrest
    have hcut : l.content.toList = linesBefore read ++ (lastLine read ++ more ++ []) := by
      rw [h, ← hrest, List.append_nil, ← List.append_assoc, hread]
    have hsize : l.content.utf8ByteSize =
        bytes (linesBefore read) + bytes (lastLine read ++ more) := by
      rw [Text.utf8ByteSize_eq_bytes, hcut, List.append_nil, Text.bytes_append]
    have hslice := Text.slice?_append (linesBefore read) (lastLine read ++ more) []
    rw [← hcut, ← hsize] at hslice
    rw [List.head?_nil, Option.map_none, Option.getD_none, hslice, Option.map_some]
  | cons d later =>
    have hnl : d = '\n' := by
      have hstop := stop_of_dropWhile (· != '\n') rest d (by rw [hd]; rfl)
      simpa using hstop
    subst hnl
    rw [hd] at hrest
    have hcut : l.content.toList =
        linesBefore read ++ (lastLine read ++ more ++ ['\n'] ++ later) := by
      have hre : linesBefore read ++ (lastLine read ++ more ++ ['\n'] ++ later) =
          linesBefore read ++ lastLine read ++ (more ++ '\n' :: later) := by simp
      rw [hre, hread, hrest, h]
    have hnewline : bytes ['\n'] = 1 := by decide
    have hend : bytes read + bytes more + 1 =
        bytes (linesBefore read) + bytes (lastLine read ++ more ++ ['\n']) := by
      have hsum := congrArg bytes hread
      rw [Text.bytes_append] at hsum
      rw [Text.bytes_append, Text.bytes_append, hnewline]
      omega
    have hslice := Text.slice?_append (linesBefore read) (lastLine read ++ more ++ ['\n']) later
    rw [← hcut, ← hend] at hslice
    rw [List.head?_cons, Option.map_some, Option.getD_some, hslice, Option.map_some,
      Text.trimLineEnd_newline]

/-! ## Columns -/

/-- The characters of line `k` that fill columns: a byte order mark at the start of the text does
not. -/
def columns (k : Nat) (line : String) : List Char :=
  if k = 1 ∧ line.toList.head? = some byteOrderMark then line.toList.drop 1 else line.toList

theorem columns_markOf {s : String} {shown : List Char}
    (hs : s.toList.head? = (markOf s ++ shown).head?) :
    columns 1 (String.ofList (markOf s ++ shown)) = shown := by
  unfold columns
  rw [String.toList_ofList]
  by_cases hm : s.toList.head? = some byteOrderMark
  · have hmark : markOf s = [byteOrderMark] := by simp [markOf, hm]
    rw [hmark, if_pos ⟨rfl, rfl⟩]
    rfl
  · have hmark := Text.markOf_eq_nil hm
    rw [hs, hmark] at hm
    rw [hmark, if_neg fun h => hm h.2]
    rfl

/-- Behind a mark that was passed over, the columns of the last line are those written on it. -/
theorem columns_of_cut {s : String} {before shown rest : List Char}
    (h : s.toList = markOf s ++ before ++ rest) (hs : shown.head? = rest.head?) :
    columns (1 + (markOf s ++ before).count '\n')
      (String.ofList (lastLine (markOf s ++ before) ++ shown)) = lastLine before ++ shown := by
  have hmark := Text.newline_not_mem_markOf s
  by_cases hb : '\n' ∈ before
  · have hpos : 0 < (markOf s ++ before).count '\n' :=
      List.count_pos_iff.2 (List.mem_append_right _ hb)
    rw [Text.lastLine_append_of_mem hb, columns, if_neg (by omega), String.toList_ofList]
  · have hnone : '\n' ∉ markOf s ++ before := by simp [hmark, hb]
    rw [Text.lastLine_eq_self hnone, Text.lastLine_eq_self hb, List.count_eq_zero_of_not_mem hnone,
      List.append_assoc]
    refine columns_markOf ?_
    rw [h, List.append_assoc, List.head?_append, List.head?_append, List.head?_append,
      List.head?_append, hs]

theorem length_repr_le_gutter {n : Nat} (h : n ≤ l.lineCount) : n.repr.length ≤ l.gutter := by
  have hcount : l.lineCount < 10 ^ l.lineCount.repr.length :=
    (Nat.length_repr_le_iff Nat.length_repr_pos).1 (Nat.le_refl _)
  have hn : n.repr.length ≤ l.lineCount.repr.length :=
    (Nat.length_repr_le_iff Nat.length_repr_pos).2 (by omega)
  unfold gutter
  omega

end Listing

/-! ## The character at fault -/

/-- Whether the character `c` behind `before` is at fault for this cause: a literal that is too
large begins with it, or it is no part of any lexeme. -/
def Fault.Cause.Rejects (a : Alphabet) (before : List Char) (c : Char) (after : List Char) :
    Fault.Cause → Prop
  | integerOverflow => isDigit c = true ∧ (∀ d ∈ before.getLast?, a.continuesName d = false) ∧
      maxInteger < Nat.ofDigitChars 10 ((c :: after).takeWhile isDigit) 0
  | invalidInput => isBlank c = false ∧ a.continuesName c = false ∧ Punctuation.ofChar? c = none

theorem Fault.Cause.Rejects.isBlank {a : Alphabet} {before after : List Char} {c : Char}
    {cause : Fault.Cause} (h : cause.Rejects a before c after) : isBlank c = false := by
  cases cause with
  | integerOverflow => exact isBlank_of_continuesName (a.continuesName_of_isDigit h.1)
  | invalidInput => exact h.1

theorem FaultOf.exists_rejects {a : Alphabet} {s : String} {f : Fault} (h : FaultOf a s f) :
    ∃ before c after, body s = before ++ c :: after ∧
      f.place = (Position.behind (markOf s)).advanceBy before ∧
      f.cause.Rejects a (markOf s ++ before) c after := by
  cases h with
  | invalidInput before after c cut noBlank noName noSign =>
    exact ⟨before, c, after, cut, rfl, noBlank, noName, noSign⟩
  | integerOverflow before name after cut inside first last digits large =>
    cases name with
    | nil => exact absurd rfl digits
    | cons c name =>
      have hc : isDigit c = true := by
        by_contra hc
        exact digits (List.takeWhile_cons_of_neg hc)
      refine ⟨before, c, name ++ after, cut, rfl, hc, ?_, ?_⟩
      · intro d hd
        rw [List.getLast?_append] at hd
        cases hb : before.getLast? with
        | some e =>
          rw [hb] at hd first
          exact first d hd
        | none =>
          -- Nothing but a mark stands before the literal.
          rw [hb, Option.none_or] at hd
          have hmem := List.mem_of_getLast? hd
          unfold markOf at hmem
          split at hmem
          · rw [List.mem_singleton.1 hmem]
            exact continuesName_byteOrderMark a
          · cases hmem
      · have hdigits := takeWhile_isDigit_of_name inside last
        rw [List.cons_append] at hdigits
        rw [hdigits]
        exact large

/-! ## Reports -/

namespace Listing

/-- An extent on a line of the listing is shown in three lines. -/
theorem underlined?_of_lineAt? {l : Listing} {e : Extent} {line : String}
    (h : l.lineAt? e.line.toNat = some line) :
    l.underlined? e = some ("\n".intercalate [
      "--> " ++ l.name ++ ":" ++ e.line.toNat.repr ++ ":" ++ e.column.toNat.repr,
      alignRight l.gutter e.line.toNat.repr ++ " | " ++ line,
      row l.gutter ' ' ++ " | " ++ row (e.column.toNat - 1) ' ' ++ row (l.caretCount e) '^']) := by
  unfold underlined?
  rw [h, Option.map_some, String.intercalate_cons_cons, String.intercalate_cons_cons,
    String.intercalate_singleton, location]
  simp only [String.append_assoc]

theorem render_of_lineAt? {l : Listing} {f : Fault} {line : String}
    (h : l.lineAt? f.place.line.toNat = some line) :
    (Report.ofFault f).render l = "\n".intercalate [
      "error[" ++ f.cause.code ++ "]: " ++ f.cause.description,
      "--> " ++ l.name ++ ":" ++ f.place.line.toNat.repr ++ ":" ++ f.place.column.toNat.repr,
      alignRight l.gutter f.place.line.toNat.repr ++ " | " ++ line,
      row l.gutter ' ' ++ " | " ++ row (f.place.column.toNat - 1) ' ' ++ "^"] := by
  have hcarets : l.caretCount (.between f.place f.place) = 1 := by
    have hnone := Text.slice?_self l.content.toList f.place.offset
    unfold caretCount Extent.between
    rw [hnone]
    rfl
  have hunder := underlined?_of_lineAt? (e := .between f.place f.place) h
  rw [hcarets] at hunder
  have hrender : (Report.ofFault f).render l =
      "error[" ++ f.cause.code ++ "]: " ++ f.cause.description ++ "\n"
        ++ (l.underlined? (.between f.place f.place)).getD
          (l.location (.between f.place f.place)) := rfl
  rw [hrender, hunder, Option.getD_some]
  exact (String.intercalate_cons_of_ne_nil (List.cons_ne_nil _ _)).symm

/-- The places in the body of a text are located in its listing. -/
theorem locates_of_body (l : Listing) (hl : l.content.length ≤ UInt32.size - 2)
    {before rest : List Char} (h : body l.content = before ++ rest) :
    l.Locates (l.content.toList.head? == some byteOrderMark) (markOf l.content ++ before) rest
      ((Position.behind (markOf l.content)).advanceBy before) := by
  obtain ⟨hstands, hrest⟩ := Input.stands_opening_ofString l.content
  rw [h] at hrest
  have hthere := hstands.advance before.length
  rw [hrest, List.take_left, List.nil_append] at hthere
  have hloc := @Input.Stands.located l.name l.content
    (l.content.toList.head? == some byteOrderMark) _ _ hthere hl
  rw [Input.advance_rest_of_eq hrest, hthere.here] at hloc
  exact hloc

theorem tokens_eq_error {l : Listing} {a : Alphabet} {r : Rejected} (h : l.tokens a = .error r) :
    FaultOf a l.content r.fault ∧ r.report = (Report.ofFault r.fault).render l := by
  unfold tokens at h
  split at h
  · cases h
  · next f hf =>
    cases h
    have hmem := List.mem_of_mem_head? ((Lexer.tokens_eq_error_iff _ f).1 hf)
    exact ⟨Lexer.mem_faults_run_iff.1 hmem, rfl⟩

/-- **Reports point at the character at fault.** A listing that does not tokenize is rejected with
a report of four lines: the cause, the place, the line of the place behind its number, and a single
caret. The caret stands below the character at the offset of the fault, which is the one that is
rejected; line numbers never run over their column. -/
theorem report_points_at_fault (l : Listing) (hl : l.content.length ≤ UInt32.size - 2)
    (a : Alphabet) (r : Rejected) (h : l.tokens a = .error r) :
    let number := r.fault.place.line.toNat
    let column := r.fault.place.column.toNat
    let width := max 3 l.lineCount.repr.length
    ∃ line before c after,
      l.lineAt? number = some line ∧
      r.report = "\n".intercalate [
        "error[" ++ r.fault.cause.code ++ "]: " ++ r.fault.cause.description,
        "--> " ++ l.name ++ ":" ++ number.repr ++ ":" ++ column.repr,
        alignRight width number.repr ++ " | " ++ line,
        row width ' ' ++ " | " ++ row (column - 1) ' ' ++ "^"] ∧
      number.repr.length ≤ width ∧ 1 ≤ column ∧
      column - 1 < (columns number line).length ∧ (columns number line)[column - 1]? = some c ∧
      l.content.toList = before ++ c :: after ∧ r.fault.place.offset = bytes before ∧
      r.fault.cause.Rejects a before c after := by
  intro number column width
  obtain ⟨hfault, hreport⟩ := tokens_eq_error h
  obtain ⟨before, c, after, hbody, hplace, hrejects⟩ := hfault.exists_rejects
  have hloc := l.locates_of_body hl hbody
  rw [← hplace] at hloc
  have hnumber : number = 1 + (markOf l.content ++ before).count '\n' := hloc.line
  have hcolumn : column = 1 + (lastLine before).length := by
    have hcounted : column = _ := hloc.column
    rw [hcounted]
    by_cases hm : l.content.toList.head? = some byteOrderMark <;> simp [markOf, hm]
  have hblank := hrejects.isBlank
  have hn : c ≠ '\n' := by
    rintro rfl
    exact absurd hblank (by decide)
  have hr : c ≠ '\r' := by
    rintro rfl
    exact absurd hblank (by decide)
  have hline := lineAt?_of_cut hloc.cut
  rw [List.takeWhile_cons_of_pos (by simp [hn]), Text.trimLineEnd_append hn hr, Nat.add_comm,
    ← hnumber] at hline
  have hhead : (c :: trimLineEnd (after.takeWhile (· != '\n'))).head? = (c :: after).head? := rfl
  have hcols := columns_of_cut hloc.cut hhead
  rw [← hnumber] at hcols
  refine ⟨_, markOf l.content ++ before, c, after, hline, hreport.trans (render_of_lineAt? hline),
    length_repr_le_gutter hloc.lineCount.2, by omega, ?_, ?_, hloc.cut, hloc.offset, hrejects⟩
  · rw [hcols, hcolumn]
    simp
  · rw [hcols, hcolumn]
    simp

/-- Behind a mark, a letter of two bytes and a blank, and before a line end of two characters. -/
theorem report_points_at_marked_line :
    let l : Listing := ⟨"a.pl0", "\ufeffé 2147483648\r\n"⟩
    ∃ r, l.tokens .unicode = .error r ∧ r.fault = ⟨.integerOverflow, ⟨6, 1, 3⟩⟩ ∧
      ∃ line before c after, l.lineAt? 1 = some line ∧ (columns 1 line)[2]? = some c ∧
        l.content.toList = before ++ c :: after ∧ bytes before = 6 ∧
        Fault.Cause.integerOverflow.Rejects .unicode before c after := by
  intro l
  have hfault : (Lexer.ofString l.content .unicode).tokens.1 =
      .error ⟨.integerOverflow, ⟨6, 1, 3⟩⟩ := by
    rw [Lexer.tokens_eq_error_iff, Lexer.faults_run]
    decide +kernel
  have htokens : l.tokens .unicode =
      .error ⟨⟨.integerOverflow, ⟨6, 1, 3⟩⟩,
        (Report.ofFault ⟨.integerOverflow, ⟨6, 1, 3⟩⟩).render l⟩ := by
    unfold tokens
    rw [hfault]
  obtain ⟨line, before, c, after, hline, -, -, -, -, hc, hcut, hoffset, hrejects⟩ :=
    report_points_at_fault l (by decide) .unicode _ htokens
  exact ⟨_, htokens, rfl, line, before, c, after, hline, hc, hcut, hoffset.symm, hrejects⟩

end Listing

end PLZero
