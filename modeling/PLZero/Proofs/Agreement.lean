import PLZero.Proofs.Dumps
import PLZero.Proofs.Tiling

/-! Texts on which the alphabets agree. The alphabets differ on the underscore and on the letters
outside ASCII, and on nothing else; without these characters a text is read alike under both, and
under any change from one to the other.

* `Alphabet.isCommon` holds of the characters that both alphabets treat alike.
* `Lexer.seen_pullWith`: before such characters, the alphabet of a pull does not matter.
* `Lexer.seen_pulls`, `Lexer.results_pulls`: nor do those of a row of pulls, which give the run.
* `Lexer.alphabets_agree`: the same of whole texts, from any state of a session, and of dumps. -/
namespace PLZero
set_option autoImplicit false

open Text (isLetter inRanges inRangesFrom)

theorem takeWhile_congr {p q : Char → Bool} {cs : List Char} (h : ∀ c ∈ cs, p c = q c) :
    cs.takeWhile p = cs.takeWhile q := by
  induction cs with
  | nil => rfl
  | cons c cs ih =>
    obtain ⟨hc, hcs⟩ := List.forall_mem_cons.1 h
    rw [List.takeWhile_cons, List.takeWhile_cons, hc, ih hcs]

/-! ## Common characters -/

namespace Alphabet

/-- Whether `c` is neither an underscore nor a letter outside ASCII. -/
def isCommon (c : Char) : Bool := c != '_' && (decide (c.toNat < 128) || !isLetter c)

/-- Of the ASCII characters, the underscore alone starts names in one alphabet only. -/
theorem inRangesFrom_startRanges :
    ∀ n < 128, n ≠ 95 → inRangesFrom n unicode.startRanges = inRangesFrom n ascii.startRanges := by
  decide +kernel

theorem startsName_ascii_of_le {c : Char} (h : 128 ≤ c.toNat) : ascii.startsName c = false := by
  rw [startsName_eq, ← Bool.not_eq_true, Text.inRanges_iff ascii.ascending_startRanges]
  rintro ⟨r, hr, -, hle⟩
  have hlast : ∀ r ∈ ascii.startRanges, r.last < 128 := by decide
  have hlt := hlast r hr
  omega

section Common
variable {a : Alphabet} {gap tail rest cs : List Char} {c : Char}

theorem startsName_of_isCommon (h : isCommon c = true) (a b : Alphabet) :
    a.startsName c = b.startsName c := by
  have hsame : unicode.startsName c = ascii.startsName c := by
    rw [isCommon, Bool.and_eq_true, bne_iff_ne, Bool.or_eq_true, decide_eq_true_eq,
      Bool.not_eq_true'] at h
    obtain ⟨hc, hletter⟩ := h
    by_cases hn : c.toNat < 128
    · rw [startsName_eq, startsName_eq]
      exact inRangesFrom_startRanges c.toNat hn fun hu => hc (Char.toNat_inj.1 hu)
    · rw [startsName_ascii_of_le (Nat.le_of_not_lt hn)]
      exact hletter.resolve_left hn
  cases a <;> cases b <;> first | rfl | exact hsame | exact hsame.symm

theorem continuesName_of_isCommon (h : isCommon c = true) (a b : Alphabet) :
    a.continuesName c = b.continuesName c := by
  rw [continuesName_eq, continuesName_eq, startsName_of_isCommon h a b]

theorem lexemeTail_of_isCommon (h : ∀ d ∈ c :: cs, isCommon d = true) (a b : Alphabet) :
    a.lexemeTail c cs = b.lexemeTail c cs := by
  obtain ⟨hc, hcs⟩ := List.forall_mem_cons.1 h
  unfold lexemeTail
  rw [startsName_of_isCommon hc a b,
    takeWhile_congr fun d hd => continuesName_of_isCommon (hcs d hd) a b]

theorem meaning_of_isCommon (h : isCommon c = true) (a b : Alphabet) (tail : List Char) :
    a.meaning c tail = b.meaning c tail := by
  unfold meaning
  rw [startsName_of_isCommon h a b]

theorem Leads.of_isCommon (h : a.Leads gap c tail rest)
    (hc : ∀ d ∈ c :: (tail ++ rest), isCommon d = true) (b : Alphabet) :
    b.Leads gap c tail rest where
  blank := h.blank
  head := h.head
  munch := by rw [lexemeTail_of_isCommon hc b a, h.munch]

end Common

end Alphabet

open Alphabet (isCommon)

/-! ## Runs and pulls -/

namespace Pull

/-- What a pull shows: its result, and the input behind it. -/
def seen (x : Pull) : Pulled × Input := (x.result, x.after.input)

theorem seen_eq_iff {x y : Pull} :
    x.seen = y.seen ↔ x.result = y.result ∧ x.after.input = y.after.input := Prod.ext_iff

end Pull

theorem Input.mem_rest_of_mem_opening {i : Input} {c : Char} (h : c ∈ i.opening.rest) :
    c ∈ i.rest := by
  obtain ⟨ps, -, hrest, -⟩ := opening_tiled (.refl i)
  rw [hrest]
  exact List.mem_append_right _ h

namespace Lexer

theorem runAt_of_isCommon {cs : List Char} (h : ∀ c ∈ cs, isCommon c = true) (a b : Alphabet)
    (p : Position) : runAt a p cs = runAt b p cs := by
  induction cs using Alphabet.text_induction (a := a) generalizing p with
  | blank gap hg => rw [runAt_of_blank hg, runAt_of_blank hg]
  | lexeme gap c tail rest hl ih =>
    have hlexeme : ∀ d ∈ c :: (tail ++ rest), isCommon d = true := fun d hd =>
      h d (List.mem_append_right gap hd)
    have hrest : ∀ d ∈ rest, isCommon d = true := fun d hd => hlexeme d (by simp [hd])
    rw [runAt_of_leads hl, runAt_of_leads (hl.of_isCommon hlexeme b), ih hrest,
      Alphabet.meaning_of_isCommon (hlexeme c List.mem_cons_self) a b]

theorem mem_rest_of_mem_pull {l : Lexer} {c : Char} (h : c ∈ l.pull.after.input.rest) :
    c ∈ l.input.rest := by
  obtain ⟨ps, -, hrest, -⟩ := pull_tiled (.refl l.input)
  rw [hrest]
  exact List.mem_append_right _ h

/-- Pulls that bring their alphabets with them need the input only. -/
theorem pulls_of_input {l m : Lexer} (h : m.input = l.input) (as : List Alphabet) :
    m.pulls as = l.pulls as := by
  cases as with
  | nil => rfl
  | cons a as => rw [pulls, pulls, pullWith, pullWith, h]

section Common
variable {l : Lexer} (h : ∀ c ∈ l.input.rest, isCommon c = true)
include h

theorem run_of_isCommon (a b : Alphabet) :
    run { l with alphabet := a } = run { l with alphabet := b } := by
  rw [run_eq_runAt, run_eq_runAt]
  exact runAt_of_isCommon (fun c hc => h c (Input.mem_rest_of_mem_opening hc)) a b _

theorem seen_pullWith (a b : Alphabet) : (l.pullWith a).seen = (l.pullWith b).seen := by
  have hopening : ∀ c ∈ l.input.opening.rest, isCommon c = true := fun c hc =>
    h c (Input.mem_rest_of_mem_opening hc)
  unfold pullWith Pull.seen pull
  rcases next_cases { l with alphabet := a } with hn | ⟨gap, c, tail, rest, hn⟩
  · have hb : AtEnd { l with alphabet := b } l.input.opening.rest := ⟨rfl, hn.blank⟩
    rw [hn.next_eq, hb.next_eq]
  · have htext : l.input.opening.rest = gap ++ (c :: tail ++ rest) := hn.text
    rw [htext] at hopening
    have hlexeme : ∀ d ∈ c :: (tail ++ rest), isCommon d = true := fun d hd =>
      hopening d (List.mem_append_right gap hd)
    have hlead := hn.leads.of_isCommon hlexeme b
    have hb : AtLexeme { l with alphabet := b } gap c tail rest :=
      ⟨hn.text, hlead.blank, hlead.head, hlead.munch⟩
    have hmeaning := Alphabet.meaning_of_isCommon (hlexeme c List.mem_cons_self) a b tail
    rw [hn.next_eq, hb.next_eq]
    dsimp only
    rw [hmeaning]

theorem isCommon_of_mem_pullWith (a : Alphabet) :
    ∀ c ∈ (l.pullWith a).after.input.rest, isCommon c = true := fun c hc =>
  h c (mem_rest_of_mem_pull (l := { l with alphabet := a }) hc)

theorem seen_pulls {as bs : List Alphabet} (hlength : as.length = bs.length) :
    (l.pulls as).map Pull.seen = (l.pulls bs).map Pull.seen := by
  induction as generalizing l bs with
  | nil =>
    obtain rfl := List.length_eq_zero_iff.1 hlength.symm
    rfl
  | cons a as ih =>
    cases bs with
    | nil => cases hlength
    | cons b bs =>
      have hseen := seen_pullWith h a b
      obtain ⟨-, hafter⟩ := Pull.seen_eq_iff.1 hseen
      -- The lexers left behind differ in their alphabets, but their next pulls bring others.
      rw [pulls, pulls, List.map_cons, List.map_cons, hseen, pulls_of_input hafter.symm,
        ih (isCommon_of_mem_pullWith h a) (Nat.succ.inj hlength)]

/-- A row of pulls, as many as the run has, gives the run. -/
theorem results_pulls {as : List Alphabet} (hlength : as.length = l.run.length) :
    (l.pulls as).map (·.result) = l.run := by
  induction as generalizing l with
  | nil => exact absurd (List.length_eq_zero_iff.1 hlength.symm) l.run_ne_nil
  | cons a as ih =>
    have hseen : (l.pullWith a).seen = l.pull.seen := seen_pullWith h a l.alphabet
    obtain ⟨hresult, hafter⟩ := Pull.seen_eq_iff.1 hseen
    have hpull : l.pull = ⟨l.next.1, l.next.2⟩ := rfl
    rw [pulls, List.map_cons, hresult, pulls_of_input hafter, hpull]
    cases he : isEnd l.next.1 with
    | true =>
      rw [run_of_end he] at hlength ⊢
      obtain rfl : as = [] := List.length_eq_zero_iff.1 (Nat.succ.inj hlength)
      rfl
    | false =>
      have hnext : ∀ c ∈ l.next.2.input.rest, isCommon c = true :=
        isCommon_of_mem_pullWith h l.alphabet
      rw [run_of_not_end he] at hlength ⊢
      rw [ih hnext (Nat.succ.inj hlength)]

end Common

theorem session_rest_subset (s : String) (a : Alphabet) (acts : List Action) :
    ∀ c ∈ ((ofString s a).performAll acts).input.rest, c ∈ s.toList := by
  obtain ⟨read, hs⟩ := session_stands s a acts
  intro c hc
  rw [hs.cut]
  exact List.mem_append_right _ hc

end Lexer

/-- **The alphabets agree on common characters.** A text without underscores and without letters
outside ASCII gives the same run under both alphabets, from any state of a session; so do pulls that
change the alphabet on their way, and each of them leaves the same input behind. The dumps of such a
text are the same. -/
theorem Lexer.alphabets_agree (s : String) (hs : ∀ c ∈ s.toList, isCommon c = true) :
    (∀ acts : List Action,
      let l := (ofString s default).performAll acts
      run { l with alphabet := .unicode } = run { l with alphabet := .ascii } ∧
      (∀ as : List Alphabet, as.length = l.run.length → (l.pulls as).map (·.result) = l.run) ∧
      ∀ as bs : List Alphabet, as.length = bs.length →
        (l.pulls as).map Pull.seen = (l.pulls bs).map Pull.seen) ∧
    ∀ (name : String) (spans : Bool),
      (Listing.mk name s).dump ⟨.unicode, spans⟩ = (Listing.mk name s).dump ⟨.ascii, spans⟩ := by
  refine ⟨fun acts => ?_, fun name spans => ?_⟩
  · dsimp only
    generalize hl : (ofString s default).performAll acts = l
    have hrest : ∀ c ∈ l.input.rest, isCommon c = true := fun c hc =>
      hs c (session_rest_subset s default acts c (hl ▸ hc))
    exact ⟨run_of_isCommon hrest .unicode .ascii, fun _ => results_pulls hrest,
      fun _ _ => seen_pulls hrest⟩
  · exact Listing.dump_congr rfl (run_of_isCommon (l := ofString s .unicode) hs .unicode .ascii)

/-- A text with a mark, a blank and a digit that are not ASCII, and a literal that is too large. -/
theorem Lexer.alphabets_agree_over_faults :
    let s := "\ufeffx1\u3000٣ 99999999999"
    let l := (ofString s default).performAll [.next, .switch .ascii]
    (∀ c ∈ s.toList, isCommon c = true) ∧
    l.run = [.error ⟨.invalidInput, ⟨8, 1, 4⟩⟩, .error ⟨.integerOverflow, ⟨11, 1, 6⟩⟩,
      .ok (.endAt ⟨22, 1, 17⟩)] ∧
    (l.pulls [.unicode, .ascii, .unicode]).map (·.result) = l.run ∧
    (Listing.mk "a.pl0" s).dump ⟨.unicode, true⟩ = (Listing.mk "a.pl0" s).dump ⟨.ascii, true⟩ := by
  intro s l
  have hcommon : s.toList.all isCommon = true := by decide +kernel
  have hs : ∀ c ∈ s.toList, isCommon c = true := List.all_eq_true.1 hcommon
  have hrun : l.run = [.error ⟨.invalidInput, ⟨8, 1, 4⟩⟩, .error ⟨.integerOverflow, ⟨11, 1, 6⟩⟩,
      .ok (.endAt ⟨22, 1, 17⟩)] := by decide +kernel
  obtain ⟨hsession, hdump⟩ := alphabets_agree s hs
  obtain ⟨-, hpulls, -⟩ := hsession [.next, .switch .ascii]
  exact ⟨hs, hrun, hpulls _ (congrArg List.length hrun).symm, hdump "a.pl0" true⟩

/-- An underscore is where the alphabets part. -/
example : (Lexer.ofString "_" .unicode).run ≠ (Lexer.ofString "_" .ascii).run := by decide +kernel

end PLZero
