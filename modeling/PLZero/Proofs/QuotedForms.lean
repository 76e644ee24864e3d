import Mathlib
import PLZero.Proofs.Pull
import PLZero.Text.Quoted

/-! Quoted forms and decimal numbers can be told from what follows them. The escaped forms of
characters are a code of which no word is the beginning of another one, and no word begins with the
quote that ends the text, so a quoted form shows where it ends and what it is the form of.

* `Text.SelfDelimiting` says this of any way to write things down.
* `Text.Escaped` has the three sorts of escaped forms; `Text.escaped_escape` finds one of them.
* `Text.selfDelimiting_escape`, `Text.selfDelimiting_quoted` and `Text.selfDelimiting_quotedChar`:
  escaped characters and quoted forms are self-delimiting.
* `Text.selfDelimiting_decimal`: so are decimal numbers with a sign behind them. -/
namespace PLZero.Text
set_option autoImplicit false

/-! ## Forms that show where they end -/

/-- The form of a thing tells which thing it is, whatever follows the form. -/
def SelfDelimiting {α : Type} (f : α → List Char) : Prop :=
  ∀ x y xs ys, f x ++ xs = f y ++ ys → x = y ∧ xs = ys

namespace SelfDelimiting
variable {α β : Type} {f : α → List Char} {g : β → List Char}

theorem injective (h : SelfDelimiting f) : Function.Injective f := by
  intro x y hxy
  exact (h x y [] [] (by rw [hxy])).1

theorem pair (hf : SelfDelimiting f) (hg : SelfDelimiting g) :
    SelfDelimiting fun p : α × β => f p.1 ++ g p.2 := by
  intro p q xs ys h
  rw [List.append_assoc, List.append_assoc] at h
  obtain ⟨hfst, hrest⟩ := hf _ _ _ _ h
  obtain ⟨hsnd, hrest⟩ := hg _ _ _ _ hrest
  exact ⟨Prod.ext hfst hsnd, hrest⟩

theorem comp (hf : SelfDelimiting f) {k : β → α} (hk : Function.Injective k) :
    SelfDelimiting fun b => f (k b) := by
  intro x y xs ys h
  obtain ⟨hxy, hrest⟩ := hf _ _ _ _ h
  exact ⟨hk hxy, hrest⟩

/-- A row of forms is told from what follows it, if a sign with which no form begins ends it. -/
theorem row (hf : SelfDelimiting f) {e : Char} (he : ∀ x, ∃ c cs, f x = c :: cs ∧ c ≠ e) :
    SelfDelimiting fun xs : List α => xs.flatMap f ++ [e] := by
  intro as bs xs ys h
  rw [List.append_assoc, List.append_assoc, List.singleton_append, List.singleton_append] at h
  induction as generalizing bs with
  | nil =>
    cases bs with
    | nil => exact ⟨rfl, (List.cons.inj h).2⟩
    | cons b bs =>
      obtain ⟨c, cs, hb, hc⟩ := he b
      rw [List.flatMap_cons, hb] at h
      exact absurd (List.cons.inj h).1.symm hc
  | cons a as ih =>
    cases bs with
    | nil =>
      obtain ⟨c, cs, ha, hc⟩ := he a
      rw [List.flatMap_cons, ha] at h
      exact absurd (List.cons.inj h).1 hc
    | cons b bs =>
      rw [List.flatMap_cons, List.flatMap_cons, List.append_assoc, List.append_assoc] at h
      obtain ⟨hab, hrest⟩ := hf _ _ _ _ h
      obtain ⟨htail, hxs⟩ := ih bs hrest
      exact ⟨by rw [hab, htail], hxs⟩

end SelfDelimiting

/-- Two stretches of one class of characters are the same, if what follows them is the same text
and does not go on with a character of the class. -/
theorem append_inj_of_stop {p : Char → Bool} {cs ds xs ys : List Char}
    (hcs : ∀ c ∈ cs, p c = true) (hds : ∀ d ∈ ds, p d = true) (hxs : ∀ x ∈ xs.head?, p x = false)
    (hys : ∀ y ∈ ys.head?, p y = false) (h : cs ++ xs = ds ++ ys) : cs = ds ∧ xs = ys := by
  have hcut : cs = ds := by
    rw [← takeWhile_append_of_stop hcs hxs, h, takeWhile_append_of_stop hds hys]
  subst hcut
  exact ⟨rfl, List.append_cancel_left h⟩

/-- Forms of one class of characters are self-delimiting with a sign behind them that is not of the
class. -/
theorem selfDelimiting_of_stop {α : Type} {f : α → List Char} {p : Char → Bool} {e : Char}
    (hf : Function.Injective f) (hp : ∀ x, ∀ c ∈ f x, p c = true) (he : p e = false) :
    SelfDelimiting fun x => f x ++ [e] := by
  have hstop : ∀ xs : List Char, ∀ c ∈ ([e] ++ xs).head?, p c = false := by
    intro xs c hc
    obtain rfl : e = c := Option.some.inj hc
    exact he
  intro x y xs ys h
  rw [List.append_assoc, List.append_assoc] at h
  obtain ⟨hxy, hrest⟩ := append_inj_of_stop (hp x) (hp y) (hstop xs) (hstop ys) h
  exact ⟨hf hxy, List.append_cancel_left hrest⟩

/-! ## Numbers -/

theorem isDigit_of_mem_repr {n : Nat} {c : Char} (h : c ∈ n.repr.toList) : c.isDigit = true := by
  rw [Nat.repr_eq_ofList_toDigits, String.toList_ofList] at h
  exact Nat.isDigit_of_mem_toDigits (by decide) (by decide) h

theorem repr_toList_injective : Function.Injective fun n : Nat => n.repr.toList := by
  intro m n h
  exact Nat.repr_inj.1 (String.toList_inj.1 h)

theorem selfDelimiting_decimal {e : Char} (he : e.isDigit = false) :
    SelfDelimiting fun n : Nat => n.repr.toList ++ [e] :=
  selfDelimiting_of_stop repr_toList_injective (fun _ _ => isDigit_of_mem_repr) he

/-- The hexadecimal digits, with letters in lower case. -/
def hexDigits : List Char := "0123456789abcdef".toList

theorem digitChar_injective {m n : Nat} (hm : m < 16) (hn : n < 16)
    (h : m.digitChar = n.digitChar) : m = n := by
  have hall : ∀ m < 16, ∀ n < 16, m.digitChar = n.digitChar → m = n := by decide
  exact hall m hm n hn h

theorem digitChar_mem_hexDigits {n : Nat} (h : n < 16) : n.digitChar ∈ hexDigits := by
  have hall : ∀ n < 16, n.digitChar ∈ hexDigits := by decide
  exact hall n h

theorem mem_hexDigits_of_mem_toDigits {n : Nat} {c : Char} (h : c ∈ Nat.toDigits 16 n) :
    c ∈ hexDigits := by
  induction n using Nat.strongRecOn with
  | _ n ih =>
    rw [Nat.toDigits_eq_if (by decide)] at h
    split at h
    · next hlt =>
      rw [List.mem_singleton.1 h]
      exact digitChar_mem_hexDigits hlt
    · next hge =>
      rcases List.mem_append.1 h with h | h
      · exact ih (n / 16) (by omega) h
      · rw [List.mem_singleton.1 h]
        exact digitChar_mem_hexDigits (Nat.mod_lt _ (by decide))

theorem toDigits_injective : Function.Injective (Nat.toDigits 16) := by
  intro m n h
  induction m using Nat.strongRecOn generalizing n with
  | _ m ih =>
    rw [Nat.toDigits_eq_if (by decide), Nat.toDigits_eq_if (b := 16) (n := n) (by decide)] at h
    -- Both have one digit, or both have a last one behind others.
    split at h
    · next hm =>
      split at h
      · next hn => exact digitChar_injective hm hn (List.cons.inj h).1
      · have happ : [] ++ [m.digitChar] = Nat.toDigits 16 (n / 16) ++ [(n % 16).digitChar] := h
        exact absurd (List.append_inj' happ rfl).1.symm Nat.toDigits_ne_nil
    · next hm =>
      split at h
      · have happ : Nat.toDigits 16 (m / 16) ++ [(m % 16).digitChar] = [] ++ [n.digitChar] := h
        exact absurd (List.append_inj' happ rfl).1 Nat.toDigits_ne_nil
      · obtain ⟨hinit, hlast⟩ := List.append_inj' h rfl
        have hdiv := ih (m / 16) (by omega) hinit
        have hmod := digitChar_injective (Nat.mod_lt m (by decide)) (Nat.mod_lt n (by decide))
          (List.cons.inj hlast).1
        omega

theorem selfDelimiting_codeEscape : SelfDelimiting codeEscape := by
  have hdigits : SelfDelimiting fun c : Char => Nat.toDigits 16 c.toNat ++ ['\x7d'] :=
    (selfDelimiting_of_stop (p := hexDigits.contains) toDigits_injective
      (fun _ _ hc => List.contains_iff_mem.2 (mem_hexDigits_of_mem_toDigits hc))
      (by decide)).comp fun _ _ => Char.toNat_inj.1
  intro c d xs ys h
  unfold codeEscape at h
  rw [List.append_assoc, List.append_assoc, List.append_assoc, List.append_assoc] at h
  refine hdigits c d xs ys ?_
  rw [List.append_assoc, List.append_assoc]
  exact List.append_cancel_left h

/-! ## Escaped characters -/

/-- A double quote or a single one. -/
def IsQuote (q : Char) : Prop := q = '"' ∨ q = '\''

/-- The character for which a letter stands behind a backslash. -/
def meant : Char → Char
  | '0' => '\x00'
  | 't' => '\t'
  | 'r' => '\r'
  | 'n' => '\n'
  | c => c

/-- The forms in which a character can be written. -/
inductive Escaped (c : Char) : List Char → Prop
  | short (s : Char) (h : meant s = c) (hu : s ≠ 'u') (hn : s ≠ '\n') : Escaped c ['\\', s]
  | code : Escaped c (codeEscape c)
  | itself (hb : c ≠ '\\') (hn : c ≠ '\n') : Escaped c [c]

theorem meant_of_shortEscape {c s : Char} (h : shortEscape c = some s) :
    meant s = c ∧ s ≠ 'u' ∧ s ≠ '\n' := by
  unfold shortEscape at h
  split at h <;> cases h <;> decide

theorem ne_of_shortEscape {c : Char} (h : shortEscape c = none) : c ≠ '\\' ∧ c ≠ '\n' := by
  constructor <;> rintro rfl <;> cases h

theorem escaped_escape {q : Char} (hq : IsQuote q) (c : Char) : Escaped c (escape q c) := by
  unfold escape
  split
  · next s hs =>
    obtain ⟨hm, hu, hn⟩ := meant_of_shortEscape hs
    exact .short s hm hu hn
  · next hs =>
    split
    · next hc =>
      subst hc
      rcases hq with rfl | rfl
      · exact .short _ rfl (by decide) (by decide)
      · exact .short _ rfl (by decide) (by decide)
    · split
      · exact .code
      · exact .itself (ne_of_shortEscape hs).1 (ne_of_shortEscape hs).2

theorem Escaped.inj {c d : Char} {cs ds xs ys : List Char} (hc : Escaped c cs) (hd : Escaped d ds)
    (h : cs ++ xs = ds ++ ys) : c = d ∧ xs = ys := by
  cases hc with
  | short s hs hsu =>
    cases hd with
    | short t ht =>
      obtain ⟨rfl, rfl⟩ : s = t ∧ xs = ys := by simpa using h
      exact ⟨hs.symm.trans ht, rfl⟩
    | code =>
      obtain ⟨hu, -⟩ : s = 'u' ∧ _ := by simpa [codeEscape] using h
      exact absurd hu hsu
    | itself hb =>
      obtain ⟨hd, -⟩ : '\\' = d ∧ _ := by simpa using h
      exact absurd hd.symm hb
  | code =>
    cases hd with
    | short t _ htu =>
      obtain ⟨hu, -⟩ : 'u' = t ∧ _ := by simpa [codeEscape] using h
      exact absurd hu.symm htu
    | code => exact selfDelimiting_codeEscape c d xs ys h
    | itself hb =>
      obtain ⟨hd, -⟩ : '\\' = d ∧ _ := by simpa [codeEscape] using h
      exact absurd hd.symm hb
  | itself hb =>
    cases hd with
    | short t =>
      obtain ⟨hc, -⟩ : c = '\\' ∧ _ := by simpa using h
      exact absurd hc hb
    | code =>
      obtain ⟨hc, -⟩ : c = '\\' ∧ _ := by simpa [codeEscape] using h
      exact absurd hc hb
    | itself => simpa using h

theorem selfDelimiting_escape {q : Char} (hq : IsQuote q) : SelfDelimiting (escape q) :=
  fun c d _ _ h => (escaped_escape hq c).inj (escaped_escape hq d) h

theorem Escaped.newline_not_mem {c : Char} {cs : List Char} (h : Escaped c cs) : '\n' ∉ cs := by
  cases h with
  | short s _ _ hn => simp [hn.symm]
  | code =>
    have hdigits : '\n' ∉ Nat.toDigits 16 c.toNat := fun h =>
      absurd (mem_hexDigits_of_mem_toDigits h) (by decide)
    simp [codeEscape, hdigits]
  | itself _ hn => simp [hn.symm]

/-- No escaped form begins with the quote. -/
theorem exists_escape_eq_cons {q : Char} (hq : IsQuote q) (c : Char) :
    ∃ d ds, escape q c = d :: ds ∧ d ≠ q := by
  have hslash : '\\' ≠ q := by rcases hq with rfl | rfl <;> decide
  unfold escape
  split
  · exact ⟨_, _, rfl, hslash⟩
  · split
    · exact ⟨_, _, rfl, hslash⟩
    · next hc =>
      split
      · exact ⟨_, _, rfl, hslash⟩
      · exact ⟨_, _, rfl, hc⟩

/-! ## Quoted forms -/

theorem toList_quoted (s : String) :
    (quoted s).toList = '"' :: (s.toList.flatMap (escape '"') ++ ['"']) := String.toList_ofList

theorem toList_quotedChar (c : Char) :
    (quotedChar c).toList = '\'' :: (escape '\'' c ++ ['\'']) := String.toList_ofList

theorem selfDelimiting_quoted : SelfDelimiting fun s => (quoted s).toList := by
  have hq : IsQuote '"' := .inl rfl
  have hrow : SelfDelimiting fun s : String => s.toList.flatMap (escape '"') ++ ['"'] :=
    ((selfDelimiting_escape hq).row (exists_escape_eq_cons hq)).comp
      fun _ _ => String.toList_inj.1
  intro s t xs ys h
  simp only [toList_quoted] at h
  exact hrow s t xs ys (List.cons.inj h).2

theorem selfDelimiting_quotedChar : SelfDelimiting fun c => (quotedChar c).toList := by
  intro c d xs ys h
  simp only [toList_quotedChar, List.cons_append, List.append_assoc] at h
  obtain ⟨hcd, hrest⟩ := selfDelimiting_escape (.inr rfl) c d _ _ (List.cons.inj h).2
  exact ⟨hcd, (List.cons.inj hrest).2⟩

theorem newline_not_mem_quoted (s : String) : '\n' ∉ (quoted s).toList := by
  have hrow : '\n' ∉ s.toList.flatMap (escape '"') := by
    intro h
    obtain ⟨c, -, hc⟩ := List.mem_flatMap.1 h
    exact (escaped_escape (.inl rfl) c).newline_not_mem hc
  rw [toList_quoted]
  simp [hrow]

theorem newline_not_mem_quotedChar (c : Char) : '\n' ∉ (quotedChar c).toList := by
  have hc := (escaped_escape (.inr rfl : IsQuote '\'') c).newline_not_mem
  rw [toList_quotedChar]
  simp [hc]

end PLZero.Text
