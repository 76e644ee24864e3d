import PLZero.Proofs.DistinctKeys
import PLZero.Settings

/-! Which documents are settings, and which settings they are. A document is told by what is found
in it at the paths of its keys. So neither the order of the keys counts nor the way in which its
tables are written.

* `Table.found?` is what is found at a path; in a table with distinct keys,
  `Table.found?_key_iff` finds every entry, and `Table.found?_of_entry` what is below it.
* `Settings.Section` says what a section of one field is asked for, `Settings.Fits` which documents
  are settings, and `Settings.Asks` which settings.
* `Settings.ofTable_eq_ok_iff` is the reader of documents, told by these.
* `Settings.ofText_strict` puts this together for texts. -/
namespace PLZero
set_option autoImplicit false

/-! ## Paths -/

namespace Toml
variable {es : List (Key × Item)} {t u : Table} {name k : String} {x : Misfit.Found}

/-- What is found at a path of keys, all of which but the last lead to tables. -/
def Table.found? : List String → Table → Option Misfit.Found
  | [], _ => some .map
  | name :: path, t =>
    match lookup? name t.entries with
    | none => none
    | some (.table u) => found? path u
    | some v => if path = [] then some v.found else none

namespace Table

theorem found?_key_iff (h : (keyNames t.entries).Nodup) :
    t.found? [name] = some x ↔ ∃ e ∈ t.entries, e.1.name = name ∧ e.2.found = x := by
  have hlookup : t.found? [name] = (lookup? name t.entries).map Item.found := by
    rw [found?]
    cases lookup? name t.entries with
    | none => rfl
    | some v => cases v <;> rfl
  rw [hlookup, Option.map_eq_some_iff]
  constructor
  · rintro ⟨v, hv, rfl⟩
    obtain ⟨e, he, hname, rfl⟩ := (lookup?_eq_some_iff h).1 hv
    exact ⟨e, he, hname, rfl⟩
  · rintro ⟨e, he, hname, rfl⟩
    exact ⟨e.2, (lookup?_eq_some_iff h).2 ⟨e, he, hname, rfl⟩, rfl⟩

theorem found?_of_entry (h : (keyNames t.entries).Nodup) {e : Key × Item} (he : e ∈ t.entries)
    (hu : e.2 = .table u) (path : List String) : t.found? (e.1.name :: path) = u.found? path := by
  rw [found?, (lookup?_eq_some_iff h).2 ⟨e, he, rfl, hu⟩]

theorem found?_of_not_mem (h : (keyNames t.entries).Nodup) (hname : name ∉ keyNames t.entries)
    (path : List String) : t.found? (name :: path) = none := by
  have hnone : lookup? name t.entries = none := by
    refine Option.eq_none_iff_forall_ne_some.2 fun v hv => hname ?_
    obtain ⟨e, he, hname, -⟩ := (lookup?_eq_some_iff h).1 hv
    exact List.mem_map.2 ⟨e, he, hname⟩
  rw [found?, hnone]

theorem exists_of_map {β : Type} {f : Table → β} {b : β} {text : String}
    (h : (Table.ofText text).toOption.map f = some b) :
    ∃ t, Table.ofText text = .ok t ∧ f t = b := by
  cases ht : Table.ofText text with
  | error e =>
    rw [ht] at h
    cases h
  | ok t =>
    rw [ht] at h
    exact ⟨t, rfl, Option.some.inj h⟩

end Table

theorem Item.eq_table_of_found {v : Item} (h : v.found = .map) : ∃ t, v = .table t := by
  cases v with
  | table t => exact ⟨t, rfl⟩
  | scalar s e => cases h
  | array items e => cases h
  | tables ts => cases h

end Toml

namespace Settings

open Toml (Key Item Table keyNames)

/-! ## Values -/

theorem ofName?_eq_some_iff {n : String} {a : Alphabet} :
    Alphabet.ofName? n = some a ↔ n = a.name := by
  constructor
  · intro h
    have hname := List.find?_some h
    exact (beq_iff_eq.1 hname).symm
  · rintro rfl
    cases a <;> rfl

theorem alphabetOf_eq_ok_iff (k : Key) (v : Item) (a : Alphabet) :
    alphabetOf k v = .ok a ↔ v.found = .scalar (.string a.name) := by
  constructor
  · intro h
    unfold alphabetOf at h
    split at h
    · split at h
      · next b hb =>
        cases h
        rw [Toml.Item.found, ofName?_eq_some_iff.1 hb]
      · cases h
    · cases h
  · intro h
    cases v with
    | scalar s e =>
      obtain rfl : s = .string a.name := Misfit.Found.scalar.inj h
      rw [alphabetOf, ofName?_eq_some_iff.2 rfl]
    | array items e => cases h
    | table t => cases h
    | tables ts => cases h

theorem flagOf_eq_ok_iff (k : Key) (v : Item) (b : Bool) :
    flagOf k v = .ok b ↔ v.found = .scalar (.boolean b) := by
  constructor
  · intro h
    unfold flagOf at h
    split at h
    · cases h
      rfl
    · cases h
  · intro h
    cases v with
    | scalar s e =>
      obtain rfl : s = .boolean b := Misfit.Found.scalar.inj h
      rfl
    | array items e => cases h
    | table t => cases h
    | tables ts => cases h

/-! ## Sections -/

/-- The table has no field but `field`, which asks for `a`: what is found in it is `shape a`, or
there is none and `a` is what counts then. -/
structure OneField {α : Type} (t : Table) (field : String) (shape : α → Misfit.Found)
    (absent a : α) : Prop where
  only : ∀ k x, t.found? [k] = some x → k = field ∧ x = shape a
  missing : t.found? [field] = none → a = absent

/-- The section `name` of the document `t` asks for `a` in its only field. -/
structure Section {α : Type} (t : Table) (name field : String) (shape : α → Misfit.Found)
    (absent a : α) : Prop where
  isTable : ∀ x, t.found? [name] = some x → x = .map
  only : ∀ k x, t.found? [name, k] = some x → k = field ∧ x = shape a
  missing : t.found? [name, field] = none → a = absent

/-- Where entries have the name, they are read as `a`; where none has it, `a` is what counts
then. -/
structure Settles {α : Type} (es : List (Key × Item)) (name : String)
    (read : Key × Item → Except Misfit α) (absent a : α) : Prop where
  named : ∀ e ∈ es, e.1.name = name → read e = .ok a
  unnamed : name ∉ keyNames es → a = absent

section
variable {α : Type} {t u : Table} {name field : String} {shape : α → Misfit.Found} {absent a : α}
  {expected : Misfit.Expected} {read : Key → Item → Except Misfit α}
  {step : Key × Item → Except Misfit α} {es : List (Key × Item)} {e : Key × Item} {k : Key}
  {v : Item}

theorem settles_of_mem (h : (keyNames es).Nodup) (he : e ∈ es) (hname : e.1.name = name) :
    Settles es name step absent a ↔ step e = .ok a := by
  constructor
  · exact fun hs => hs.named e he hname
  · intro hok
    refine ⟨fun f hf hname' => ?_, fun hno => absurd (List.mem_map.2 ⟨e, he, hname⟩) hno⟩
    rw [List.inj_on_of_nodup_map h hf he (hname'.trans hname.symm)]
    exact hok

theorem settles_of_not_mem (h : name ∉ keyNames es) :
    Settles es name step absent a ↔ a = absent :=
  ⟨fun hs => hs.unnamed h, fun habsent =>
    ⟨fun e he hname => absurd (List.mem_map.2 ⟨e, he, hname⟩) h, fun _ => habsent⟩⟩

theorem settles_cons_of_ne (h : e.1.name ≠ name) :
    Settles (e :: es) name step absent a ↔ Settles es name step absent a := by
  have hmem : name ∈ keyNames (e :: es) ↔ name ∈ keyNames es := by
    simp [keyNames, Ne.symm h]
  constructor
  · exact fun hs => ⟨fun f hf => hs.named f (List.mem_cons_of_mem e hf),
      fun hno => hs.unnamed (mt hmem.1 hno)⟩
  · refine fun hs => ⟨?_, fun hno => hs.unnamed (mt hmem.2 hno)⟩
    rw [List.forall_mem_cons]
    exact ⟨fun hname => absurd hname h, hs.named⟩

theorem oneField_iff (h : (keyNames t.entries).Nodup) :
    OneField t field shape absent a ↔
      (∀ e ∈ t.entries, e.1.name = field ∧ e.2.found = shape a) ∧
      (t.entries = [] → a = absent) := by
  constructor
  · rintro ⟨honly, hmissing⟩
    refine ⟨fun e he => honly _ _ ((Table.found?_key_iff h).2 ⟨e, he, rfl, rfl⟩), fun hnil => ?_⟩
    refine hmissing (Table.found?_of_not_mem h ?_ [])
    rw [hnil]
    exact List.not_mem_nil
  · rintro ⟨hall, hnil⟩
    refine ⟨fun k x hx => ?_, fun hnone => hnil (List.eq_nil_iff_forall_not_mem.2 fun e he => ?_)⟩
    · obtain ⟨e, he, rfl, rfl⟩ := (Table.found?_key_iff h).1 hx
      exact hall e he
    · have hfound := (Table.found?_key_iff h).2 ⟨e, he, (hall e he).1, rfl⟩
      cases hnone.symm.trans hfound

/-- Keys are distinct, so no more than one of them has the name of the field. -/
theorem foldlM_eq_ok_iff (h : (keyNames es).Nodup)
    (hstep : ∀ e b, step e = .ok b → e.1.name = field) :
    es.foldlM (fun _ e => step e) absent = .ok a ↔
      (∀ e ∈ es, step e = .ok a) ∧ (es = [] → a = absent) := by
  match es with
  | [] =>
    constructor
    · intro hok
      cases hok
      exact ⟨List.forall_mem_nil _, fun _ => rfl⟩
    · rintro ⟨-, habsent⟩
      rw [habsent rfl]
      rfl
  | [e] =>
    rw [List.foldlM_cons, List.forall_mem_singleton]
    constructor
    · intro hok
      obtain ⟨b, hb, hok⟩ := Toml.ok_of_bind hok
      cases hok
      exact ⟨hb, fun hnil => by cases hnil⟩
    · rintro ⟨hok, -⟩
      rw [hok]
      rfl
  | e :: f :: es =>
    have hne : e.1.name ≠ f.1.name :=
      fun heq => (List.nodup_cons.1 h).1 (List.mem_map.2 ⟨f, List.mem_cons_self, heq.symm⟩)
    constructor
    · intro hok
      rw [List.foldlM_cons] at hok
      obtain ⟨b, hb, hok⟩ := Toml.ok_of_bind hok
      rw [List.foldlM_cons] at hok
      obtain ⟨c, hc, hok⟩ := Toml.ok_of_bind hok
      exact absurd ((hstep e b hb).trans (hstep f c hc).symm) hne
    · rintro ⟨hall, -⟩
      have he := hstep e a (hall e (by simp))
      have hf := hstep f a (hall f (by simp))
      exact absurd (he.trans hf.symm) hne

theorem sectionOf_eq_ok_iff (hread : ∀ k v a, read k v = .ok a ↔ v.found = shape a)
    (hv : v.Distinct) (hseq : v.found ≠ .sequence) :
    sectionOf expected field read absent k v = .ok a ↔
      ∃ u, v = .table u ∧ OneField u field shape absent a := by
  cases v with
  | scalar s e =>
    have hnone : ∀ b, sectionOf expected field read absent k (.scalar s e) ≠ .ok b := by
      intro b hb
      cases s <;> cases hb
    constructor
    · intro hok
      exact absurd hok (hnone a)
    · rintro ⟨u, hu, -⟩
      cases hu
  | array items e => exact absurd rfl hseq
  | tables ts => exact absurd rfl hseq
  | table u =>
    have hnames := hv.of_table.names
    let step (e : Key × Item) : Except Misfit α :=
      if e.1.name = field then read e.1 e.2
      else .error ⟨.unknownField e.1.name [field], e.1.extent⟩
    have hstep : ∀ e b, step e = .ok b ↔ e.1.name = field ∧ e.2.found = shape b := by
      intro e b
      rw [← hread e.1]
      simp only [step]
      split <;> simp [*]
    have hsection : sectionOf expected field read absent k (.table u) =
        u.entries.foldlM (fun _ e => step e) absent := rfl
    rw [hsection, foldlM_eq_ok_iff hnames fun e b he => ((hstep e b).1 he).1]
    simp only [hstep, ← oneField_iff hnames]
    constructor
    · exact fun hu => ⟨u, rfl, hu⟩
    · rintro ⟨u', hu', hfield⟩
      cases hu'
      exact hfield

theorem section_of_entry (h : (keyNames t.entries).Nodup) (he : e ∈ t.entries)
    (hu : e.2 = .table u) :
    Section t e.1.name field shape absent a ↔ OneField u field shape absent a := by
  have hbelow := Table.found?_of_entry h he hu
  constructor
  · rintro ⟨-, honly, hmissing⟩
    simp only [hbelow] at honly hmissing
    exact ⟨honly, hmissing⟩
  · rintro ⟨honly, hmissing⟩
    refine ⟨fun x hx => ?_, ?_, ?_⟩
    · rw [hbelow, Table.found?] at hx
      exact (Option.some.inj hx).symm
    · simpa only [hbelow] using honly
    · simpa only [hbelow] using hmissing

theorem section_of_not_mem (h : (keyNames t.entries).Nodup) (hname : name ∉ keyNames t.entries) :
    Section t name field shape absent a ↔ a = absent := by
  have hnone := Table.found?_of_not_mem h hname
  constructor
  · exact fun hs => hs.missing (hnone _)
  · intro habsent
    refine ⟨fun x hx => ?_, fun k x hx => ?_, fun _ => habsent⟩
    · cases (hnone _).symm.trans hx
    · cases (hnone _).symm.trans hx

theorem settles_iff_section (hread : ∀ k v a, read k v = .ok a ↔ v.found = shape a)
    (ht : t.Distinct) (hseq : t.found? [name] ≠ some .sequence) :
    Settles t.entries name (fun e => sectionOf expected field read absent e.1 e.2) absent a ↔
      Section t name field shape absent a := by
  by_cases hmem : name ∈ keyNames t.entries
  · obtain ⟨e, he, rfl⟩ := List.mem_map.1 hmem
    have hfound := (Table.found?_key_iff ht.names).2 ⟨e, he, rfl, rfl⟩
    rw [settles_of_mem ht.names he rfl,
      sectionOf_eq_ok_iff hread (ht.items e he) fun hv => hseq (hv ▸ hfound)]
    constructor
    · rintro ⟨u, hu, hfield⟩
      exact (section_of_entry ht.names he hu).2 hfield
    · intro hs
      obtain ⟨u, hu⟩ := e.2.eq_table_of_found (hs.isTable _ hfound)
      exact ⟨u, hu, (section_of_entry ht.names he hu).1 hs⟩
  · rw [settles_of_not_mem hmem, section_of_not_mem ht.names hmem]

end

/-! ## Documents -/

theorem addEntry_eq_ok_iff {s s' : Settings} {e : Key × Item} :
    addEntry s e = .ok s' ↔
      (e.1.name = "lexer" ∧ lexerSection e.1 e.2 = .ok s'.alphabet ∧ s'.spans = s.spans) ∨
      (e.1.name = "output" ∧ outputSection e.1 e.2 = .ok s'.spans ∧ s'.alphabet = s.alphabet) := by
  obtain ⟨a, b⟩ := s
  obtain ⟨a', b'⟩ := s'
  unfold addEntry
  by_cases hl : e.1.name = "lexer"
  · rw [if_pos hl]
    cases lexerSection e.1 e.2 <;> simp [hl, Except.map, eq_comm]
  · rw [if_neg hl]
    by_cases ho : e.1.name = "output"
    · rw [if_pos ho]
      cases outputSection e.1 e.2 <;> simp [ho, Except.map, eq_comm, and_comm]
    · rw [if_neg ho]
      simp [hl, ho]

theorem foldlM_addEntry_eq_ok_iff {es : List (Key × Item)} (h : (keyNames es).Nodup)
    {s s' : Settings} :
    es.foldlM addEntry s = .ok s' ↔
      (∀ e ∈ es, e.1.name = "lexer" ∨ e.1.name = "output") ∧
      Settles es "lexer" (fun e => lexerSection e.1 e.2) s.alphabet s'.alphabet ∧
      Settles es "output" (fun e => outputSection e.1 e.2) s.spans s'.spans := by
  induction es generalizing s with
  | nil =>
    obtain ⟨a, b⟩ := s
    obtain ⟨a', b'⟩ := s'
    rw [settles_of_not_mem List.not_mem_nil, settles_of_not_mem List.not_mem_nil]
    simp [pure, Except.pure, eq_comm]
  | cons e es ih =>
    obtain ⟨hnew, hrest⟩ : e.1.name ∉ keyNames es ∧ (keyNames es).Nodup := List.nodup_cons.1 h
    have hapart : "lexer" ≠ "output" := by decide
    rw [List.foldlM_cons, List.forall_mem_cons]
    constructor
    · intro hok
      obtain ⟨d, hd, hok⟩ := Toml.ok_of_bind hok
      obtain ⟨hnames, hlexer, houtput⟩ := (ih hrest).1 hok
      rcases addEntry_eq_ok_iff.1 hd with ⟨hname, hsection, hsame⟩ | ⟨hname, hsection, hsame⟩
      · rw [(settles_of_not_mem (hname ▸ hnew)).1 hlexer,
          settles_of_mem h List.mem_cons_self hname, settles_cons_of_ne (hname ▸ hapart), ← hsame]
        exact ⟨⟨.inl hname, hnames⟩, hsection, houtput⟩
      · rw [(settles_of_not_mem (hname ▸ hnew)).1 houtput,
          settles_of_mem h List.mem_cons_self hname, settles_cons_of_ne (hname ▸ hapart.symm),
          ← hsame]
        exact ⟨⟨.inr hname, hnames⟩, hlexer, hsection⟩
    · rintro ⟨⟨hname | hname, hnames⟩, hlexer, houtput⟩
      · rw [settles_of_mem h List.mem_cons_self hname] at hlexer
        rw [settles_cons_of_ne (hname ▸ hapart)] at houtput
        have hd : addEntry s e = .ok ⟨s'.alphabet, s.spans⟩ :=
          addEntry_eq_ok_iff.2 (.inl ⟨hname, hlexer, rfl⟩)
        rw [hd]
        exact (ih hrest).2 ⟨hnames, (settles_of_not_mem (hname ▸ hnew)).2 rfl, houtput⟩
      · rw [settles_of_mem h List.mem_cons_self hname] at houtput
        rw [settles_cons_of_ne (hname ▸ hapart.symm)] at hlexer
        have hd : addEntry s e = .ok ⟨s.alphabet, s'.spans⟩ :=
          addEntry_eq_ok_iff.2 (.inr ⟨hname, houtput, rfl⟩)
        rw [hd]
        exact (ih hrest).2 ⟨hnames, hlexer, (settles_of_not_mem (hname ▸ hnew)).2 rfl⟩

/-- Neither section is written as an array, and the alphabet is not written as a table. -/
structure Ordinary (t : Table) : Prop where
  lexer : t.found? ["lexer"] ≠ some .sequence
  output : t.found? ["output"] ≠ some .sequence
  charset : t.found? ["lexer", "charset"] ≠ some .map

theorem ofTable_eq_ok_iff {t : Table} (ht : t.Distinct) (ho : Ordinary t) {s : Settings} :
    ofTable t = .ok s ↔
      (∀ name x, t.found? [name] = some x → name = "lexer" ∨ name = "output") ∧
      Section t "lexer" "charset" (fun a : Alphabet => .scalar (.string a.name)) .unicode
        s.alphabet ∧
      Section t "output" "spans" (fun b => .scalar (.boolean b)) false s.spans := by
  have hlexer : Settles t.entries "lexer" (fun e => lexerSection e.1 e.2) .unicode s.alphabet ↔
      Section t "lexer" "charset" (fun a : Alphabet => .scalar (.string a.name)) .unicode
        s.alphabet :=
    settles_iff_section alphabetOf_eq_ok_iff ht ho.lexer
  have houtput : Settles t.entries "output" (fun e => outputSection e.1 e.2) false s.spans ↔
      Section t "output" "spans" (fun b => .scalar (.boolean b)) false s.spans :=
    settles_iff_section flagOf_eq_ok_iff ht ho.output
  have hnames : (∀ e ∈ t.entries, e.1.name = "lexer" ∨ e.1.name = "output") ↔
      ∀ name x, t.found? [name] = some x → name = "lexer" ∨ name = "output" := by
    simp only [Table.found?_key_iff ht.names]
    constructor
    · rintro h name x ⟨e, he, rfl, -⟩
      exact h e he
    · exact fun h e he => h _ _ ⟨e, he, rfl, rfl⟩
  rw [ofTable, foldlM_addEntry_eq_ok_iff ht.names, hnames, ← hlexer, ← houtput]
  rfl

/-! ## Texts -/

/-- The document is a configuration: all its keys are known, and each has a value that it can
have. -/
structure Fits (t : Table) : Prop where
  document : ∀ name x, t.found? [name] = some x → (name = "lexer" ∨ name = "output") ∧ x = .map
  lexer : ∀ name x, t.found? ["lexer", name] = some x →
    name = "charset" ∧ (x = .scalar (.string "unicode") ∨ x = .scalar (.string "ascii"))
  output : ∀ name x, t.found? ["output", name] = some x →
    name = "spans" ∧ ∃ b, x = .scalar (.boolean b)

/-- The settings `s` have what the document says, and the defaults where it says nothing. -/
structure Asks (t : Table) (s : Settings) : Prop where
  alphabet : t.found? ["lexer", "charset"] = some (.scalar (.string s.alphabet.name)) ∨
    t.found? ["lexer", "charset"] = none ∧ s.alphabet = .unicode
  spans : t.found? ["output", "spans"] = some (.scalar (.boolean s.spans)) ∨
    t.found? ["output", "spans"] = none ∧ s.spans = false

section
variable {α : Type} {t t' : Table} {name field : String} {shape : α → Misfit.Found} {absent a : α}
  {s : Settings}

theorem section_iff_value :
    Section t name field shape absent a ↔
      (∀ x, t.found? [name] = some x → x = .map) ∧
      (∀ k x, t.found? [name, k] = some x → k = field ∧ ∃ b, x = shape b) ∧
      (t.found? [name, field] = some (shape a) ∨
        t.found? [name, field] = none ∧ a = absent) := by
  constructor
  · rintro ⟨hmap, honly, hmissing⟩
    refine ⟨hmap, fun k x hx => ⟨(honly k x hx).1, a, (honly k x hx).2⟩, ?_⟩
    cases hx : t.found? [name, field] with
    | none => exact .inr ⟨rfl, hmissing hx⟩
    | some x => exact .inl (congrArg some (honly field x hx).2)
  · rintro ⟨hmap, honly, hvalue⟩
    refine ⟨hmap, fun k x hx => ?_, fun hnone => ?_⟩
    · obtain ⟨rfl, -⟩ := honly k x hx
      rcases hvalue with hvalue | ⟨hnone, -⟩
      · exact ⟨rfl, Option.some.inj (hx.symm.trans hvalue)⟩
      · cases hx.symm.trans hnone
    · rcases hvalue with hvalue | ⟨-, rfl⟩
      · cases hnone.symm.trans hvalue
      · rfl

theorem exists_value (shape : α → Misfit.Found) (absent : α)
    (honly : ∀ k x, t.found? [name, k] = some x → k = field ∧ ∃ b, x = shape b) :
    ∃ a, t.found? [name, field] = some (shape a) ∨
      t.found? [name, field] = none ∧ a = absent := by
  cases hx : t.found? [name, field] with
  | none => exact ⟨absent, .inr ⟨rfl, rfl⟩⟩
  | some x =>
    obtain ⟨-, b, rfl⟩ := honly field x hx
    exact ⟨b, .inl rfl⟩

theorem eq_name_iff {x : Misfit.Found} :
    (x = .scalar (.string "unicode") ∨ x = .scalar (.string "ascii")) ↔
      ∃ a : Alphabet, x = .scalar (.string a.name) := by
  constructor
  · rintro (rfl | rfl)
    · exact ⟨.unicode, rfl⟩
    · exact ⟨.ascii, rfl⟩
  · rintro ⟨_ | _, rfl⟩
    · exact .inl rfl
    · exact .inr rfl

theorem Fits.exists_asks (h : Fits t) : ∃ s, Asks t s := by
  obtain ⟨a, ha⟩ := exists_value (fun a : Alphabet => .scalar (.string a.name)) .unicode
    fun k x hx => ⟨(h.lexer k x hx).1, eq_name_iff.1 (h.lexer k x hx).2⟩
  obtain ⟨b, hb⟩ := exists_value _ false h.output
  exact ⟨⟨a, b⟩, ha, hb⟩

theorem ofTable_eq_ok_iff_asks (ht : t.Distinct) (ho : Ordinary t) :
    ofTable t = .ok s ↔ Fits t ∧ Asks t s := by
  rw [ofTable_eq_ok_iff ht ho, section_iff_value, section_iff_value]
  simp only [← eq_name_iff]
  constructor
  · rintro ⟨hnames, ⟨hlexer, hcharset, ha⟩, houtput, hspans, hb⟩
    refine ⟨⟨fun name x hx => ⟨hnames name x hx, ?_⟩, hcharset, hspans⟩, ha, hb⟩
    rcases hnames name x hx with rfl | rfl
    · exact hlexer x hx
    · exact houtput x hx
  · rintro ⟨⟨hdocument, hcharset, hspans⟩, ha, hb⟩
    exact ⟨fun name x hx => (hdocument name x hx).1,
      ⟨fun x hx => (hdocument _ x hx).2, hcharset, ha⟩,
      fun x hx => (hdocument _ x hx).2, hspans, hb⟩

/-! Nothing but what is found in a document counts. -/

theorem Ordinary.congr (h : Ordinary t) (hfound : ∀ path, t'.found? path = t.found? path) :
    Ordinary t' :=
  ⟨hfound _ ▸ h.lexer, hfound _ ▸ h.output, hfound _ ▸ h.charset⟩

theorem fits_congr (hfound : ∀ path, t'.found? path = t.found? path) : Fits t' ↔ Fits t := by
  constructor
  · rintro ⟨hdocument, hlexer, houtput⟩
    simp only [hfound] at hdocument hlexer houtput
    exact ⟨hdocument, hlexer, houtput⟩
  · rintro ⟨hdocument, hlexer, houtput⟩
    simp only [← hfound] at hdocument hlexer houtput
    exact ⟨hdocument, hlexer, houtput⟩

theorem asks_congr (hfound : ∀ path, t'.found? path = t.found? path) : Asks t' s ↔ Asks t s := by
  constructor
  · rintro ⟨ha, hb⟩
    rw [hfound] at ha hb
    exact ⟨ha, hb⟩
  · rintro ⟨ha, hb⟩
    rw [← hfound] at ha hb
    exact ⟨ha, hb⟩

end

variable {text : String} {t : Table} {s : Settings}

theorem ofText_eq_ok_iff (h : Table.ofText text = .ok t) :
    ofText text = .ok s ↔ ofTable t = .ok s := by
  rw [ofText, h]
  dsimp only
  cases ofTable t <;> simp

theorem ofText_eq_misfit_iff (h : Table.ofText text = .ok t) :
    (∃ m, ofText text = .error (.misfit m text)) ↔ ∃ m, ofTable t = .error m := by
  rw [ofText, h]
  dsimp only
  cases ofTable t <;> simp

/-- **A configuration is read strictly.** A document is accepted if and only if it has no sections
but `lexer` and `output`, nothing but a `charset` of a known name in the one and nothing but a flag
`spans` in the other. The settings are then what it says, with the defaults for what it leaves out;
any other document is a misfit. Two documents in which the same is found give the same settings,
however they are written. -/
theorem ofText_strict (h : Table.ofText text = .ok t) (ho : Ordinary t) :
    ((∃ s, ofText text = .ok s) ↔ Fits t) ∧
    (∀ s, ofText text = .ok s → Asks t s) ∧
    (¬Fits t → ∃ m, ofText text = .error (.misfit m text)) ∧
    ∀ text' t', Table.ofText text' = .ok t' → (∀ path, t'.found? path = t.found? path) →
      ∀ s, ofText text' = .ok s ↔ ofText text = .ok s := by
  have hok : ∀ s, ofText text = .ok s ↔ Fits t ∧ Asks t s := fun s => by
    rw [ofText_eq_ok_iff h, ofTable_eq_ok_iff_asks (Table.ofText_distinct h) ho]
  have hfits : (∃ s, ofText text = .ok s) ↔ Fits t := by
    constructor
    · rintro ⟨s, hs⟩
      exact ((hok s).1 hs).1
    · intro hf
      obtain ⟨s, hs⟩ := hf.exists_asks
      exact ⟨s, (hok s).2 ⟨hf, hs⟩⟩
  refine ⟨hfits, fun s hs => ((hok s).1 hs).2, fun hf => ?_, fun text' t' h' hfound s => ?_⟩
  · rw [ofText_eq_misfit_iff h]
    cases ht : ofTable t with
    | error m => exact ⟨m, rfl⟩
    | ok s => exact absurd (hfits.1 ⟨s, (ofText_eq_ok_iff h).2 ht⟩) hf
  · rw [hok, ofText_eq_ok_iff h',
      ofTable_eq_ok_iff_asks (Table.ofText_distinct h') (ho.congr hfound), fits_congr hfound,
      asks_congr hfound]

/-- The sections in the other order, one in braces and one as a dotted key. -/
theorem ofText_strict_dotted :
    ∃ t, Table.ofText "output = \x7b spans = true \x7d\nlexer.charset = 'ascii'\n" = .ok t ∧
      Ordinary t ∧ Fits t ∧ Asks t ⟨.ascii, true⟩ := by
  obtain ⟨t, h, hfound⟩ := Table.exists_of_map (show (Table.ofText
      "output = \x7b spans = true \x7d\nlexer.charset = 'ascii'\n").toOption.map
      (fun t => (t.found? ["lexer"], t.found? ["output"], t.found? ["lexer", "charset"])) =
        some (some .map, some .map, some (.scalar (.string "ascii"))) by decide +kernel)
  obtain ⟨hlexer, houtput, hcharset⟩ :
      t.found? ["lexer"] = some .map ∧ t.found? ["output"] = some .map ∧
        t.found? ["lexer", "charset"] = some (.scalar (.string "ascii")) := by
    simpa using hfound
  have ho : Ordinary t := ⟨by simp [hlexer], by simp [houtput], by simp [hcharset]⟩
  have hok : ofText "output = \x7b spans = true \x7d\nlexer.charset = 'ascii'\n" =
      .ok ⟨.ascii, true⟩ := by decide +kernel
  obtain ⟨hfits, hasks, -⟩ := ofText_strict h ho
  exact ⟨t, h, ho, hfits.1 ⟨_, hok⟩, hasks _ hok⟩

end Settings

end PLZero
