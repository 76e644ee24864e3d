import Mathlib.Data.List.Nodup
import PLZero.Proofs.ReaderResults
import PLZero.Toml.Statement

/-! The tables of a document that has been read have distinct keys, those in its values included.
So a key that is found in a table is the only one of its name there, wherever it stands.

* `Item.Distinct` and `Table.Distinct` say so, of an item and of a table with all that they hold.
* `Table.within_distinct` is what all statements have in common; `Draft.add_distinct` is the step
  for one statement.
* `Reader.value_gives` says it of the values that are read, by the depth of their nesting.
* `Table.ofText_distinct` says it of documents. -/
namespace PLZero.Toml
set_option autoImplicit false

/-! ## Trees -/

/-- The names of the keys, in their order. -/
def keyNames (es : List (Key × Item)) : List String := es.map (·.1.name)

mutual

/-- No table in the item has two entries of one name. -/
inductive Item.Distinct : Item → Prop
  | scalar (s : Scalar) (e : Extent) : Item.Distinct (.scalar s e)
  | array {items : List Item} (e : Extent) (h : ∀ v ∈ items, Item.Distinct v) :
    Item.Distinct (.array items e)
  | table {t : Table} (h : Table.Distinct t) : Item.Distinct (.table t)
  | tables {ts : List Table} (h : ∀ t ∈ ts, Table.Distinct t) : Item.Distinct (.tables ts)

/-- Neither the table nor any table in it has two entries of one name. -/
inductive Table.Distinct : Table → Prop
  | mk {es : List (Key × Item)} (o : Origin) (e : Option Extent) (names : (keyNames es).Nodup)
      (items : ∀ x ∈ es, Item.Distinct x.2) : Table.Distinct (.mk o es e)

end

variable {es es' : List (Key × Item)} {t u : Table} {key : Key}

namespace Table.Distinct

theorem names (h : t.Distinct) : (keyNames t.entries).Nodup := by
  cases h with
  | mk _ _ names _ => exact names

theorem items (h : t.Distinct) : ∀ x ∈ t.entries, x.2.Distinct := by
  cases h with
  | mk _ _ _ items => exact items

theorem empty (o : Origin) (e : Option Extent) : (Table.empty o e).Distinct :=
  .mk o e List.nodup_nil fun _ h => by cases h

end Table.Distinct

theorem Item.Distinct.of_table (h : (Item.table t).Distinct) : t.Distinct := by
  cases h with
  | table h => exact h

theorem Item.Distinct.of_tables {ts : List Table} (h : (Item.tables ts).Distinct) :
    ∀ t ∈ ts, t.Distinct := by
  cases h with
  | tables h => exact h

theorem mem_of_lookup? {name : String} {v : Item} (h : lookup? name es = some v) :
    ∃ x ∈ es, x.1.name = name ∧ x.2 = v := by
  obtain ⟨x, hx, rfl⟩ := Option.map_eq_some_iff.1 h
  exact ⟨x, List.mem_of_find?_eq_some hx, by simpa using List.find?_some hx, rfl⟩

theorem lookup?_eq_some_iff {name : String} {v : Item} (h : (keyNames es).Nodup) :
    lookup? name es = some v ↔ ∃ x ∈ es, x.1.name = name ∧ x.2 = v := by
  refine ⟨mem_of_lookup?, ?_⟩
  rintro ⟨x, hx, rfl, rfl⟩
  induction es with
  | nil => cases hx
  | cons y es ih =>
    rw [keyNames, List.map_cons, List.nodup_cons] at h
    rcases List.mem_cons.1 hx with rfl | hx
    · rw [lookup?, List.find?_cons_of_pos (by simp)]
      rfl
    · have hne : y.1.name ≠ x.1.name := fun heq => h.1 (heq ▸ List.mem_map_of_mem hx)
      rw [lookup?, List.find?_cons_of_neg (by simpa using hne)]
      exact ih h.2 hx

/-! ## Changes to a table -/

theorem ok_of_bind {ε α β : Type} {x : Except ε α} {f : α → Except ε β} {b : β}
    (h : (x >>= f) = .ok b) : ∃ a, x = .ok a ∧ f a = .ok b := by
  cases x with
  | error e => cases h
  | ok a => exact ⟨a, rfl, h⟩

theorem nodup_concat {names : List String} {name : String} (h : names.Nodup) (hn : name ∉ names) :
    (names ++ [name]).Nodup := by
  rw [← List.concat_eq_append]
  exact List.Nodup.concat hn h

/-- Changing one entry keeps the names, or adds that of a new key. -/
theorem alter_distinct {f : Option Item → Except Flaw.Cause Item}
    (hf : ∀ o v, (∀ x ∈ o, x.Distinct) → f o = .ok v → v.Distinct)
    (h : alter key f es = .ok es') (hes : ∀ x ∈ es, x.2.Distinct) :
    (∀ x ∈ es', x.2.Distinct) ∧ (keyNames es' = keyNames es ∨
      key.name ∉ keyNames es ∧ keyNames es' = keyNames es ++ [key.name]) := by
  induction es generalizing es' with
  | nil =>
    rw [alter] at h
    obtain ⟨v, hv, h⟩ := ok_of_bind h
    cases h
    have hvd := hf none v (fun _ hx => by cases hx) hv
    exact ⟨List.forall_mem_singleton.2 hvd, .inr ⟨List.not_mem_nil, rfl⟩⟩
  | cons x es ih =>
    obtain ⟨k, v⟩ := x
    obtain ⟨hx, hes⟩ := List.forall_mem_cons.1 hes
    rw [alter] at h
    split at h
    · obtain ⟨v', hv, h⟩ := ok_of_bind h
      cases h
      have hvd := hf (some v) v' (fun y hy => Option.some.inj hy ▸ hx) hv
      exact ⟨List.forall_mem_cons.2 ⟨hvd, hes⟩, .inl rfl⟩
    · next hne =>
      obtain ⟨rest, hrest, h⟩ := ok_of_bind h
      cases h
      obtain ⟨hitems, hnames⟩ := ih hrest hes
      refine ⟨List.forall_mem_cons.2 ⟨hx, hitems⟩, ?_⟩
      rcases hnames with hsame | ⟨hnew, hadded⟩
      · exact .inl (congrArg (k.name :: ·) hsame)
      · refine .inr ⟨?_, congrArg (k.name :: ·) hadded⟩
        rw [keyNames, List.map_cons, List.mem_cons, not_or]
        exact ⟨Ne.symm hne, hnew⟩

namespace Table

theorem alter_distinct {f : Option Item → Except Flaw.Cause Item}
    (hf : ∀ o v, (∀ x ∈ o, x.Distinct) → f o = .ok v → v.Distinct) (ht : t.Distinct)
    (h : t.alter key f = .ok u) : u.Distinct := by
  obtain ⟨es, hes, h⟩ := ok_of_bind h
  cases h
  obtain ⟨hitems, hnames⟩ := Toml.alter_distinct hf hes ht.items
  refine .mk _ _ ?_ hitems
  rcases hnames with hsame | ⟨hnew, hadded⟩
  · rw [hsame]
    exact ht.names
  · rw [hadded]
    exact nodup_concat ht.names hnew

theorem alterLast_distinct {f : Table → Except Flaw.Cause Table}
    (hf : ∀ t u, t.Distinct → f t = .ok u → u.Distinct) {ts us : List Table}
    (hts : ∀ t ∈ ts, t.Distinct) (h : alterLast f ts = .ok us) : ∀ u ∈ us, u.Distinct := by
  induction ts using alterLast.induct generalizing us with
  | case1 =>
    cases h
    exact hts
  | case2 t =>
    obtain ⟨u, hu, h⟩ := ok_of_bind h
    cases h
    exact List.forall_mem_singleton.2 (hf t u (hts t (List.mem_singleton_self t)) hu)
  | case3 t ts hne ih =>
    obtain ⟨ht, hts⟩ := List.forall_mem_cons.1 hts
    rw [alterLast] at h
    · obtain ⟨vs, hvs, h⟩ := ok_of_bind h
      cases h
      exact List.forall_mem_cons.2 ⟨ht, ih hts hvs⟩
    · exact hne

/-- What `f` keeps of the table at a path is kept of the table above it. -/
theorem within_distinct {w : Way} {f : Table → Except Flaw.Cause Table}
    (hf : ∀ t u, t.Distinct → f t = .ok u → u.Distinct) {path trail : List Key}
    (ht : t.Distinct) (h : within w f trail path t = .ok u) : u.Distinct := by
  induction path generalizing t u trail with
  | nil => exact hf t u ht h
  | cons k path ih =>
    refine alter_distinct (fun o v ho hv => ?_) ht h
    split at hv
    · obtain ⟨x, hx, hv⟩ := ok_of_bind hv
      cases hv
      exact .table (ih (.empty _ _) hx)
    · next x =>
      have hx := (ho _ rfl).of_table
      split at hv
      · cases hv
      · obtain ⟨y, hy, hv⟩ := ok_of_bind hv
        cases hv
        exact .table (ih hx hy)
    · next xs =>
      have hxs := (ho _ rfl).of_tables
      obtain ⟨ys, hys, hv⟩ := ok_of_bind hv
      cases hv
      exact .tables (alterLast_distinct (fun _ _ hx hy => ih hx hy) hxs hys)
    · cases hv

/-! ## Assignments and headers -/

theorem assign_distinct {w : Way} {home : Option (List String)} {path : List Key} {value : Item}
    (ht : t.Distinct) (hv : value.Distinct) (h : t.assign w home path key value = .ok u) :
    u.Distinct := by
  refine within_distinct (fun x y hx hy => ?_) ht h
  split at hy
  · cases hy
  · refine alter_distinct (fun o v ho hov => ?_) hx hy
    split at hov
    · cases hov
      exact hv
    · cases hov

theorem foldlM_assign_distinct {assigns : List (List Key × Key × Item)} (ht : t.Distinct)
    (ha : ∀ a ∈ assigns, a.2.2.Distinct)
    (h : assigns.foldlM (fun t a => t.assign .braces none a.1 a.2.1 a.2.2) t = .ok u) :
    u.Distinct := by
  induction assigns generalizing t with
  | nil =>
    cases h
    exact ht
  | cons a assigns ih =>
    obtain ⟨hv, ha⟩ := List.forall_mem_cons.1 ha
    rw [List.foldlM_cons] at h
    obtain ⟨s, hs, h⟩ := ok_of_bind h
    exact ih (assign_distinct ht hv hs) ha h

theorem inline_distinct {assigns : List (List Key × Key × Item)}
    (h : inline assigns = .ok es) (ha : ∀ a ∈ assigns, a.2.2.Distinct) (o : Origin)
    (e : Option Extent) : (mk o es e).Distinct := by
  obtain ⟨t, ht, h⟩ := ok_of_bind h
  cases h
  have hd := foldlM_assign_distinct (.empty _ _) ha ht
  exact .mk o e hd.names hd.items

theorem reach_distinct (h : t.Distinct) (v : Item) : (t.reach v).Distinct := by
  unfold reach
  split
  · exact .mk _ _ h.names h.items
  · exact h

/-- A table takes the place of what its key led to. -/
theorem replace_distinct {s : Table} (ht : t.Distinct) (hs : s.Distinct) :
    (mk t.origin (dropKey key.name t.entries ++ [(key, .table s)]) t.extent).Distinct := by
  refine .mk _ _ ?_ fun x hx => ?_
  · have hnew : key.name ∉ keyNames (dropKey key.name t.entries) := by
      intro hmem
      obtain ⟨x, hx, hname⟩ := List.mem_map.1 hmem
      have hne := (List.mem_filter.1 hx).2
      rw [hname] at hne
      simp at hne
    rw [keyNames, List.map_append, List.map_singleton]
    exact nodup_concat (ht.names.sublist (List.filter_sublist.map _)) hnew
  · rcases List.mem_append.1 hx with hx | hx
    · exact ht.items x (List.mem_filter.1 hx).1
    · rw [List.mem_singleton.1 hx]
      exact .table hs

theorem addHeader_distinct {path : List Key} {e : Extent} (ht : t.Distinct)
    (h : addHeader path key e t = .ok u) : u.Distinct := by
  unfold addHeader at h
  split at h
  · cases h
    exact replace_distinct ht (.empty _ _)
  · next s hs =>
    split at h
    · cases h
      obtain ⟨x, hx, -, hxs⟩ := mem_of_lookup? hs
      have hsd : s.Distinct := (hxs ▸ ht.items x hx).of_table
      exact replace_distinct ht (.mk _ _ hsd.names hsd.items)
    · cases h
  · cases h

theorem addElement_distinct {path : List Key} {e : Extent} (ht : t.Distinct)
    (h : addElement path key e t = .ok u) : u.Distinct := by
  refine alter_distinct (fun o v ho hv => ?_) ht h
  have hnew : (Table.empty .header (some e)).Distinct := .empty _ _
  split at hv
  · cases hv
    exact .tables (List.forall_mem_singleton.2 hnew)
  · next ts =>
    cases hv
    have hts := (ho _ rfl).of_tables
    exact .tables (List.forall_mem_append.2 ⟨hts, List.forall_mem_singleton.2 hnew⟩)
  · cases hv

end Table

/-! ## Statements -/

/-- The values that the statement brings have distinct keys. -/
def Statement.Distinct : Statement → Prop
  | .assign _ _ value => value.Distinct
  | .header _ _ _ => True
  | .element _ _ _ => True

theorem Draft.add_distinct {d d' : Draft} {s : Statement} (hd : d.root.Distinct) (hs : s.Distinct)
    (h : d.add s = .ok d') : d'.root.Distinct := by
  cases s with
  | assign path key value =>
    obtain ⟨root, hroot, h⟩ := ok_of_bind h
    cases h
    refine Table.within_distinct (fun t u ht hu => ?_) hd hroot
    obtain ⟨x, hx, hu⟩ := ok_of_bind hu
    cases hu
    exact Table.reach_distinct (Table.assign_distinct ht hs hx) value
  | header path key e =>
    obtain ⟨root, hroot, h⟩ := ok_of_bind h
    cases h
    exact Table.within_distinct (fun _ _ ht hu => Table.addHeader_distinct ht hu) hd hroot
  | element path key e =>
    obtain ⟨root, hroot, h⟩ := ok_of_bind h
    cases h
    exact Table.within_distinct (fun _ _ ht hu => Table.addElement_distinct ht hu) hd hroot

/-! ## Readers -/

namespace Reader

theorem scalar_gives (r : Reader Scalar) : (scalar r).Gives Item.Distinct :=
  gives_bind fun x => gives_pure (.scalar x.1 x.2)

variable {item : Reader Item}

theorem array_gives (h : item.Gives Item.Distinct) :
    (array item).Gives fun items => ∀ v ∈ items, v.Distinct := by
  refine gives_bind fun _ => Gives.bind (Gives.commit ?_) fun items hitems =>
    gives_bind fun _ => gives_pure hitems
  refine gives_bind fun c => ?_
  split
  · exact gives_pure fun _ hv => by cases hv
  · refine (gives_seqRight h).seqLeft.separated.bind fun items hitems => ?_
    dsimp only
    split
    · exact gives_bind fun _ => gives_bind fun _ => gives_pure hitems
    · exact gives_bind fun _ => gives_pure hitems

theorem assignment_gives (h : item.Gives Item.Distinct) (tail : Reader Unit) :
    (assignment item tail).Gives fun a => a.2.2.Distinct := by
  refine gives_bind fun p => Gives.bind (P := Item.Distinct) (Gives.commit ?_) fun v hv =>
    gives_pure hv
  exact gives_bind fun _ => gives_bind fun _ => h.seqLeft

theorem inlineTable_gives (h : item.Gives Item.Distinct) :
    (inlineTable item).Gives fun es => ∀ e, (Table.mk .inline es e).Distinct := by
  refine gives_bind fun _ => Gives.bind (Gives.commit ?_) fun es hes =>
    gives_bind fun _ => gives_pure hes
  exact (assignment_gives h blanks).separated.seqLeft.check fun _ _ ha hes =>
    Table.inline_distinct hes ha .inline

theorem valueOver_gives {inner : Option (Reader Item)} (h : ∀ r ∈ inner, r.Gives Item.Distinct) :
    (valueOver inner).Gives Item.Distinct := by
  refine gives_bind fun c => ?_
  split
  · exact gives_fail
  · split
    case h_3 =>
      refine Gives.bind (P := fun x => ∀ v ∈ x.1, v.Distinct) ?_ fun (items, e) hx =>
        gives_pure (.array e hx)
      cases inner with
      | none => exact (gives_refuse _).commit
      | some item => exact (array_gives (h item rfl)).located
    case h_4 =>
      refine Gives.bind (P := fun x => ∀ e, (Table.mk .inline x.1 e).Distinct) ?_
        fun (entries, e) hx => gives_pure (.table (hx (some e)))
      cases inner with
      | none => exact (gives_refuse _).commit
      | some item => exact (inlineTable_gives (h item rfl)).located
    case h_11 =>
      split
      · exact scalar_gives number
      · exact (gives_fail.labelled _).expecting _
    all_goals exact scalar_gives _

theorem value_gives (depth : Nat) : (value depth).Gives Item.Distinct := by
  induction depth with
  | zero => exact valueOver_gives fun _ hr => by cases hr
  | succ depth ih => exact valueOver_gives fun _ hr => Option.some.inj hr ▸ ih

theorem assign_gives : assign.Gives Statement.Distinct :=
  (assignment_gives (value_gives _) lineTail).bind fun _ hv => gives_pure hv

theorem header_gives : header.Gives Statement.Distinct :=
  gives_bind fun _ => gives_bind fun _ => gives_pure trivial

theorem element_gives : element.Gives Statement.Distinct :=
  gives_bind fun _ => gives_bind fun _ => gives_pure trivial

theorem anyHeader_gives : anyHeader.Gives Statement.Distinct := by
  refine gives_bind fun u => ?_
  split
  · exact gives_fail
  · exact element_gives
  · exact header_gives

theorem statement_gives {d : Draft} (hd : d.root.Distinct) :
    (statement d).Gives fun d => d.root.Distinct := by
  have hblanks : ∀ d : Draft, d.root.Distinct →
      (blanks >>= fun _ => pure d).Gives fun d => d.root.Distinct :=
    fun d hd => gives_bind fun _ => gives_pure hd
  have hsame : (pure d : Reader Draft).Gives fun d => d.root.Distinct := gives_pure hd
  refine gives_bind fun c => ?_
  dsimp only
  split
  · exact gives_fail.bind hblanks
  · exact (gives_seqRight hsame).commit.bind hblanks
  · exact (gives_seqRight hsame).bind hblanks
  · exact (gives_seqRight hsame).bind hblanks
  · have hadd := anyHeader_gives.check fun s d' hs h => Draft.add_distinct hd hs h
    exact (hadd.labelled _).commit.bind hblanks
  · have hadd := assign_gives.check fun s d' hs h => Draft.add_distinct hd hs h
    exact hadd.commit.bind hblanks

theorem document_gives : document.Gives Table.Distinct :=
  gives_bind fun _ => gives_bind fun _ =>
    (gives_foldMany (fun _ hd => statement_gives hd) (.empty _ _)).bind fun _ hd =>
      gives_bind fun _ => gives_pure hd

end Reader

theorem Table.ofText_distinct {text : String} {t : Table} (h : Table.ofText text = .ok t) :
    t.Distinct := by
  unfold ofText at h
  split at h
  · next hr =>
    cases h
    exact Reader.document_gives _ _ _ hr
  · cases h

end PLZero.Toml
