import PLZero.Toml.Reader

/-! What the results of a reader fulfil, whatever text it reads. A reader may refuse, and then
nothing is said of it; so each way to build readers has one rule, and no rule looks at the text.

* `Reader.Gives`: all results of a reader fulfil a condition.
* `Gives.bind` is the rule for readers one after the other, and `gives_bind` the one where the
  result of the first does not matter.
* `gives_iterate` is the rule for loops; the condition is their invariant. -/
namespace PLZero.Toml.Reader
set_option autoImplicit false

variable {α β : Type} {P : α → Prop} {Q : β → Prop} {r s : Reader α}

/-- Every result of `r` fulfils `P`. -/
def Gives (r : Reader α) (P : α → Prop) : Prop := ∀ (u v : Unread) (a : α), r u = .ok a v → P a

/-! ## Results one after the other -/

theorem gives_pure {a : α} (h : P a) : (pure a : Reader α).Gives P := by
  intro u v b hr
  cases hr
  exact h

theorem gives_refuse (f : Flaw) : (refuse f : Reader α).Gives P := by
  intro u v b hr
  cases hr

theorem gives_fail : (fail : Reader α).Gives P := gives_refuse .plain

theorem bind_eq_ok {f : α → Reader β} {u v : Unread} {b : β} (h : (r >>= f) u = .ok b v) :
    ∃ a w, r u = .ok a w ∧ f a w = .ok b v := by
  change EStateM.bind r f u = _ at h
  unfold EStateM.bind at h
  cases hr : r u with
  | ok a w =>
    rw [hr] at h
    exact ⟨a, w, rfl, h⟩
  | error e w =>
    rw [hr] at h
    cases h

theorem Gives.bind {f : α → Reader β} (h : r.Gives P) (hf : ∀ a, P a → (f a).Gives Q) :
    (r >>= f).Gives Q := by
  intro u v b hb
  obtain ⟨a, w, ha, hb⟩ := bind_eq_ok hb
  exact hf a (h u w a ha) w v b hb

theorem gives_bind {f : α → Reader β} (h : ∀ a, (f a).Gives Q) : (r >>= f).Gives Q :=
  Gives.bind (P := fun _ => True) (fun _ _ _ _ => trivial) fun a _ => h a

theorem Gives.map {f : α → β} (h : r.Gives P) (hf : ∀ a, P a → Q (f a)) : (f <$> r).Gives Q :=
  h.bind fun a ha => gives_pure (hf a ha)

theorem gives_seqRight {s : Reader β} (h : s.Gives Q) : (r *> s).Gives Q := gives_bind fun _ => h

theorem Gives.seqLeft {s : Reader β} (h : r.Gives P) : (r <* s).Gives P :=
  h.bind fun _ ha => gives_bind fun _ => gives_pure ha

theorem Gives.located (h : r.Gives P) : (located r).Gives fun x => P x.1 :=
  gives_bind fun _ => h.bind fun _ ha => gives_bind fun _ => gives_pure ha

/-! ## Refusals and choices -/

theorem Gives.amend (f : Refusal → Refusal) (h : r.Gives P) : (amend f r).Gives P := by
  intro u v a ha
  unfold Reader.amend at ha
  split at ha
  · next hr =>
    cases ha
    exact h _ _ _ hr
  · cases ha

theorem Gives.commit (h : r.Gives P) : (commit r).Gives P := h.amend _

theorem Gives.labelled (p : Part) (h : r.Gives P) : (labelled p r).Gives P := h.amend _

theorem Gives.expecting (hints : List Hint) (h : r.Gives P) : (expecting hints r).Gives P :=
  h.amend _

theorem Gives.orElse (hr : r.Gives P) (hs : s.Gives P) : (r <|> s).Gives P := by
  intro u v a ha
  simp only [HOrElse.hOrElse, OrElse.orElse] at ha
  split at ha
  · next hb =>
    cases ha
    exact hr _ _ _ hb
  · split at ha
    · cases ha
    · exact hs _ _ _ ha

theorem gives_accept {u : Unread} {x : Except Flaw.Cause α} (h : ∀ a, x = .ok a → P a) :
    (accept u x).Gives P := by
  cases x with
  | ok a => exact gives_pure (h a rfl)
  | error c => exact gives_bind fun _ => gives_refuse _

theorem Gives.check {f : α → Except Flaw.Cause β} (h : r.Gives P)
    (hf : ∀ a b, P a → f a = .ok b → Q b) : (check r f).Gives Q :=
  gives_bind fun _ => h.bind fun a ha => gives_accept fun b hb => hf a b ha hb

theorem Gives.maybe (h : r.Gives P) : (maybe r).Gives fun o => ∀ a ∈ o, P a :=
  .orElse (h.map fun a ha b hb => by rwa [← Option.some.inj hb])
    (gives_pure fun _ hb => by cases hb)

/-! ## Loops -/

theorem gives_iterate {r : β → Reader β} (h : ∀ b, Q b → (r b).Gives Q) (cs : List Char) {b : β}
    (hb : Q b) : (iterate r cs b).Gives Q := by
  induction cs generalizing b with
  | nil => exact gives_pure hb
  | cons c cs ih =>
    refine (h b hb).maybe.bind fun o ho => ?_
    cases o with
    | none => exact gives_pure hb
    | some d => exact ih (ho d rfl)

theorem gives_foldMany {r : β → Reader β} (h : ∀ b, Q b → (r b).Gives Q) {b : β} (hb : Q b) :
    (foldMany b r).Gives Q :=
  gives_bind fun u => gives_iterate h u.rest hb

theorem Gives.many (h : r.Gives P) : (many r).Gives fun as => ∀ a ∈ as, P a := by
  refine Gives.map (P := fun as => ∀ a ∈ as, P a) (gives_foldMany (fun as has => ?_) ?_)
    fun as has a ha => has a (List.mem_reverse.1 ha)
  · exact h.bind fun a ha => gives_pure (List.forall_mem_cons.2 ⟨ha, has⟩)
  · exact fun _ hb => by cases hb

theorem Gives.separated1 {separator : Reader Unit} (h : r.Gives P) :
    (separated1 r separator).Gives fun x => ∀ a ∈ x.1 :: x.2, P a :=
  h.bind fun _ ha => (gives_seqRight h).many.bind fun _ has =>
    gives_pure (List.forall_mem_cons.2 ⟨ha, has⟩)

theorem Gives.separated {separator : Reader Unit} (h : r.Gives P) :
    (separated r separator).Gives fun as => ∀ a ∈ as, P a := by
  refine h.separated1.maybe.bind fun o ho => ?_
  cases o with
  | none => exact gives_pure fun _ hb => by cases hb
  | some x => exact gives_pure (ho x rfl)

end PLZero.Toml.Reader
