import PLZero.Dump
import PLZero.Proofs.Runs

/-! What a dump shows of a run. The lines of a dump tell kinds, values, lines and columns; byte
offsets are not shown, so runs that differ in nothing else give the same dump.

* `Listing.dump_eq_collect`: a dump is made of the run over the content, and of nothing else.
* `Listing.Alike` says that two dumps are the same text, or fail for the same cause at the same line
  and column.
* `Listing.dump_alike`: runs that agree but for offsets give dumps that are alike. -/
namespace PLZero
set_option autoImplicit false

open Lexer (collect withoutOffsets)

namespace Lexer

theorem collect_map_withoutOffsets (rs : List Pulled) :
    collect (rs.map withoutOffsets) =
      match collect rs with
      | .ok ts => .ok (ts.map Token.withoutOffsets)
      | .error f => .error f.withoutOffset := by
  induction rs with
  | nil => rfl
  | cons r rs ih =>
    cases r with
    | error f => rfl
    | ok t =>
      rw [List.map_cons, withoutOffsets, collect, collect, ih]
      cases collect rs <;> rfl

end Lexer

theorem dumpText_withoutOffsets (spans : Bool) (ts : List Token) :
    dumpText spans (ts.map Token.withoutOffsets) = dumpText spans ts := by
  have hline : ∀ t : Token, t.withoutOffsets.line spans = t.line spans := fun _ => rfl
  unfold dumpText
  rw [List.map_map]
  simp only [Function.comp_def, hline]

namespace Listing

theorem dump_eq_collect (l : Listing) (s : Settings) :
    l.dump s =
      match collect (Lexer.ofString l.content s.alphabet).run with
      | .ok ts => .ok (dumpText s.spans ts)
      | .error f => .error ⟨f, (Report.ofFault f).render l⟩ := by
  unfold dump tokens
  rw [Lexer.tokens_eq_collect]
  cases collect (Lexer.ofString l.content s.alphabet).run <;> rfl

theorem dump_congr {l : Listing} {s t : Settings} (hspans : s.spans = t.spans)
    (h : (Lexer.ofString l.content s.alphabet).run = (Lexer.ofString l.content t.alphabet).run) :
    l.dump s = l.dump t := by
  rw [dump_eq_collect, dump_eq_collect, h, hspans]

/-- The same text, or failures with the same cause, line and column. -/
def Alike : Except Rejected String → Except Rejected String → Prop
  | .ok d, .ok e => d = e
  | .error r, .error q => r.fault.cause = q.fault.cause ∧
      r.fault.place.line = q.fault.place.line ∧ r.fault.place.column = q.fault.place.column
  | _, _ => False

theorem dump_alike {l m : Listing} {s : Settings}
    (h : (Lexer.ofString l.content s.alphabet).run.map withoutOffsets =
      (Lexer.ofString m.content s.alphabet).run.map withoutOffsets) :
    Alike (l.dump s) (m.dump s) := by
  have hcollect := congrArg collect h
  rw [Lexer.collect_map_withoutOffsets, Lexer.collect_map_withoutOffsets] at hcollect
  rw [dump_eq_collect, dump_eq_collect]
  cases hl : collect (Lexer.ofString l.content s.alphabet).run with
  | ok ts =>
    cases hm : collect (Lexer.ofString m.content s.alphabet).run with
    | ok us =>
      rw [hl, hm] at hcollect
      have htokens := Except.ok.inj hcollect
      show dumpText s.spans ts = dumpText s.spans us
      rw [← dumpText_withoutOffsets, htokens, dumpText_withoutOffsets]
    | error g =>
      rw [hl, hm] at hcollect
      cases hcollect
  | error f =>
    cases hm : collect (Lexer.ofString m.content s.alphabet).run with
    | ok us =>
      rw [hl, hm] at hcollect
      cases hcollect
    | error g =>
      rw [hl, hm] at hcollect
      have hfault : f.withoutOffset = g.withoutOffset := Except.error.inj hcollect
      have hcause : f.withoutOffset.cause = g.withoutOffset.cause := by rw [hfault]
      have hline : f.withoutOffset.place.line = g.withoutOffset.place.line := by rw [hfault]
      have hcolumn : f.withoutOffset.place.column = g.withoutOffset.place.column := by rw [hfault]
      exact ⟨hcause, hline, hcolumn⟩

end Listing

end PLZero
