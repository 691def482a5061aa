import Workbench.Proofs.Scanner.Run

/-!
# Shadowed rules

A rule is shadowed if wherever it matches, a rule in front of it in its list matches too.  Then it
is never the first that matches (`Shadows.not_of_select`), and the first that matches is the same
without it (`Shadows.select_eq`).  A move depends on the table by the selected rule alone, so a scan
is the same without the shadowed rules: `Shadows.scan_eq`.

A compiled rule is determined by its declaration (`Rule.toRuleSpec_injective`), so what is left of a
table can be said of its declarations.
-/

namespace Workbench.Scanner

open Pattern (Regex)

variable {S K : Type}

/-- a declaration is compiled in one way only -/
theorem Rule.toRuleSpec_injective : Function.Injective (Rule.toRuleSpec (S := S) (K := K)) := by
  rintro ⟨spec, regex, hparse, matcher, hmatcher⟩ ⟨spec', regex', hparse', matcher', hmatcher'⟩ h
  obtain rfl : spec = spec' := h
  obtain rfl : regex = regex' := Except.ok.inj (hparse.symm.trans hparse')
  obtain rfl : matcher = matcher' := hmatcher.trans hmatcher'.symm
  rfl

/-- the first element that gives something, if it is kept, is still the first behind a filter -/
theorem findSome?_filter {α β : Type} {f : α → Option β} {keep : α → Bool} {l : List α}
    (h : ∀ before x after, l = before ++ x :: after → (f x).isSome → (∀ y ∈ before, f y = none) →
      keep x = true) :
    (l.filter keep).findSome? f = l.findSome? f := by
  cases hl : l.findSome? f with
  | none =>
    rw [List.findSome?_eq_none_iff] at hl ⊢
    exact fun x hx => hl x (List.mem_filter.1 hx).1
  | some b =>
    obtain ⟨before, x, after, rfl, hx, hbefore⟩ := List.findSome?_eq_some_iff.1 hl
    have hkeep := h before x after rfl (hx ▸ rfl) hbefore
    have hnone : (before.filter keep).findSome? f = none :=
      List.findSome?_eq_none_iff.2 fun y hy => hbefore y (List.mem_filter.1 hy).1
    rw [List.filter_append, List.filter_cons_of_pos hkeep, List.findSome?_append, hnone,
      Option.none_or, List.findSome?_cons, hx]

namespace RuleTable

variable [ScannerState S]

/-! ## the rule that is selected -/

/-- a rule of one of the given declarations matches only where a rule in front of it does -/
def Shadows (table : RuleTable S K) (spare : RuleSpec S K → Bool) : Prop :=
  ∀ s before r after t, table.rules s = before ++ r :: after → spare r.toRuleSpec = true →
    (r.matchEnd? t).isSome → ∃ r' ∈ before, (r'.matchEnd? t).isSome

section
variable {table small : RuleTable S K} {spare : RuleSpec S K → Bool} (h : table.Shadows spare)
include h

/-- the first rule that matches is not shadowed -/
theorem Shadows.spare_eq_false {s : S} {t : Text} {before after : List (Rule S K)} {r : Rule S K}
    (hrules : table.rules s = before ++ r :: after) (hmatch : (r.matchEnd? t).isSome)
    (hbefore : ∀ x ∈ before, x.matchEnd? t = none) : spare r.toRuleSpec = false := by
  refine Bool.eq_false_iff.2 fun hspare => ?_
  obtain ⟨r', hr', hsome⟩ := h s before r after t hrules hspare hmatch
  rw [hbefore r' hr'] at hsome
  cases hsome

theorem Shadows.not_of_select {s : S} {t : Text} {r : Rule S K} {n : Nat}
    (hselect : table.select s t = some (r, n)) : spare r.toRuleSpec = false := by
  obtain ⟨before, x, after, hrules, hx, hbefore⟩ := List.findSome?_eq_some_iff.1 hselect
  obtain ⟨m, hm, hxr⟩ := Option.map_eq_some_iff.1 hx
  obtain ⟨rfl, -⟩ := Prod.mk.inj hxr
  exact h.spare_eq_false hrules (hm ▸ rfl) fun y hy => Option.map_eq_none_iff.1 (hbefore y hy)

variable (hsmall : ∀ s, (small.rules s).map Rule.toRuleSpec
  = ((table.rules s).map Rule.toRuleSpec).filter fun spec => !spare spec)
include hsmall

theorem Shadows.select_eq (s : S) (t : Text) : small.select s t = table.select s t := by
  have hrules : small.rules s = (table.rules s).filter fun r => !spare r.toRuleSpec := by
    refine (List.map_inj_right fun _ _ heq => Rule.toRuleSpec_injective heq).1 ?_
    rw [hsmall, List.filter_map]
    rfl
  rw [select, hrules, select]
  refine findSome?_filter fun before r after hl hr hbefore => ?_
  rw [Option.isSome_map] at hr
  rw [h.spare_eq_false hl hr fun y hy => Option.map_eq_none_iff.1 (hbefore y hy)]
  rfl

end

/-! ## scans -/

variable [ScannerKind K] {table small : RuleTable S K}

/-- a run of a table is one of every table that selects the same rules -/
theorem Run.congr (hselect : ∀ s t, small.select s t = table.select s t) {st st' : StateStack S}
    {t t' : Text} {ms : List (Move S K)} (run : table.Run st t ms st' t') :
    small.Run st t ms st' t' := by
  induction run with
  | done st t => exact .done st t
  | @move st st' c t rest t' m ms hm ht _ ih =>
    have hmove : small.move st c t = m := by
      rw [← hm, RuleTable.move, RuleTable.move, hselect]
    exact .move hmove ht ih

/-- a scan is the same without shadowed rules -/
theorem Shadows.scan_eq {spare : RuleSpec S K → Bool} (h : table.Shadows spare)
    (hsmall : ∀ s, (small.rules s).map Rule.toRuleSpec
      = ((table.rules s).map Rule.toRuleSpec).filter fun spec => !spare spec)
    (st : StateStack S) (t : Text) : small.scan st t = table.scan st t :=
  scan_of_run ((table.run_moves st t).congr (h.select_eq hsmall))

end RuleTable

end Workbench.Scanner
