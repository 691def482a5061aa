import Workbench.Proofs.Riff.Numbers
import Workbench.Proofs.Scanner.Shadowing

/-!
# The rules of integers

Code has two patterns for integers alone, behind those for numbers that may have a fraction or an
exponent.  Where one of the two matches there is a digit, even if it is only the zero of `0x`, and
at a digit the pattern of decimal numbers matches (`isSome_decimalFloat`).  That one stands in front
of them in each list (`decimalFloat_before`), so both are shadowed: `shadows_table`.  A table that
is declared without them is accepted and makes the same scans: `scan_without_integers`.
-/

namespace Workbench.Riff

open Workbench.Pattern (Regex)
open Scanner (Declarations Rule RuleTable)

/-! ## the declarations without integers -/

/-- whether a rule is for integers alone -/
def isIntegerRule (spec : Spec) : Bool :=
  spec.pattern == Pattern.hexInteger || spec.pattern == Pattern.decimalInteger

def rulesWithoutIntegers (s : State) : List Spec :=
  (rulesOf s).filter fun spec => !isIntegerRule spec

def declarationsWithoutIntegers : Declarations State Kind :=
  State.all.map fun s => (s, rulesWithoutIntegers s)

theorem getLast?_rulesWithoutIntegers :
    ∀ s ∈ State.all, (rulesWithoutIntegers s).getLast? = (rulesOf s).getLast? := by
  decide

/-- the declarations without integers build a table, in which each state has the other rules -/
theorem exists_build_without_integers :
    ∃ small : RuleTable State Kind, RuleTable.build declarationsWithoutIntegers = .ok small
      ∧ ∀ s, (small.rules s).map Rule.toRuleSpec = rulesWithoutIntegers s := by
  obtain ⟨small, hbuild, hrules⟩ := RuleTable.build_complete rulesWithoutIntegers rfl fun s hs =>
    exists_compileState_of_subset (fun _ h => (List.mem_filter.1 h).1)
      (getLast?_rulesWithoutIntegers s hs)
  exact ⟨small, hbuild, fun s => hrules s s.all_index⟩

/-! ## where the rules match -/

theorem mem_numbers_of_isIntegerRule {spec : Spec} (h : isIntegerRule spec = true) :
    spec.pattern ∈ Pattern.numbers ∧ ∃ r, form spec.pattern = .seq Form.boundary r := by
  rw [isIntegerRule, Bool.or_eq_true, beq_iff_eq, beq_iff_eq] at h
  rcases h with h | h
  · rw [h]
    exact ⟨by simp [Pattern.numbers], _, rfl⟩
  · rw [h]
    exact ⟨by simp [Pattern.numbers], _, rfl⟩

/-- where a rule for integers matches there is a digit, at which decimal numbers match too -/
theorem isSome_decimalFloat {spec : Spec} (hspec : isIntegerRule spec = true) {t : Text}
    (h : (endOf? spec t).isSome) : (Form.decimalFloat.firstEnd? t).isSome := by
  obtain ⟨hmem, r, hform⟩ := mem_numbers_of_isIntegerRule hspec
  have hnumeral : beginsNumeral t = true := by
    refine Bool.not_eq_false _ ▸ fun hfalse => ?_
    rw [endOf?, firstEnd?_numbers_eq_none hfalse _ hmem] at h
    cases h
  cases t with
  | nil => cases hnumeral
  | cons c u =>
    rw [beginsNumeral, Bool.or_eq_true, Bool.and_eq_true, beq_iff_eq] at hnumeral
    rcases hnumeral with hc | ⟨rfl, -⟩
    · rw [firstEnd?_decimalFloat hc]
      rfl
    · -- there is no word boundary in front of a point
      rw [endOf?, hform, firstEnd?_boundary_eq_none (by decide)] at h
      cases h

/-- in each list the rule of decimal numbers stands in front of those for integers -/
theorem decimalFloat_before : ∀ s ∈ State.all, ∀ i < (rulesOf s).length,
    ((rulesOf s)[i]?).any isIntegerRule = true →
      ∃ spec ∈ (rulesOf s).take i, spec.pattern = Pattern.decimalFloat := by
  decide

/-- where a rule for integers matches, that of decimal numbers matches in front of it -/
theorem shadows_table : table.Shadows isIntegerRule := by
  intro s before r after t hrules hr hmatch
  have hmem : ∀ x ∈ before ++ r :: after, x.toRuleSpec ∈ rulesOf s := fun x hx =>
    mem_rulesOf (hrules ▸ hx)
  have hspecs : rulesOf s
      = before.map Rule.toRuleSpec ++ r.toRuleSpec :: after.map Rule.toRuleSpec := by
    rw [← specs_rules, hrules, List.map_append, List.map_cons]
  have hat : (rulesOf s)[(before.map Rule.toRuleSpec).length]? = some r.toRuleSpec := by
    rw [hspecs, List.getElem?_append_right (Nat.le_refl _), Nat.sub_self, List.getElem?_cons_zero]
  obtain ⟨hlt, -⟩ := List.getElem?_eq_some_iff.1 hat
  obtain ⟨spec, hspec, hpattern⟩ := decimalFloat_before s (List.mem_of_getElem? s.all_index) _ hlt
    (by rw [hat]; exact hr)
  rw [hspecs, List.take_left] at hspec
  obtain ⟨r', hr', rfl⟩ := List.mem_map.1 hspec
  refine ⟨r', hr', ?_⟩
  rw [matchEnd?_eq_firstEnd? (hmem r (List.mem_append_right _ List.mem_cons_self))] at hmatch
  rw [matchEnd?_eq_firstEnd? (hmem r' (List.mem_append_left _ hr')), hpattern]
  exact isSome_decimalFloat hr hmatch

/-! ## scans -/

/-- The two rules for integers can be left out: the other rules are a table of their own, with which
every text is scanned from every stack as before.  For no text is one of the two selected, since
wherever it matches a rule in front of it matches too. -/
theorem scan_without_integers :
    (∃ small : RuleTable State Kind, RuleTable.build declarationsWithoutIntegers = .ok small
      ∧ (∀ s, (small.rules s).map Rule.toRuleSpec = rulesWithoutIntegers s)
      ∧ ∀ t (initial : Option Stack), small.scan (initial.getD .fresh) t = scan t initial)
    ∧ (∀ s t, ∀ chosen ∈ table.select s t, isIntegerRule chosen.1.toRuleSpec = false)
    ∧ ∀ s before r after t, table.rules s = before ++ r :: after →
      isIntegerRule r.toRuleSpec = true → (r.matchEnd? t).isSome →
        ∃ r' ∈ before, (r'.matchEnd? t).isSome := by
  obtain ⟨small, hbuild, hrules⟩ := exists_build_without_integers
  refine ⟨⟨small, hbuild, hrules, fun t initial => ?_⟩, fun s t chosen h => ?_, shadows_table⟩
  · refine shadows_table.scan_eq (fun s => ?_) _ t
    rw [hrules, specs_rules, rulesWithoutIntegers]
  · exact shadows_table.not_of_select h

/-- the rule of hexadecimal integers matches `0x_`, and so does one in front of it -/
theorem scan_without_integers_bare_mark :
    ∃ before r after, table.rules .start = before ++ r :: after
      ∧ r.pattern = Pattern.hexInteger ∧ (r.matchEnd? "0x_".toList).isSome
      ∧ ∃ r' ∈ before, (r'.matchEnd? "0x_".toList).isSome := by
  have hsplit : rulesOf .start = startRules.take 12
      ++ numberRule (.goto .afterValue) Pattern.hexInteger :: startRules.drop 13 := rfl
  rw [← specs_rules] at hsplit
  obtain ⟨before, rest, hrules, -, hrest⟩ := List.map_eq_append_iff.1 hsplit
  obtain ⟨r, after, rfl, hr, -⟩ := List.map_eq_cons_iff.1 hrest
  have hpattern : r.pattern = Pattern.hexInteger := congrArg (·.pattern) hr
  have hmem : r.toRuleSpec ∈ rulesOf .start :=
    mem_rulesOf (hrules ▸ List.mem_append_right _ List.mem_cons_self)
  have hmatch : (r.matchEnd? "0x_".toList).isSome := by
    rw [matchEnd?_eq_firstEnd? hmem, hpattern]
    decide
  obtain ⟨-, -, hshadows⟩ := scan_without_integers
  refine ⟨before, r, after, hrules, hpattern, hmatch, ?_⟩
  exact hshadows .start before r after _ hrules (hr ▸ by decide) hmatch

end Workbench.Riff
