import Workbench.Scanner.Rule

/-!
# Tables that are declared in full

The states of a scanner are declared one after the other, each with its rules.  If they come in the
order of their places and each list of rules compiles, then the table is built, and the rules of a
state are those that were declared for it: `build_complete`.

Declaring fills the places from the front (`declareAll_in_order`), so what is left to collect is a
full list of places (`collect_map_some`).
-/

namespace Workbench.Scanner

open Pattern (Regex)

variable {S K : Type}

/-! ## compiled rules -/

theorem RuleSpec.exists_compile {spec : RuleSpec S K} {regex : Regex}
    (h : Regex.parse (anchor spec.pattern) = .ok regex) :
    ∃ r : Rule S K, spec.compile = .ok r ∧ r.regex = regex := by
  unfold compile
  split
  · next regex' h' =>
    rw [h] at h'
    injection h' with h'
    exact ⟨_, rfl, h'.symm⟩
  · next e h' => rw [h] at h'; cases h'

/-- a compiled rule is the rule that was declared -/
theorem RuleSpec.toRuleSpec_of_compile {spec : RuleSpec S K} {r : Rule S K}
    (h : spec.compile = .ok r) : r.toRuleSpec = spec := by
  unfold compile at h
  split at h
  · injection h with h
    rw [← h]
  · cases h

theorem specs_of_compileAll {s : S} {specs : List (RuleSpec S K)} {rules : List (Rule S K)}
    (h : compileAll s specs = .ok rules) : rules.map Rule.toRuleSpec = specs := by
  induction specs generalizing rules with
  | nil => injection h with h; rw [← h]; rfl
  | cons spec specs ih =>
    rw [compileAll] at h
    split at h
    · cases h
    · next r hr =>
      cases ha : compileAll s specs with
      | error e => rw [ha] at h; cases h
      | ok rs =>
        rw [ha] at h
        injection h with h
        rw [← h, List.map_cons, RuleSpec.toRuleSpec_of_compile hr, ih ha]

theorem exists_compileAll (s : S) {specs : List (RuleSpec S K)}
    (h : ∀ spec ∈ specs, ∃ r, spec.compile = .ok r) : ∃ rules, compileAll s specs = .ok rules := by
  induction specs with
  | nil => exact ⟨[], rfl⟩
  | cons spec specs ih =>
    obtain ⟨r, hr⟩ := h spec List.mem_cons_self
    obtain ⟨rs, hrs⟩ := ih fun x hx => h x (List.mem_cons_of_mem _ hx)
    refine ⟨r :: rs, ?_⟩
    rw [compileAll, hr, hrs]
    rfl

/-! ## the rules of one state -/

theorem specs_of_compileState {s : S} {specs : List (RuleSpec S K)} {rules : List (Rule S K)}
    (h : compileState s specs = .ok rules) : rules.map Rule.toRuleSpec = specs := by
  unfold compileState at h
  split at h
  · cases h
  · next rs hrs =>
    split at h
    · cases h
    · split at h
      · injection h with h
        rw [← h]
        exact specs_of_compileAll hrs
      · cases h

/-- rules compile whose last one, a fallback, comes to be the last one of the list -/
theorem exists_compileState (s : S) {specs : List (RuleSpec S K)} {last : RuleSpec S K}
    (h : ∀ spec ∈ specs, ∃ r, spec.compile = .ok r) (hlast : specs.getLast? = some last)
    (hfallback : ∀ r : Rule S K, r.toRuleSpec = last → r.isFallback = true) :
    ∃ rules, compileState s specs = .ok rules := by
  obtain ⟨rules, hrules⟩ := exists_compileAll s h
  have hspecs := specs_of_compileAll hrules
  rw [← hspecs, List.getLast?_map] at hlast
  obtain ⟨r, hr, hrlast⟩ := Option.map_eq_some_iff.1 hlast
  refine ⟨rules, ?_⟩
  rw [compileState, hrules]
  simp only [hr, hfallback r hrlast, if_true]

/-! ## declaring in order -/

theorem collect_map_some (states : List S) (lists : List (List (Rule S K)))
    (h : states.length = lists.length) : collect states (lists.map some) = .ok lists := by
  induction states generalizing lists with
  | nil => rw [List.length_eq_zero_iff.1 h.symm]; rfl
  | cons s states ih =>
    cases lists with
    | nil => cases h
    | cons rules lists => rw [List.map_cons, collect, ih lists (Nat.succ.inj h)]; rfl

variable [ScannerState S]

/-- the next free place is taken by the state whose index it is -/
theorem declare_next {s : S} {specs : List (RuleSpec S K)} {rules : List (Rule S K)}
    (done : List (List (Rule S K))) (free : List (Option (List (Rule S K))))
    (hs : ScannerState.index s = done.length) (h : compileState s specs = .ok rules) :
    declare (done.map some ++ none :: free) s specs = .ok ((done ++ [rules]).map some ++ free) := by
  have hlen : (done.map some).length = ScannerState.index s := by rw [List.length_map, hs]
  rw [declare, ← hlen, List.getElem?_append_right (Nat.le_refl _), Nat.sub_self,
    List.getElem?_cons_zero]
  simp only [h]
  rw [Except.map, List.set_append_right _ _ (Nat.le_refl _), Nat.sub_self, List.set_cons_zero,
    List.map_append, List.append_assoc]
  rfl

theorem declareAll_in_order {specsOf : S → List (RuleSpec S K)} {compiled : S → List (Rule S K)}
    (done : List (List (Rule S K))) (states : List S)
    (hindex : states.map ScannerState.index = List.range' done.length states.length)
    (h : ∀ s ∈ states, compileState s (specsOf s) = .ok (compiled s)) :
    declareAll (done.map some ++ states.map fun _ => none) (states.map fun s => (s, specsOf s))
      = .ok ((done ++ states.map compiled).map some) := by
  induction states generalizing done with
  | nil => rw [List.map_nil, List.map_nil, List.append_nil, List.map_nil, List.append_nil]; rfl
  | cons s states ih =>
    rw [List.map_cons, List.length_cons, List.range'_succ, List.cons.injEq] at hindex
    have ih' := ih (done ++ [compiled s])
      (by rw [List.length_append]; exact hindex.2) fun x hx => h x (List.mem_cons_of_mem _ hx)
    rw [List.map_cons, List.map_cons, List.map_cons, declareAll,
      declare_next done _ hindex.1 (h s List.mem_cons_self)]
    simp only [ih', List.append_assoc, List.singleton_append]

/-- declarations that are complete and in order build the table of their rules -/
theorem RuleTable.build_complete (specsOf : S → List (RuleSpec S K))
    (hindex : (ScannerState.all (S := S)).map ScannerState.index
      = List.range (ScannerState.all (S := S)).length)
    (h : ∀ s ∈ ScannerState.all (S := S), ∃ rules, compileState s (specsOf s) = .ok rules) :
    ∃ table : RuleTable S K,
      RuleTable.build (ScannerState.all.map fun s => (s, specsOf s)) = .ok table
        ∧ ∀ s, (ScannerState.all (S := S))[ScannerState.index s]? = some s →
          (table.rules s).map Rule.toRuleSpec = specsOf s := by
  let compiled : S → List (Rule S K) := fun s => (compileState s (specsOf s)).toOption.getD []
  have hcompiled : ∀ s ∈ ScannerState.all (S := S),
      compileState s (specsOf s) = .ok (compiled s) := by
    intro s hs
    obtain ⟨rules, hr⟩ := h s hs
    simp only [compiled, hr]
    rfl
  refine ⟨⟨ScannerState.all.map compiled⟩, ?_, fun s hs => ?_⟩
  · rw [build]
    have hd := declareAll_in_order [] ScannerState.all
      (by rw [hindex, List.range_eq_range']; rfl) hcompiled
    rw [List.map_nil, List.nil_append, List.nil_append] at hd
    rw [hd]
    show (collect _ _).map RuleTable.mk = _
    rw [collect_map_some _ _ (by rw [List.length_map])]
    rfl
  · rw [rules, List.getElem?_map, hs]
    exact specs_of_compileState (hcompiled s (List.mem_of_getElem? hs))

end Workbench.Scanner
