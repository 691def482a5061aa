import Mathlib.Data.List.Nodup
import Mathlib.Data.List.Perm.Basic
import Workbench.Proofs.Scanner.Declared
import Workbench.Riff.Vocabulary

/-!
# Which declarations build a table

Declarations are taken up one after the other.  A declaration has a fault by itself or because of
those before it (`fault?`); what it leaves are the places of all declarations so far
(`placesBehind`, `declare_placesBehind`), whatever their order.  So the table, or the first fault,
is computed from the list of declarations alone: `build_eq`.

* `Indexed`      the states are listed by their indices;
* `Complete`     declarations without a fault that leave out no state;
* `FirstFault`   the fault that is reported;
* `Holds`        a table that has the declared rules and no others.

The main statement puts them together: `build_iff_complete`.
-/

namespace Workbench.Scanner

open Pattern (Regex)

variable {S K : Type}

/-! ## the rules of one declaration -/

namespace RuleSpec

def compiles (spec : RuleSpec S K) : Bool := spec.compile.toOption.isSome

/-- whether the rule compiles and matches the empty text -/
def fallsBack (spec : RuleSpec S K) : Bool := spec.compile.toOption.any Rule.isFallback

theorem compiles_iff (spec : RuleSpec S K) : spec.compiles = true ↔ ∃ r, spec.compile = .ok r := by
  rw [compiles]
  cases h : spec.compile with
  | ok r => exact ⟨fun _ => ⟨r, rfl⟩, fun _ => rfl⟩
  | error e => exact ⟨fun h => absurd h Bool.false_ne_true, fun ⟨_, h⟩ => by cases h⟩

theorem fallsBack_iff (spec : RuleSpec S K) :
    spec.fallsBack = true ↔ ∃ r, spec.compile = .ok r ∧ r.isFallback = true := by
  rw [fallsBack]
  cases h : spec.compile with
  | ok r => exact ⟨fun hr => ⟨r, rfl, hr⟩, fun ⟨_, h, hr⟩ => by cases h; exact hr⟩
  | error e => exact ⟨fun h => absurd h Bool.false_ne_true, fun ⟨_, h, _⟩ => by cases h⟩

theorem exists_parse_error {spec : RuleSpec S K} (h : spec.compiles = false) :
    ∃ e, Regex.parse (anchor spec.pattern) = .error e := by
  unfold compiles compile at h
  split at h
  · cases h
  · next e he => exact ⟨e, he⟩

end RuleSpec

/-- the rules that patterns which compile declare -/
def compiledRules (specs : List (RuleSpec S K)) : List (Rule S K) :=
  specs.filterMap fun spec => spec.compile.toOption

/-- the fault of a list of rules by itself -/
def rulesFault? (s : S) (specs : List (RuleSpec S K)) : Option (TableError S) :=
  match specs.find? fun spec => !spec.compiles with
  | some spec => some (.invalidPattern s spec.pattern)
  | none =>
    match specs.getLast? with
    | none => some (.emptyState s)
    | some last => if last.fallsBack then none else some (.missingFallback s)

theorem exists_of_rulesFault? {s s' : S} {specs : List (RuleSpec S K)} {pattern : String}
    (h : rulesFault? s specs = some (.invalidPattern s' pattern)) :
    ∃ spec : RuleSpec S K, spec.compiles = false ∧ spec.pattern = pattern := by
  rw [rulesFault?] at h
  cases hfind : specs.find? fun spec => !spec.compiles with
  | some spec =>
    rw [hfind] at h
    injection h with h
    injection h with _ hpattern
    have hspec := List.find?_some hfind
    exact ⟨spec, by rwa [Bool.not_eq_true'] at hspec, hpattern⟩
  | none =>
    rw [hfind] at h
    cases hlast : specs.getLast? with
    | none =>
      rw [hlast] at h
      cases h
    | some last =>
      rw [hlast] at h
      dsimp only at h
      split at h <;> cases h

theorem compileAll_eq (s : S) (specs : List (RuleSpec S K)) :
    compileAll s specs = match specs.find? fun spec => !spec.compiles with
      | some spec => .error (.invalidPattern s spec.pattern)
      | none => .ok (compiledRules specs) := by
  induction specs with
  | nil => rfl
  | cons spec specs ih =>
    rw [compileAll, compiledRules, List.filterMap_cons]
    cases h : spec.compile with
    | error e =>
      have hc : spec.compiles = false := by rw [RuleSpec.compiles, h]; rfl
      rw [List.find?_cons_of_pos (by rw [hc]; rfl)]
    | ok r =>
      have hc : spec.compiles = true := by rw [RuleSpec.compiles, h]; rfl
      rw [List.find?_cons_of_neg (by rw [hc]; exact Bool.false_ne_true)]
      simp only [ih]
      cases specs.find? fun spec => !spec.compiles <;> rfl

theorem getLast?_compiledRules {specs : List (RuleSpec S K)}
    (h : ∀ spec ∈ specs, spec.compiles = true) :
    (compiledRules specs).getLast? = specs.getLast?.bind fun spec => spec.compile.toOption := by
  cases hlast : specs.getLast? with
  | none => rw [List.getLast?_eq_none_iff.1 hlast]; rfl
  | some last =>
    obtain ⟨front, rfl⟩ := List.getLast?_eq_some_iff.1 hlast
    obtain ⟨r, hr⟩ := last.compiles_iff.1 (h last (List.mem_append_right _ List.mem_cons_self))
    have hr' : last.compile.toOption = some r := by rw [hr]; rfl
    have hone : compiledRules [last] = [r] := List.filterMap_cons_some hr'
    have happend : compiledRules (front ++ [last]) = compiledRules front ++ [r] := by
      rw [← hone, compiledRules, List.filterMap_append]
      rfl
    rw [happend, List.getLast?_concat, Option.bind_some, hr']

theorem all_compile {specs : List (RuleSpec S K)}
    (h : specs.find? (fun spec => !spec.compiles) = none) :
    ∀ spec ∈ specs, spec.compiles = true := by
  intro spec hspec
  have hc := List.find?_eq_none.1 h spec hspec
  rwa [Bool.not_eq_true, Bool.not_eq_false'] at hc

theorem compileState_eq (s : S) (specs : List (RuleSpec S K)) :
    compileState s specs = match rulesFault? s specs with
      | some e => .error e
      | none => .ok (compiledRules specs) := by
  rw [compileState, compileAll_eq, rulesFault?]
  cases hfind : specs.find? fun spec => !spec.compiles with
  | some spec => rfl
  | none =>
    have hall := all_compile hfind
    simp only [getLast?_compiledRules hall]
    cases hlast : specs.getLast? with
    | none => rfl
    | some last =>
      obtain ⟨r, hr⟩ := last.compiles_iff.1 (hall last (List.mem_of_getLast? hlast))
      have hr' : last.compile.toOption = some r := by rw [hr]; rfl
      simp only [Option.bind_some, hr', RuleSpec.fallsBack, Option.any_some]
      cases r.isFallback <;> rfl

/-- a list of rules has no fault if all of them compile and the last one matches the empty text -/
theorem rulesFault?_eq_none_iff {s : S} {specs : List (RuleSpec S K)} :
    rulesFault? s specs = none ↔ (∀ spec ∈ specs, ∃ r, spec.compile = .ok r)
      ∧ ∃ last r, specs.getLast? = some last ∧ last.compile = .ok r ∧ r.isFallback = true := by
  rw [rulesFault?]
  cases hfind : specs.find? fun spec => !spec.compiles with
  | some spec =>
    have hspec : spec.compiles = false := by
      have := List.find?_some hfind
      rwa [Bool.not_eq_true'] at this
    refine ⟨fun h => (by cases h), fun ⟨h, _⟩ => ?_⟩
    rw [spec.compiles_iff.2 (h spec (List.mem_of_find?_eq_some hfind))] at hspec
    cases hspec
  | none =>
    have hall : ∀ spec ∈ specs, ∃ r, spec.compile = .ok r := fun spec hspec =>
      spec.compiles_iff.1 (all_compile hfind spec hspec)
    cases hlast : specs.getLast? with
    | none => exact ⟨fun h => (by cases h), fun ⟨_, _, _, h, _⟩ => (by cases h)⟩
    | some last =>
      show (if last.fallsBack then none else some (TableError.missingFallback s)) = none ↔ _
      constructor
      · intro h
        split at h
        · next hf =>
          obtain ⟨r, hr, hfallback⟩ := last.fallsBack_iff.1 hf
          exact ⟨hall, last, r, rfl, hr, hfallback⟩
        · cases h
      · rintro ⟨-, last', r, heq, hr, hfallback⟩
        injection heq with heq
        rw [if_pos (last.fallsBack_iff.2 ⟨r, heq ▸ hr, hfallback⟩)]

theorem map_toRuleSpec_compiledRules {specs : List (RuleSpec S K)}
    (h : ∀ spec ∈ specs, ∃ r, spec.compile = .ok r) :
    (compiledRules specs).map Rule.toRuleSpec = specs := by
  induction specs with
  | nil => rfl
  | cons spec specs ih =>
    obtain ⟨r, hr⟩ := h spec List.mem_cons_self
    have hr' : spec.compile.toOption = some r := by rw [hr]; rfl
    have hcons : compiledRules (spec :: specs) = r :: compiledRules specs :=
      List.filterMap_cons_some hr'
    rw [hcons, List.map_cons, RuleSpec.toRuleSpec_of_compile hr,
      ih fun x hx => h x (List.mem_cons_of_mem _ hx)]

theorem foldl_length {α : Type} (lists : List (List α)) (n : Nat) :
    lists.foldl (fun n l => n + l.length) n = n + lists.flatten.length := by
  induction lists generalizing n with
  | nil => rfl
  | cons l lists ih =>
    rw [List.foldl_cons, ih, List.flatten_cons, List.length_append, Nat.add_assoc]

/-! ## the rules that are declared for a state -/

section
variable [DecidableEq S]

/-- the rules that are declared for a state, if any are -/
def declared? (d : Declarations S K) (s : S) : Option (List (Rule S K)) :=
  (d.find? fun c => c.1 = s).map fun c => compiledRules c.2

theorem declared?_eq_none_iff {d : Declarations S K} {s : S} :
    declared? d s = none ↔ s ∉ d.map Prod.fst := by
  rw [declared?, Option.map_eq_none_iff, List.find?_eq_none, List.mem_map, not_exists]
  constructor
  · rintro h c ⟨hc, rfl⟩
    exact h c hc (decide_eq_true rfl)
  · exact fun h c hc heq => h c ⟨hc, of_decide_eq_true heq⟩

theorem declared?_concat {d : Declarations S K} {s : S} (h : s ∉ d.map Prod.fst)
    (specs : List (RuleSpec S K)) (s' : S) :
    declared? (d ++ [(s, specs)]) s' = if s = s' then some (compiledRules specs)
      else declared? d s' := by
  have happend : declared? (d ++ [(s, specs)]) s'
      = (declared? d s').or (declared? [(s, specs)] s') := by
    rw [declared?, List.find?_append, Option.map_or]
    rfl
  have hone : declared? [(s, specs)] s' = if s = s' then some (compiledRules specs) else none := by
    rw [declared?, List.find?_singleton]
    by_cases hs : s = s' <;> simp [hs]
  rw [happend, hone]
  split
  · next hs => rw [declared?_eq_none_iff.2 (hs ▸ h), Option.none_or]
  · rw [Option.or_none]

/-- what is declared for a state does not depend on the order -/
theorem declared?_of_mem {d : Declarations S K} (h : (d.map Prod.fst).Nodup)
    {c : S × List (RuleSpec S K)} (hc : c ∈ d) : declared? d c.1 = some (compiledRules c.2) := by
  induction d with
  | nil => cases hc
  | cons c' d ih =>
    rw [List.map_cons, List.nodup_cons] at h
    rw [declared?]
    rcases List.mem_cons.1 hc with rfl | hc
    · rw [List.find?_cons_of_pos (by simp), Option.map_some]
    · have hne : c'.1 ≠ c.1 := fun heq => h.1 (heq ▸ List.mem_map_of_mem hc)
      rw [List.find?_cons_of_neg (by simpa using hne)]
      exact ih h.2 hc

theorem declared?_perm {d d' : Declarations S K} (h : (d.map Prod.fst).Nodup) (hp : d.Perm d') :
    declared? d = declared? d' := by
  funext s
  by_cases hs : s ∈ d.map Prod.fst
  · obtain ⟨c, hc, rfl⟩ := List.mem_map.1 hs
    rw [declared?_of_mem h hc,
      declared?_of_mem ((hp.map Prod.fst).nodup_iff.1 h) (hp.mem_iff.1 hc)]
  · rw [declared?_eq_none_iff.2 hs, declared?_eq_none_iff.2 fun h => hs ((hp.map _).mem_iff.2 h)]

theorem collect_map (d : Declarations S K) (states : List S) :
    collect states (states.map (declared? d)) = match states.find? (· ∉ d.map Prod.fst) with
      | some s => .error (.missingState s)
      | none => .ok (states.map fun s => (declared? d s).getD []) := by
  induction states with
  | nil => rfl
  | cons s states ih =>
    rw [List.map_cons]
    unfold collect
    cases hd : declared? d s with
    | none => rw [List.find?_cons_of_pos (by simpa using declared?_eq_none_iff.1 hd)]
    | some rules =>
      have hmem : s ∈ d.map Prod.fst := by
        refine Decidable.byContradiction fun hmem => ?_
        rw [declared?_eq_none_iff.2 hmem] at hd
        cases hd
      rw [List.find?_cons_of_neg (by simpa using hmem), List.map_cons, hd]
      simp only [ih]
      cases states.find? (· ∉ d.map Prod.fst) <;> rfl

end

/-! ## one declaration behind others -/

variable [ScannerState S]

/-- a state has a place below the number of states if and only if it is listed there -/
def Indexed (S : Type) [ScannerState S] : Prop :=
  ∀ (s : S) (i : Nat), (ScannerState.all (S := S))[i]? = some s
    ↔ ScannerState.index s = i ∧ i < (ScannerState.all (S := S)).length

theorem Indexed.mem_all_iff (hs : Indexed S) (s : S) :
    s ∈ ScannerState.all (S := S)
      ↔ ScannerState.index s < (ScannerState.all (S := S)).length := by
  rw [List.mem_iff_getElem?]
  constructor
  · rintro ⟨i, hi⟩
    obtain ⟨rfl, hlt⟩ := (hs s i).1 hi
    exact hlt
  · exact fun hlt => ⟨_, (hs s _).2 ⟨rfl, hlt⟩⟩

variable [DecidableEq S]

/-- the places of a table behind some declarations -/
def placesBehind (d : Declarations S K) : List (Option (List (Rule S K))) :=
  ScannerState.all.map (declared? d)

theorem getElem?_placesBehind (hs : Indexed S) (d : Declarations S K) (s : S) :
    (placesBehind d)[ScannerState.index s]?
      = if ScannerState.index s < (ScannerState.all (S := S)).length then some (declared? d s)
        else none := by
  rw [placesBehind, List.getElem?_map]
  split
  · next hlt => rw [(hs s _).2 ⟨rfl, hlt⟩, Option.map_some]
  · next hge => rw [List.getElem?_eq_none (Nat.le_of_not_lt hge), Option.map_none]

/-- a declaration fills the place of its state -/
theorem set_placesBehind (hs : Indexed S) {d : Declarations S K} {s : S}
    (h : s ∉ d.map Prod.fst) (specs : List (RuleSpec S K)) :
    (placesBehind d).set (ScannerState.index s) (some (compiledRules specs))
      = placesBehind (d ++ [(s, specs)]) := by
  refine List.ext_getElem? fun i => ?_
  rw [List.getElem?_set, placesBehind, placesBehind, List.length_map, List.getElem?_map,
    List.getElem?_map]
  cases hi : (ScannerState.all (S := S))[i]? with
  | none =>
    have hlen := List.getElem?_eq_none_iff.1 hi
    split
    · next heq => rw [if_neg (by omega)]; rfl
    · rfl
  | some s' =>
    obtain ⟨rfl, hlt⟩ := (hs s' i).1 hi
    rw [Option.map_some, Option.map_some, declared?_concat h]
    by_cases heq : s = s'
    · rw [if_pos (congrArg _ heq), if_pos (heq ▸ hlt), if_pos heq]
    · -- states with the same index are listed at the same place
      have hne : ScannerState.index s ≠ ScannerState.index s' := fun hidx => by
        have hs' := (hs s _).2 ⟨hidx, hlt⟩
        rw [hi] at hs'
        exact heq (Option.some.inj hs').symm
      rw [if_neg hne, if_neg heq]

/-- the fault of a declaration behind others: its state has no place, is declared before, or has
bad rules -/
def fault? (d : Declarations S K) (c : S × List (RuleSpec S K)) : Option (TableError S) :=
  if (ScannerState.all (S := S)).length ≤ ScannerState.index c.1 then some (.missingState c.1)
  else if c.1 ∈ d.map Prod.fst then some (.duplicateState c.1)
  else rulesFault? c.1 c.2

theorem declare_placesBehind (hs : Indexed S) (d : Declarations S K)
    (c : S × List (RuleSpec S K)) :
    declare (placesBehind d) c.1 c.2 = match fault? d c with
      | some e => .error e
      | none => .ok (placesBehind (d ++ [c])) := by
  rw [declare, getElem?_placesBehind hs, fault?]
  by_cases hlt : ScannerState.index c.1 < (ScannerState.all (S := S)).length
  · rw [if_pos hlt, if_neg (Nat.not_le_of_lt hlt)]
    by_cases hmem : c.1 ∈ d.map Prod.fst
    · rw [if_pos hmem]
      cases hd : declared? d c.1 with
      | none => exact absurd hmem (declared?_eq_none_iff.1 hd)
      | some rules => rfl
    · rw [if_neg hmem, declared?_eq_none_iff.2 hmem]
      simp only [compileState_eq]
      cases rulesFault? c.1 c.2 with
      | some e => rfl
      | none => exact congrArg Except.ok (set_placesBehind hs hmem c.2)
  · rw [if_neg hlt, if_pos (Nat.le_of_not_lt hlt)]

/-! ## all declarations -/

/-- the first fault of declarations behind others -/
def firstFault? : (d rest : Declarations S K) → Option (TableError S)
  | _, [] => none
  | d, c :: rest => (fault? d c).or (firstFault? (d ++ [c]) rest)

theorem declareAll_placesBehind (hs : Indexed S) (d rest : Declarations S K) :
    declareAll (placesBehind d) rest = match firstFault? d rest with
      | some e => .error e
      | none => .ok (placesBehind (d ++ rest)) := by
  induction rest generalizing d with
  | nil => rw [List.append_nil]; rfl
  | cons c rest ih =>
    rw [declareAll, declare_placesBehind hs, firstFault?]
    cases fault? d c with
    | some e => rfl
    | none =>
      show declareAll (placesBehind (d ++ [c])) rest = _
      rw [ih, List.append_assoc, List.singleton_append, Option.none_or]

/-- The table of some declarations, or their first fault; a state that is left out is one only if
there is no other. -/
theorem RuleTable.build_eq (hs : Indexed S) (d : Declarations S K) :
    RuleTable.build d = match firstFault? [] d with
      | some e => .error e
      | none =>
        match (ScannerState.all (S := S)).find? (· ∉ d.map Prod.fst) with
        | some s => .error (.missingState s)
        | none => .ok ⟨ScannerState.all.map fun s => (declared? d s).getD []⟩ := by
  have hempty : ((ScannerState.all (S := S)).map fun _ => none) = placesBehind (K := K) [] := rfl
  rw [build, hempty, declareAll_placesBehind hs, List.nil_append]
  cases firstFault? [] d with
  | some e => rfl
  | none =>
    show (collect _ (ScannerState.all.map (declared? d))).map _ = _
    rw [collect_map]
    cases (ScannerState.all (S := S)).find? (· ∉ d.map Prod.fst) <;> rfl

/-! ## declarations without a fault -/

/-- declarations of all states, each declared once, whose rules compile and end in one that matches
the empty text -/
structure Complete (d : Declarations S K) : Prop where
  placed : ∀ c ∈ d, ScannerState.index c.1 < (ScannerState.all (S := S)).length
  once : ∀ s ∈ ScannerState.all (S := S), (d.map Prod.fst).count s = 1
  compiles : ∀ c ∈ d, ∀ spec ∈ c.2, ∃ r, spec.compile = .ok r
  fallback : ∀ c ∈ d, ∃ last r, c.2.getLast? = some last ∧ last.compile = .ok r
    ∧ r.isFallback = true

theorem fault?_eq_none_iff {d : Declarations S K} {c : S × List (RuleSpec S K)} :
    fault? d c = none ↔ ScannerState.index c.1 < (ScannerState.all (S := S)).length
      ∧ c.1 ∉ d.map Prod.fst ∧ rulesFault? c.1 c.2 = none := by
  rw [fault?]
  split
  · next hge => exact ⟨fun h => (by cases h), fun h => absurd h.1 (Nat.not_lt_of_le hge)⟩
  · next hlt =>
    split
    · next hmem => exact ⟨fun h => (by cases h), fun h => absurd hmem h.2.1⟩
    · next hmem => exact ⟨fun h => ⟨Nat.lt_of_not_le hlt, hmem, h⟩, fun h => h.2.2⟩

theorem firstFault?_eq_none_iff {d rest : Declarations S K} :
    firstFault? d rest = none
      ↔ (∀ c ∈ rest, ScannerState.index c.1 < (ScannerState.all (S := S)).length
          ∧ rulesFault? c.1 c.2 = none)
        ∧ (rest.map Prod.fst).Nodup ∧ ∀ c ∈ rest, c.1 ∉ d.map Prod.fst := by
  induction rest generalizing d with
  | nil => simp [firstFault?]
  | cons c rest ih =>
    rw [firstFault?, Option.or_eq_none_iff, ih, fault?_eq_none_iff]
    simp only [List.mem_cons, List.map_cons, List.nodup_cons, List.map_append, List.mem_append,
      List.map_nil, List.mem_map]
    grind

theorem complete_iff (hs : Indexed S) {d : Declarations S K} :
    Complete d ↔ firstFault? [] d = none
      ∧ (ScannerState.all (S := S)).find? (· ∉ d.map Prod.fst) = none := by
  rw [firstFault?_eq_none_iff, List.find?_eq_none]
  constructor
  · intro h
    refine ⟨⟨fun c hc => ⟨h.placed c hc, ?_⟩, ?_, fun c _ => List.not_mem_nil⟩, fun s hmem => ?_⟩
    · exact rulesFault?_eq_none_iff.2 ⟨h.compiles c hc, h.fallback c hc⟩
    · refine List.nodup_iff_count_le_one.2 fun s => ?_
      by_cases hmem : s ∈ ScannerState.all (S := S)
      · exact Nat.le_of_eq (h.once s hmem)
      · -- only states that are listed are declared
        rw [List.count_eq_zero_of_not_mem]
        · exact Nat.zero_le 1
        · intro hdecl
          obtain ⟨c, hc, rfl⟩ := List.mem_map.1 hdecl
          exact hmem ((hs.mem_all_iff _).2 (h.placed c hc))
    · have hpos : 0 < (d.map Prod.fst).count s := by
        rw [h.once s hmem]
        exact Nat.one_pos
      simpa using List.count_pos_iff.1 hpos
  · rintro ⟨⟨hfault, hnodup, -⟩, hall⟩
    refine ⟨fun c hc => (hfault c hc).1, fun s hmem => ?_, fun c hc => ?_, fun c hc => ?_⟩
    · exact List.count_eq_one_of_mem hnodup (by simpa using hall s hmem)
    · exact (rulesFault?_eq_none_iff.1 (hfault c hc).2).1
    · exact (rulesFault?_eq_none_iff.1 (hfault c hc).2).2

theorem Complete.perm {d d' : Declarations S K} (h : Complete d) (hp : d.Perm d') :
    Complete d' where
  placed c hc := h.placed c (hp.mem_iff.2 hc)
  once s hs := by rw [← h.once s hs, (hp.map Prod.fst).count_eq]
  compiles c hc := h.compiles c (hp.mem_iff.2 hc)
  fallback c hc := h.fallback c (hp.mem_iff.2 hc)

/-! ## what is built, and what is reported -/

/-- the table has for each state the rules that are declared for it, in their order -/
structure RuleTable.Holds (table : RuleTable S K) (d : Declarations S K) : Prop where
  rules : ∀ c ∈ d, (table.rules c.1).map Rule.toRuleSpec = c.2
  others : ∀ s, s ∉ d.map Prod.fst → table.rules s = []
  size : table.size = (d.flatMap Prod.snd).length

/-- no declaration has a fault behind those before it -/
def Clean (d : Declarations S K) : Prop :=
  ∀ before c after, d = before ++ c :: after → fault? before c = none

/-- The fault of the first declaration that has one; if none has, the first of all states that is
left out is missing. -/
inductive FirstFault (d : Declarations S K) : TableError S → Prop
  | declaration {before after : Declarations S K} {c : S × List (RuleSpec S K)} {e : TableError S}
      (split : d = before ++ c :: after) (clean : Clean before)
      (fault : fault? before c = some e) : FirstFault d e
  | leftOut {s : S} (clean : Clean d)
      (first : (ScannerState.all (S := S)).find? (· ∉ d.map Prod.fst) = some s) :
      FirstFault d (.missingState s)

theorem firstFault?_eq_none_iff_forall {d rest : Declarations S K} :
    firstFault? d rest = none
      ↔ ∀ before c after, rest = before ++ c :: after → fault? (d ++ before) c = none := by
  induction rest generalizing d with
  | nil =>
    exact ⟨fun _ before c after h => absurd h.symm (List.append_ne_nil_of_right_ne_nil _
      (List.cons_ne_nil c after)), fun _ => rfl⟩
  | cons x rest ih =>
    rw [firstFault?, Option.or_eq_none_iff, ih]
    constructor
    · rintro ⟨hx, hrest⟩ before c after h
      cases before with
      | nil =>
        obtain ⟨rfl, -⟩ := List.cons.inj h
        rw [List.append_nil]
        exact hx
      | cons y before =>
        obtain ⟨rfl, htail⟩ := List.cons.inj h
        have := hrest before c after htail
        rwa [List.append_assoc, List.singleton_append] at this
    · intro h
      refine ⟨?_, fun before c after hsplit => ?_⟩
      · have := h [] x rest rfl
        rwa [List.append_nil] at this
      · rw [List.append_assoc, List.singleton_append]
        exact h (x :: before) c after (congrArg (x :: ·) hsplit)

theorem firstFault?_eq_some_iff {d rest : Declarations S K} {e : TableError S} :
    firstFault? d rest = some e ↔ ∃ before c after, rest = before ++ c :: after
      ∧ firstFault? d before = none ∧ fault? (d ++ before) c = some e := by
  induction rest generalizing d with
  | nil =>
    refine ⟨fun h => (by cases h), fun ⟨before, c, after, h, _⟩ => ?_⟩
    exact absurd h.symm (List.append_ne_nil_of_right_ne_nil _ (List.cons_ne_nil c after))
  | cons x rest ih =>
    rw [firstFault?, Option.or_eq_some_iff, ih]
    constructor
    · rintro (hx | ⟨hx, before, c, after, rfl, hclean, hc⟩)
      · exact ⟨[], x, rest, rfl, rfl, by rw [List.append_nil]; exact hx⟩
      · refine ⟨x :: before, c, after, rfl, ?_, ?_⟩
        · rw [firstFault?, hx, hclean]
          rfl
        · rw [← hc, List.append_assoc, List.singleton_append]
    · rintro ⟨before, c, after, h, hclean, hc⟩
      cases before with
      | nil =>
        obtain ⟨rfl, -⟩ := List.cons.inj h
        rw [List.append_nil] at hc
        exact .inl hc
      | cons y before =>
        obtain ⟨rfl, htail⟩ := List.cons.inj h
        rw [firstFault?, Option.or_eq_none_iff] at hclean
        refine .inr ⟨hclean.1, before, c, after, htail, hclean.2, ?_⟩
        rw [← hc, List.append_assoc, List.singleton_append]

theorem clean_iff {d : Declarations S K} : Clean d ↔ firstFault? [] d = none := by
  rw [firstFault?_eq_none_iff_forall]
  rfl

theorem build_eq_error_iff (hs : Indexed S) {d : Declarations S K} {e : TableError S} :
    RuleTable.build d = .error e ↔ FirstFault d e := by
  rw [RuleTable.build_eq hs]
  constructor
  · intro h
    cases hfirst : firstFault? [] d with
    | some e' =>
      rw [hfirst] at h
      injection h with h
      obtain ⟨before, c, after, hsplit, hclean, hc⟩ := firstFault?_eq_some_iff.1 hfirst
      exact .declaration hsplit (clean_iff.2 hclean) (h ▸ hc)
    | none =>
      rw [hfirst] at h
      dsimp only at h
      cases hall : (ScannerState.all (S := S)).find? (· ∉ d.map Prod.fst) with
      | some s =>
        rw [hall] at h
        injection h with h
        exact h ▸ .leftOut (clean_iff.2 hfirst) hall
      | none =>
        rw [hall] at h
        cases h
  · intro h
    cases h with
    | declaration split clean fault =>
      rw [firstFault?_eq_some_iff.2 ⟨_, _, _, split, clean_iff.1 clean, fault⟩]
    | leftOut clean first =>
      rw [clean_iff.1 clean]
      simp only [first]

/-- a pattern that is reported is one that cannot be read -/
theorem exists_parse_error (hs : Indexed S) {d : Declarations S K} {s : S} {pattern : String}
    (h : RuleTable.build d = .error (.invalidPattern s pattern)) :
    ∃ e, Regex.parse (anchor pattern) = .error e := by
  cases (build_eq_error_iff hs).1 h with
  | @declaration before after c _ _ _ fault =>
    rw [fault?] at fault
    split at fault
    · cases fault
    split at fault
    · cases fault
    obtain ⟨spec, hspec, rfl⟩ := exists_of_rulesFault? fault
    exact spec.exists_parse_error hspec

theorem exists_build_iff (hs : Indexed S) {d : Declarations S K} :
    (∃ table, RuleTable.build d = .ok table) ↔ Complete d := by
  rw [RuleTable.build_eq hs, complete_iff hs]
  cases firstFault? [] d with
  | some e => exact ⟨fun ⟨_, h⟩ => (by cases h), fun ⟨h, _⟩ => (by cases h)⟩
  | none =>
    dsimp only
    cases (ScannerState.all (S := S)).find? (· ∉ d.map Prod.fst) with
    | some s => exact ⟨fun ⟨_, h⟩ => (by cases h), fun ⟨_, h⟩ => (by cases h)⟩
    | none => exact ⟨fun _ => ⟨rfl, rfl⟩, fun _ => ⟨_, rfl⟩⟩

theorem nodup_of_complete (hs : Indexed S) {d : Declarations S K} (h : Complete d) :
    (d.map Prod.fst).Nodup :=
  (firstFault?_eq_none_iff.1 ((complete_iff hs).1 h).1).2.1

/-- the table of complete declarations -/
theorem build_of_complete (hs : Indexed S) {d : Declarations S K} (h : Complete d) :
    RuleTable.build d = .ok ⟨ScannerState.all.map fun s => (declared? d s).getD []⟩ := by
  obtain ⟨hfirst, hall⟩ := (complete_iff hs).1 h
  rw [RuleTable.build_eq hs, hfirst]
  simp only [hall]

/-- complete declarations are those of all states, in some order -/
theorem perm_all_of_complete (hs : Indexed S) {d : Declarations S K} (h : Complete d) :
    (ScannerState.all (S := S)).Perm (d.map Prod.fst) := by
  have hnodup : (ScannerState.all (S := S)).Nodup := by
    refine List.nodup_iff_injective_get.2 fun i j hij => Fin.ext ?_
    have hi := ((hs _ i).1 (List.getElem?_eq_getElem i.2)).1
    have hj := ((hs _ j).1 (List.getElem?_eq_getElem j.2)).1
    rw [← hi, ← hj]
    exact congrArg _ hij
  refine (List.perm_ext_iff_of_nodup hnodup (nodup_of_complete hs h)).2 fun s => ?_
  constructor
  · intro hmem
    refine List.count_pos_iff.1 ?_
    rw [h.once s hmem]
    exact Nat.one_pos
  · intro hmem
    obtain ⟨c, hc, rfl⟩ := List.mem_map.1 hmem
    exact (hs.mem_all_iff _).2 (h.placed c hc)

theorem rules_of_places (hs : Indexed S) (rulesOf : S → List (Rule S K)) (s : S) :
    (⟨ScannerState.all.map rulesOf⟩ : RuleTable S K).rules s
      = if s ∈ ScannerState.all (S := S) then rulesOf s else [] := by
  rw [RuleTable.rules, List.getElem?_map]
  split
  · next hmem =>
    rw [(hs s _).2 ⟨rfl, (hs.mem_all_iff s).1 hmem⟩]
    rfl
  · next hmem =>
    rw [List.getElem?_eq_none (Nat.le_of_not_lt fun hlt => hmem ((hs.mem_all_iff s).2 hlt))]
    rfl

theorem holds_of_complete (hs : Indexed S) {d : Declarations S K} (h : Complete d) :
    RuleTable.Holds ⟨ScannerState.all.map fun s => (declared? d s).getD []⟩ d := by
  have hdeclared : ∀ c ∈ d, (declared? d c.1).getD [] = compiledRules c.2 := fun c hc => by
    rw [declared?_of_mem (nodup_of_complete hs h) hc, Option.getD_some]
  refine ⟨fun c hc => ?_, fun s hout => ?_, ?_⟩
  · rw [rules_of_places hs, if_pos ((hs.mem_all_iff _).2 (h.placed c hc)), hdeclared c hc]
    exact map_toRuleSpec_compiledRules (h.compiles c hc)
  · rw [rules_of_places hs, declared?_eq_none_iff.2 hout]
    split <;> rfl
  · have hspecs : d.flatMap Prod.snd
        = (d.flatMap fun c => (declared? d c.1).getD []).map Rule.toRuleSpec := by
      rw [List.map_flatMap]
      refine List.flatMap_congr fun c hc => ?_
      rw [hdeclared c hc, map_toRuleSpec_compiledRules (h.compiles c hc)]
    rw [RuleTable.size, foldl_length, Nat.zero_add, ← List.flatMap_def, hspecs, List.length_map,
      ((perm_all_of_complete hs h).flatMap_right _).length_eq, List.flatMap_map]

/-- A table is built of complete declarations and of no others; it holds what is declared and does
not depend on the order.  Of other declarations the first fault is reported. -/
theorem build_iff_complete (hs : Indexed S) (d : Declarations S K) :
    ((∃ table, RuleTable.build d = .ok table) ↔ Complete d)
      ∧ (∀ table, RuleTable.build d = .ok table →
          table.Holds d ∧ ∀ d', d.Perm d' → RuleTable.build d' = .ok table)
      ∧ ∀ e, RuleTable.build d = .error e ↔ FirstFault d e := by
  refine ⟨exists_build_iff hs, fun table htable => ?_, fun e => build_eq_error_iff hs⟩
  have hd : Complete d := (exists_build_iff hs).1 ⟨table, htable⟩
  rw [build_of_complete hs hd] at htable
  injection htable with htable
  refine ⟨htable ▸ holds_of_complete hs hd, fun d' hp => ?_⟩
  rw [build_of_complete hs (hd.perm hp), ← declared?_perm (nodup_of_complete hs hd) hp, htable]

theorem indexed_state : Indexed Riff.State := by
  intro s i
  constructor
  · intro h
    obtain ⟨hi, rfl⟩ := List.getElem?_eq_some_iff.1 h
    have hindex : ∀ j : Fin 6, Riff.State.index Riff.State.all[j] = j := by decide
    exact ⟨hindex ⟨i, hi⟩, hi⟩
  · rintro ⟨rfl, -⟩
    exact s.all_index

/-- The states of Riff, each with one rule: forward and backward they build the same table.  A state
that is declared twice is reported before the bad pattern of its second declaration. -/
theorem build_iff_complete_states :
    Indexed Riff.State
      ∧ (∃ table : RuleTable Riff.State Riff.Kind,
          RuleTable.build (Riff.State.all.map fun s => (s, [⟨".?", .comment, .stay⟩])) = .ok table
            ∧ RuleTable.build (Riff.State.all.map fun s => (s, [⟨".?", .comment, .stay⟩])).reverse
              = .ok table
            ∧ table.size = 6)
      ∧ RuleTable.build (K := Riff.Kind)
          [(Riff.State.comment, [⟨"[*]/", .comment, .pop⟩, ⟨".?", .comment, .stay⟩]),
            (.start, [⟨".?", .plain, .stay⟩]), (.comment, [⟨"(", .comment, .stay⟩])]
        = .error (.duplicateState .comment) := by
  have hall := build_iff_complete indexed_state
    ((Riff.State.all.map fun s => (s, [⟨".?", .comment, .stay⟩])) : Declarations _ Riff.Kind)
  have htwice := build_iff_complete indexed_state ([(Riff.State.comment,
      [⟨"[*]/", .comment, .pop⟩, ⟨".?", .comment, .stay⟩]), (.start, [⟨".?", .plain, .stay⟩]),
      (.comment, [⟨"(", .comment, .stay⟩])] : Declarations _ Riff.Kind)
  refine ⟨indexed_state, ?_, ?_⟩
  · obtain ⟨table, htable⟩ := hall.1.2 ((complete_iff indexed_state).2
      ⟨by decide +kernel, by decide +kernel⟩)
    obtain ⟨hholds, hperm⟩ := hall.2.1 table htable
    exact ⟨table, htable, hperm _ (List.reverse_perm _).symm, hholds.size⟩
  · exact (htwice.2.2 _).2 (@FirstFault.declaration _ _ _ _ _ [_, _] [] _ _ rfl
      (clean_iff.2 (by decide +kernel)) (by decide +kernel))

end Workbench.Scanner
