import Workbench.Proofs.Scanner.Run

/-!
# What lies under a stack

A table nests if its rules go to no push-only state and pop such states only.  Then a stack whose
bottom is not push-only keeps such a bottom: a push-only state on top has something under it, and
every other state can be replaced but not popped.  So nothing is ever popped off the bottom
(`Nests.depth_of_pop`), and states that are put under a stack are neither seen nor changed by a scan
(`Nests.scan_onto`).

* `bottom`   the state at the bottom, by which a saved stack is accepted (`ofList_eq_ok_iff`);
* `onto`     a stack with more states under it;
* `Nests`    what the rules of a table have to keep to.
-/

namespace Workbench.Scanner

variable {S K : Type}

namespace StateStack

/-- every list of states but the empty one is that of a stack -/
theorem exists_toList_eq {states : List S} (h : states ≠ []) :
    ∃ st : StateStack S, st.toList = states := by
  obtain ⟨top, under, hrev⟩ :=
    List.exists_cons_of_ne_nil fun hnil => h (List.reverse_eq_nil_iff.1 hnil)
  refine ⟨⟨top, under⟩, ?_⟩
  rw [toList, ← List.reverse_cons, ← hrev, List.reverse_reverse]

/-! ## bottoms -/

/-- the state at the bottom -/
def bottom (st : StateStack S) : S := st.under.getLast?.getD st.top

@[simp] theorem head?_toList (st : StateStack S) : st.toList.head? = some st.bottom := by
  rw [toList, List.head?_append, List.head?_reverse, bottom]
  cases st.under.getLast? <;> rfl

@[simp] theorem bottom_push (st : StateStack S) (s : S) : (st.push s).bottom = st.bottom := by
  show (st.top :: st.under).getLast?.getD s = _
  rw [List.getLast?_cons, Option.getD_some, bottom]

@[simp] theorem bottom_pop (st : StateStack S) : st.pop.2.bottom = st.bottom := by
  obtain ⟨top, under⟩ := st
  cases under with
  | nil => rfl
  | cons s under =>
    show under.getLast?.getD s = (s :: under).getLast?.getD top
    rw [List.getLast?_cons, Option.getD_some]

/-- only a stack of one state has its bottom replaced -/
theorem bottom_goto (st : StateStack S) (s : S) :
    (st.goto s).bottom = if st.under = [] then s else st.bottom := by
  obtain ⟨top, under⟩ := st
  cases under with
  | nil => rfl
  | cons s' under =>
    show (s' :: under).getLast?.getD s = (s' :: under).getLast?.getD top
    rw [List.getLast?_cons, Option.getD_some, Option.getD_some]

theorem ofList_toList [ScannerState S] (st : StateStack S) :
    ofList st.toList = if ScannerState.pushOnly st.bottom
      then .error (.pushOnlyBottom (ScannerState.label st.bottom)) else .ok st := by
  have hrev : st.toList.reverse = st.top :: st.under := by simp [toList]
  rw [ofList, st.head?_toList, hrev]

/-- a list of states is accepted if it is that of a stack whose bottom is not push-only -/
theorem ofList_eq_ok_iff [ScannerState S] {states : List S} {st : StateStack S} :
    ofList states = .ok st ↔ st.toList = states ∧ ScannerState.pushOnly st.bottom = false := by
  constructor
  · intro h
    have hlist := toList_of_ofList h
    rw [← hlist, ofList_toList] at h
    split at h
    · cases h
    · next hp => exact ⟨hlist, Bool.eq_false_iff.2 hp⟩
  · rintro ⟨rfl, hp⟩
    rw [ofList_toList, hp]
    rfl

/-! ## more states under a stack -/

/-- the stack with more states under it, bottom first -/
def onto (st : StateStack S) (xs : List S) : StateStack S := ⟨st.top, st.under ++ xs.reverse⟩

theorem toList_onto (st : StateStack S) (xs : List S) : (st.onto xs).toList = xs ++ st.toList := by
  rw [toList, toList, onto, List.reverse_append, List.reverse_reverse, List.append_assoc]

/-- an action does not touch what lies under the stack, unless it pops the bottom -/
theorem apply_onto (st : StateStack S) (xs : List S) {a : Action S}
    (h : a = .pop → 1 < st.depth) : (st.onto xs).apply a = (st.apply a).onto xs := by
  obtain ⟨top, under⟩ := st
  cases a with
  | stay | goto s | push s => rfl
  | pop =>
    cases under with
    | nil => exact absurd (h rfl) (Nat.lt_irrefl 1)
    | cons s under => rfl

end StateStack

/-- the same move with more states under its stack -/
def Move.onto (m : Move S K) (xs : List S) : Move S K := { m with stack := m.stack.onto xs }

theorem Move.after_onto (m : Move S K) (xs : List S) (h : m.action = .pop → 1 < m.stack.depth) :
    (m.onto xs).after = m.after.onto xs :=
  m.stack.apply_onto xs h

theorem Move.map_piece_onto (ms : List (Move S K)) (xs : List S) :
    (ms.map (·.onto xs)).map Move.piece = ms.map Move.piece := by
  rw [List.map_map]
  rfl

variable [ScannerState S]

/-! ## rules that nest -/

/-- whether an action of a state goes to no push-only state, and pops only such a one -/
def Action.nests (s : S) : Action S → Bool
  | .stay | .push _ => true
  | .goto s' => !ScannerState.pushOnly s'
  | .pop => ScannerState.pushOnly s

/-- a stack of which the bottom is push-only is never made -/
theorem StateStack.pushOnly_bottom_apply {st : StateStack S} {a : Action S}
    (ha : a.nests st.top = true) (h : ScannerState.pushOnly st.bottom = false) :
    ScannerState.pushOnly (st.apply a).bottom = false := by
  cases a with
  | stay => exact h
  | push s => rw [apply, bottom_push]; exact h
  | pop => rw [apply, bottom_pop]; exact h
  | goto s =>
    rw [apply, bottom_goto]
    split
    · rw [Action.nests, Bool.not_eq_true'] at ha
      exact ha
    · exact h

/-- a push-only state on top is not the bottom -/
theorem StateStack.depth_of_nests_pop {st : StateStack S}
    (ha : (Action.pop : Action S).nests st.top = true)
    (h : ScannerState.pushOnly st.bottom = false) : 1 < st.depth := by
  obtain ⟨top, under⟩ := st
  cases under with
  | cons s under => exact Nat.succ_lt_succ (Nat.succ_pos _)
  | nil =>
    have htop : ScannerState.pushOnly top = true := ha
    have hbottom : ScannerState.pushOnly top = false := h
    rw [htop] at hbottom
    cases hbottom

namespace RuleTable

/-- push-only states are entered by a push and left by a pop, and nothing else is popped -/
def Nests (table : RuleTable S K) : Prop := ∀ s, ∀ r ∈ table.rules s, r.action.nests s = true

variable [ScannerKind K] {table : RuleTable S K} {st st' : StateStack S} {t t' : Text}
  {ms : List (Move S K)}

/-! ## moves -/

theorem stack_move (table : RuleTable S K) (st : StateStack S) (c : Char) (t : Text) :
    (table.move st c t).stack = st := by
  unfold move
  split <;> rfl

theorem move_onto (table : RuleTable S K) (st : StateStack S) (xs : List S) (c : Char) (t : Text) :
    table.move (st.onto xs) c t = (table.move st c t).onto xs := by
  have htop : (st.onto xs).top = st.top := rfl
  unfold move
  rw [htop]
  split <;> rfl

theorem Nests.nests_move (h : table.Nests) (st : StateStack S) (c : Char) (t : Text) :
    (table.move st c t).action.nests st.top = true := by
  have hsel : ∀ r n, table.select st.top (c :: t) = some (r, n) → r.action.nests st.top = true := by
    intro r n hr
    obtain ⟨q, hq, hqr⟩ := List.exists_of_findSome?_eq_some hr
    obtain ⟨m, -, hm⟩ := Option.map_eq_some_iff.1 hqr
    injection hm with hqr
    exact hqr ▸ h st.top q hq
  unfold move
  split
  · next r n hr => exact hsel r _ hr
  · next r hr => exact hsel r 0 hr
  · rfl

/-! ## runs -/

/-- the bottom of a stack stays one that can be left, and nothing is popped off it -/
theorem Nests.run (h : table.Nests) (run : table.Run st t ms st' t')
    (hst : ScannerState.pushOnly st.bottom = false) :
    ScannerState.pushOnly st'.bottom = false ∧ ∀ m ∈ ms, m.action = .pop → 1 < m.stack.depth := by
  induction run with
  | done => exact ⟨hst, fun m hm => absurd hm List.not_mem_nil⟩
  | @move st st' c t rest t' m ms hm _ _ ih =>
    have hnests := h.nests_move st c t
    have hstack := table.stack_move st c t
    rw [hm] at hnests hstack
    have hafter : ScannerState.pushOnly m.after.bottom = false := by
      rw [Move.after, hstack]
      exact StateStack.pushOnly_bottom_apply hnests hst
    obtain ⟨hend, hpops⟩ := ih hafter
    refine ⟨hend, List.forall_mem_cons.2 ⟨fun hpop => ?_, hpops⟩⟩
    rw [hpop] at hnests
    rw [hstack]
    exact StateStack.depth_of_nests_pop hnests hst

/-- a run that pops nothing off the bottom is the same run with more states under its stacks -/
theorem Run.onto (run : table.Run st t ms st' t') (xs : List S)
    (h : ∀ m ∈ ms, m.action = .pop → 1 < m.stack.depth) :
    table.Run (st.onto xs) t (ms.map (·.onto xs)) (st'.onto xs) t' := by
  induction run with
  | done => exact .done _ _
  | @move st st' c t rest t' m ms hm ht _ ih =>
    obtain ⟨hhead, htail⟩ := List.forall_mem_cons.1 h
    rw [List.map_cons]
    refine .move (hm ▸ table.move_onto st xs c t) ht ?_
    rw [m.after_onto xs hhead]
    exact ih htail

/-! ## scans -/

theorem Nests.pushOnly_bottom_scan (h : table.Nests)
    (hst : ScannerState.pushOnly st.bottom = false) (t : Text) :
    ScannerState.pushOnly (table.scan st t).stack.bottom = false :=
  (h.run (table.run_moves st t) hst).1

/-- the bottom is never popped -/
theorem Nests.depth_of_pop (h : table.Nests) (hst : ScannerState.pushOnly st.bottom = false)
    (t : Text) : ∀ m ∈ table.moves st t, m.action = .pop → 1 < m.stack.depth :=
  (h.run (table.run_moves st t) hst).2

/-- what lies under a stack is neither seen nor changed -/
theorem Nests.scan_onto (h : table.Nests) (hst : ScannerState.pushOnly st.bottom = false)
    (xs : List S) (t : Text) :
    table.scan (st.onto xs) t = ⟨(table.scan st t).tokens, (table.scan st t).stack.onto xs⟩ := by
  have run := (table.run_moves st t).onto xs (h.depth_of_pop hst t)
  rw [scan_of_run run, Move.map_piece_onto]
  rfl

end RuleTable

end Workbench.Scanner
