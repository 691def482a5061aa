import Workbench.Pattern.Search

/-!
# Which steps of a program wait for a character

`spread` follows forks and conditions from the steps to do and takes no step twice; `Spreads` is the
same as a relation, without fuel.  What is to do first is reached first, so steps that are put
behind the others are found behind theirs: `exists_waitingAt_append`.

Where a step leads if its ways are tried one after the other is told by `Leads`.  That takes steps
again and again, but the first success is the same: a step that was reached before succeeds only if
a lower step in front of it does, and what is lower has been followed.  So the first success among
the steps that wait is the first among the steps to do: `findSome?_waitingAt`.
-/

namespace Workbench.Pattern.Program

/-! ## marks -/

theorem getD_mark (seen : Array Bool) (i j : Nat) :
    (seen.setIfInBounds i true).getD j true = (seen.getD j true || j == i) := by
  rw [Array.getD_eq_getD_getElem?, Array.getD_eq_getD_getElem?, Array.getElem?_setIfInBounds]
  by_cases h : i = j
  · subst h
    rw [if_pos rfl, beq_self_eq_true, Bool.or_true]
    split <;> rfl
  · rw [if_neg h, beq_false_of_ne (Ne.symm h), Bool.or_false]

theorem lt_size_of_unmarked {seen : Array Bool} {i : Nat} (h : seen.getD i true = false) :
    i < seen.size := by
  refine Nat.lt_of_not_le fun hle => ?_
  rw [Array.getD_eq_getD_getElem?, Array.getElem?_eq_none hle] at h
  cases h

/-- the steps that were not reached -/
def unmarked (seen : Array Bool) : Nat := seen.count false

theorem unmarked_mark {seen : Array Bool} {i : Nat} (h : seen.getD i true = false) :
    unmarked (seen.setIfInBounds i true) + 1 = unmarked seen := by
  have hi := lt_size_of_unmarked h
  have hfalse : seen[i] = false := by
    rwa [Array.getD_eq_getD_getElem?, Array.getElem?_eq_getElem hi] at h
  have hpos : 0 < seen.count false := Array.count_pos_iff.2 (hfalse ▸ Array.getElem_mem hi)
  rw [unmarked, unmarked, Array.setIfInBounds_def, dif_pos hi, Array.count_set, hfalse]
  exact Nat.sub_add_cancel hpos

/-! ## following forks and conditions -/

variable {program : Program} {p : Cursor}

/-- the steps that wait, as `spread` finds them, and the marks that it leaves, whatever the fuel -/
inductive Spreads (program : Program) (p : Cursor) :
    (todo : List Nat) → (seen : Array Bool) → (waiting : List Nat) → (seen' : Array Bool) → Prop
  | nil {seen : Array Bool} : Spreads program p [] seen [] seen
  | again {i : Nat} {todo waiting : List Nat} {seen seen' : Array Bool}
      (hseen : seen.getD i true = true) (rest : Spreads program p todo seen waiting seen') :
      Spreads program p (i :: todo) seen waiting seen'
  | fork {i a b : Nat} {todo waiting : List Nat} {seen seen' : Array Bool}
      (hseen : seen.getD i true = false) (hstep : program.steps.getD i .done = .fork a b)
      (rest : Spreads program p (a :: b :: todo) (seen.setIfInBounds i true) waiting seen') :
      Spreads program p (i :: todo) seen waiting seen'
  | look {i next : Nat} {l : Look} {todo waiting : List Nat} {seen seen' : Array Bool}
      (hseen : seen.getD i true = false) (hstep : program.steps.getD i .done = .look l next)
      (rest : Spreads program p (if l.holds p then next :: todo else todo)
        (seen.setIfInBounds i true) waiting seen') :
      Spreads program p (i :: todo) seen waiting seen'
  | wait {i : Nat} {todo waiting : List Nat} {seen seen' : Array Bool}
      (hseen : seen.getD i true = false)
      (hfork : ∀ a b, program.steps.getD i .done ≠ .fork a b)
      (hlook : ∀ l next, program.steps.getD i .done ≠ .look l next)
      (rest : Spreads program p todo (seen.setIfInBounds i true) waiting seen') :
      Spreads program p (i :: todo) seen (i :: waiting) seen'

/-- Each step that is reached adds at most two to do and is not reached again. -/
theorem exists_spreads (program : Program) (p : Cursor) (fuel : Nat) (todo : List Nat)
    (seen : Array Bool) (waiting : List Nat) (h : 2 * unmarked seen + todo.length < fuel) :
    ∃ ws seen', Spreads program p todo seen ws seen'
      ∧ program.spread p fuel todo seen waiting = waiting.reverse ++ ws := by
  fun_induction spread program p fuel todo seen waiting with
  | case1 => omega
  | case2 seen waiting => exact ⟨[], seen, .nil, (List.append_nil _).symm⟩
  | case3 fuel i todo seen waiting hseen ih =>
    obtain ⟨ws, seen', hspread, heq⟩ := ih (by rw [List.length_cons] at h; omega)
    exact ⟨ws, seen', .again hseen hspread, heq⟩
  | case4 fuel i todo seen waiting hseen seen₁ a b hstep ih =>
    rw [Bool.not_eq_true] at hseen
    have hmark : unmarked seen₁ + 1 = unmarked seen := unmarked_mark hseen
    obtain ⟨ws, seen', hspread, heq⟩ := ih (by simp only [List.length_cons] at h ⊢; omega)
    exact ⟨ws, seen', .fork hseen hstep hspread, heq⟩
  | case5 fuel i todo seen waiting hseen seen₁ l next hstep ih =>
    rw [Bool.not_eq_true] at hseen
    have hmark : unmarked seen₁ + 1 = unmarked seen := unmarked_mark hseen
    have hlen : (if l.holds p then next :: todo else todo).length ≤ todo.length + 1 := by
      split
      · exact Nat.le_refl _
      · exact Nat.le_succ _
    obtain ⟨ws, seen', hspread, heq⟩ := ih (by rw [List.length_cons] at h; omega)
    exact ⟨ws, seen', .look hseen hstep hspread, heq⟩
  | case6 fuel i todo seen waiting hseen seen₁ hfork hlook ih =>
    rw [Bool.not_eq_true] at hseen
    have hmark : unmarked seen₁ + 1 = unmarked seen := unmarked_mark hseen
    obtain ⟨ws, seen', hspread, heq⟩ := ih (by rw [List.length_cons] at h; omega)
    refine ⟨i :: ws, seen', .wait hseen hfork hlook hspread, ?_⟩
    rw [heq, List.reverse_cons, List.append_assoc]
    rfl

/-- no step is marked -/
def noMarks (program : Program) : Array Bool := Array.replicate program.steps.size false

theorem spreads_waitingAt (program : Program) (p : Cursor) (todo : List Nat) :
    ∃ seen', Spreads program p todo program.noMarks (program.waitingAt p todo) seen' := by
  have hsize : unmarked program.noMarks = program.steps.size := by
    rw [unmarked, noMarks, Array.count_replicate_self]
  obtain ⟨ws, seen', hspread, heq⟩ := program.exists_spreads p
    (2 * program.steps.size + todo.length + 1) todo program.noMarks [] (by omega)
  refine ⟨seen', ?_⟩
  have hws : program.waitingAt p todo = ws := heq
  rwa [hws]

namespace Spreads

variable {todo waiting waiting' : List Nat} {seen seen' seen'' : Array Bool}

/-- marks and waiting steps are determined -/
theorem unique (h : Spreads program p todo seen waiting seen')
    (h' : Spreads program p todo seen waiting' seen'') : waiting = waiting' ∧ seen' = seen'' := by
  induction h generalizing waiting' with
  | nil => cases h'; exact ⟨rfl, rfl⟩
  | again hseen rest ih =>
    cases h' with
    | again _ rest' => exact ih rest'
    | fork hseen' | look hseen' | wait hseen' => rw [hseen] at hseen'; cases hseen'
  | fork hseen hstep rest ih =>
    cases h' with
    | again hseen' => rw [hseen] at hseen'; cases hseen'
    | fork _ hstep' rest' =>
      rw [hstep] at hstep'
      cases hstep'
      exact ih rest'
    | look _ hstep' => rw [hstep] at hstep'; cases hstep'
    | wait _ hfork => exact absurd hstep (hfork _ _)
  | look hseen hstep rest ih =>
    cases h' with
    | again hseen' => rw [hseen] at hseen'; cases hseen'
    | fork _ hstep' => rw [hstep] at hstep'; cases hstep'
    | look _ hstep' rest' =>
      rw [hstep] at hstep'
      cases hstep'
      exact ih rest'
    | wait _ _ hlook => exact absurd hstep (hlook _ _)
  | wait hseen hfork hlook rest ih =>
    cases h' with
    | again hseen' => rw [hseen] at hseen'; cases hseen'
    | fork _ hstep' => exact absurd hstep' (hfork _ _)
    | look _ hstep' => exact absurd hstep' (hlook _ _)
    | wait _ _ _ rest' =>
      obtain ⟨rfl, rfl⟩ := ih rest'
      exact ⟨rfl, rfl⟩

/-- the steps that wait are neither forks nor conditions -/
theorem waits (h : Spreads program p todo seen waiting seen') :
    ∀ i ∈ waiting, program.steps.getD i .done = .done
      ∨ ∃ s next, program.steps.getD i .done = .set s next := by
  induction h with
  | nil => nofun
  | again _ _ ih | fork _ _ _ ih | look _ _ _ ih => exact ih
  | @wait i _ _ _ _ _ hfork hlook _ ih =>
    refine List.forall_mem_cons.2 ⟨?_, ih⟩
    cases hstep : program.steps.getD i .done with
    | done => exact .inl rfl
    | set s next => exact .inr ⟨s, next, rfl⟩
    | look l next => exact absurd hstep (hlook l next)
    | fork a b => exact absurd hstep (hfork a b)

/-- what is behind in the list is reached last -/
theorem of_append {todo' : List Nat} (h : Spreads program p (todo ++ todo') seen waiting seen') :
    ∃ ws ws' mid, waiting = ws ++ ws' ∧ Spreads program p todo seen ws mid
      ∧ Spreads program p todo' mid ws' seen' := by
  generalize heq : todo ++ todo' = all at h
  induction h generalizing todo with
  | nil =>
    obtain ⟨rfl, rfl⟩ := List.append_eq_nil_iff.1 heq
    exact ⟨[], [], _, rfl, .nil, .nil⟩
  | @again i rest ws₀ seen seen' hseen hrest ih =>
    cases todo with
    | nil =>
      obtain rfl : todo' = i :: rest := heq
      exact ⟨[], _, _, rfl, .nil, .again hseen hrest⟩
    | cons j todo =>
      obtain ⟨rfl, rfl⟩ := List.cons.inj heq
      obtain ⟨ws, ws', mid, rfl, h, h'⟩ := ih rfl
      exact ⟨ws, ws', mid, rfl, .again hseen h, h'⟩
  | @fork i a b rest ws₀ seen seen' hseen hstep hrest ih =>
    cases todo with
    | nil =>
      obtain rfl : todo' = i :: rest := heq
      exact ⟨[], _, _, rfl, .nil, .fork hseen hstep hrest⟩
    | cons j todo =>
      obtain ⟨rfl, rfl⟩ := List.cons.inj heq
      obtain ⟨ws, ws', mid, rfl, h, h'⟩ := @ih (a :: b :: todo) rfl
      exact ⟨ws, ws', mid, rfl, .fork hseen hstep h, h'⟩
  | @look i next l rest ws₀ seen seen' hseen hstep hrest ih =>
    cases todo with
    | nil =>
      obtain rfl : todo' = i :: rest := heq
      exact ⟨[], _, _, rfl, .nil, .look hseen hstep hrest⟩
    | cons j todo =>
      obtain ⟨rfl, rfl⟩ := List.cons.inj heq
      obtain ⟨ws, ws', mid, rfl, h, h'⟩ :=
        @ih (if l.holds p then next :: todo else todo) (by split <;> rfl)
      exact ⟨ws, ws', mid, rfl, .look hseen hstep h, h'⟩
  | @wait i rest ws₀ seen seen' hseen hfork hlook hrest ih =>
    cases todo with
    | nil =>
      obtain rfl : todo' = i :: rest := heq
      exact ⟨[], _, _, rfl, .nil, .wait hseen hfork hlook hrest⟩
    | cons j todo =>
      obtain ⟨rfl, rfl⟩ := List.cons.inj heq
      obtain ⟨ws, ws', mid, rfl, h, h'⟩ := ih rfl
      exact ⟨j :: ws, ws', mid, rfl, .wait hseen hfork hlook h, h'⟩

end Spreads

/-- steps that are put behind are reached behind the others -/
theorem exists_waitingAt_append (program : Program) (p : Cursor) (todo todo' : List Nat) :
    ∃ ws, program.waitingAt p (todo ++ todo') = program.waitingAt p todo ++ ws := by
  obtain ⟨_, h⟩ := program.spreads_waitingAt p (todo ++ todo')
  obtain ⟨_, h'⟩ := program.spreads_waitingAt p todo
  obtain ⟨ws, ws', _, heq, hleft, -⟩ := h.of_append
  exact ⟨ws', by rw [heq, (hleft.unique h').1]⟩

/-! ## where steps lead -/

/-- What following a step comes to if the ways are tried one after the other, with the height of
the tree of forks and conditions that are passed before the next character. -/
inductive Leads (program : Program) : (height i : Nat) → Cursor → Option Nat → Prop
  | done {i : Nat} {p : Cursor} (hstep : program.steps[i]? = some .done) :
      Leads program 0 i p (some p.taken)
  | pass {height i next : Nat} {p : Cursor} {s : CharSet} {c : Char} {rest : Text} {o : Option Nat}
      (hstep : program.steps[i]? = some (.set s next)) (hrest : p.rest = c :: rest)
      (hc : s.contains c = true) (h : Leads program height next (p.pass c rest) o) :
      Leads program 0 i p o
  | fail {i next : Nat} {p : Cursor} {s : CharSet} (hstep : program.steps[i]? = some (.set s next))
      (hc : ∀ c rest, p.rest = c :: rest → s.contains c = false) : Leads program 0 i p none
  | hold {height i next : Nat} {p : Cursor} {l : Look} {o : Option Nat}
      (hstep : program.steps[i]? = some (.look l next)) (hl : l.holds p = true)
      (h : Leads program height next p o) : Leads program (height + 1) i p o
  | block {i next : Nat} {p : Cursor} {l : Look} (hstep : program.steps[i]? = some (.look l next))
      (hl : l.holds p = false) : Leads program 0 i p none
  | fork {ha hb i a b : Nat} {p : Cursor} {o o' : Option Nat}
      (hstep : program.steps[i]? = some (.fork a b)) (hfirst : Leads program ha a p o)
      (hsecond : Leads program hb b p o') : Leads program (max ha hb + 1) i p (o.or o')

theorem Leads.unique {height height' i : Nat} {o o' : Option Nat}
    (h : Leads program height i p o) (h' : Leads program height' i p o') :
    height = height' ∧ o = o' := by
  -- the step decides which way is taken, so the other sides contradict it
  induction h generalizing height' o' with
  | done hstep => cases h' <;> grind
  | pass hstep hrest hc h ih => cases h' <;> grind
  | fail hstep hc => cases h' <;> grind
  | hold hstep hl h ih => cases h' <;> grind
  | block hstep hl => cases h' <;> grind
  | fork hstep hfirst hsecond iha ihb => cases h' <;> grind

/-- what a step leads to, if it leads somewhere -/
def Led (program : Program) (p : Cursor) (i : Nat) : Prop :=
  ∃ height o, Leads program height i p o

open Classical in
/-- what following a step comes to -/
noncomputable def outcome (program : Program) (p : Cursor) (i : Nat) : Option Nat :=
  if h : Led program p i then h.choose_spec.choose else none

open Classical in
/-- how many forks and conditions follow each other at one place -/
noncomputable def height (program : Program) (p : Cursor) (i : Nat) : Nat :=
  if h : Led program p i then h.choose else 0

theorem Leads.eq {n i : Nat} {o : Option Nat} (h : Leads program n i p o) :
    program.height p i = n ∧ program.outcome p i = o := by
  have hled : Led program p i := ⟨n, o, h⟩
  rw [height, outcome, dif_pos hled, dif_pos hled]
  exact hled.choose_spec.choose_spec.unique h

theorem Led.leads {i : Nat} (h : Led program p i) :
    Leads program (program.height p i) i p (program.outcome p i) := by
  obtain ⟨n, o, h⟩ := h
  rw [h.eq.1, h.eq.2]
  exact h

theorem step_eq {i : Nat} {step step' : Step} (h : program.steps[i]? = some step)
    (h' : program.steps.getD i .done = step') : step = step' := by
  rw [← h', Array.getD_eq_getD_getElem?, h]
  rfl

theorem Led.fork {i a b : Nat} (h : Led program p i)
    (hstep : program.steps.getD i .done = .fork a b) :
    Led program p a ∧ Led program p b
      ∧ program.outcome p i = (program.outcome p a).or (program.outcome p b)
      ∧ program.height p a < program.height p i ∧ program.height p b < program.height p i := by
  obtain ⟨n, o, h⟩ := h
  rw [h.eq.1, h.eq.2]
  cases h with
  | fork hstep' ha hb =>
    cases step_eq hstep' hstep
    rw [ha.eq.1, ha.eq.2, hb.eq.1, hb.eq.2]
    exact ⟨⟨_, _, ha⟩, ⟨_, _, hb⟩, rfl, by omega, by omega⟩
  | done hstep' | pass hstep' | fail hstep' | hold hstep' | block hstep' =>
    cases step_eq hstep' hstep

theorem Led.hold {i next : Nat} {l : Look} (h : Led program p i)
    (hstep : program.steps.getD i .done = .look l next) (hl : l.holds p = true) :
    Led program p next ∧ program.outcome p i = program.outcome p next
      ∧ program.height p next < program.height p i := by
  obtain ⟨n, o, h⟩ := h
  rw [h.eq.1, h.eq.2]
  cases h with
  | hold hstep' _ h =>
    cases step_eq hstep' hstep
    rw [h.eq.1, h.eq.2]
    exact ⟨⟨_, _, h⟩, rfl, Nat.lt_succ_self _⟩
  | block hstep' hl' =>
    cases step_eq hstep' hstep
    rw [hl] at hl'
    cases hl'
  | done hstep' | pass hstep' | fail hstep' | fork hstep' => cases step_eq hstep' hstep

theorem Led.block {i next : Nat} {l : Look} (h : Led program p i)
    (hstep : program.steps.getD i .done = .look l next) (hl : l.holds p = false) :
    program.outcome p i = none := by
  obtain ⟨n, o, h⟩ := h
  rw [h.eq.2]
  cases h with
  | hold hstep' hl' =>
    cases step_eq hstep' hstep
    rw [hl] at hl'
    cases hl'
  | block | fail => rfl
  | done hstep' | pass hstep' | fork hstep' => cases step_eq hstep' hstep

theorem Led.done {i : Nat} (h : Led program p i) (hstep : program.steps.getD i .done = .done) :
    program.outcome p i = some p.taken := by
  obtain ⟨n, o, h⟩ := h
  rw [h.eq.2]
  cases h with
  | done => rfl
  | pass hstep' | fail hstep' | hold hstep' | block hstep' | fork hstep' =>
    cases step_eq hstep' hstep

theorem Led.pass {i next : Nat} {s : CharSet} {c : Char} {rest : Text} (h : Led program p i)
    (hstep : program.steps.getD i .done = .set s next) (hrest : p.rest = c :: rest)
    (hc : s.contains c = true) :
    Led program (p.pass c rest) next
      ∧ program.outcome p i = program.outcome (p.pass c rest) next := by
  obtain ⟨n, o, h⟩ := h
  rw [h.eq.2]
  cases h with
  | pass hstep' hrest' _ h =>
    rw [hrest] at hrest'
    cases step_eq hstep' hstep
    cases hrest'
    exact ⟨⟨_, _, h⟩, h.eq.2.symm⟩
  | fail hstep' hc' =>
    cases step_eq hstep' hstep
    rw [hc' c rest hrest] at hc
    cases hc
  | done hstep' | hold hstep' | block hstep' | fork hstep' => cases step_eq hstep' hstep

theorem Led.fail {i next : Nat} {s : CharSet} (h : Led program p i)
    (hstep : program.steps.getD i .done = .set s next)
    (hc : ∀ c rest, p.rest = c :: rest → s.contains c = false) : program.outcome p i = none := by
  obtain ⟨n, o, h⟩ := h
  rw [h.eq.2]
  cases h with
  | pass hstep' hrest' hc' =>
    cases step_eq hstep' hstep
    rw [hc _ _ hrest'] at hc'
    cases hc'
  | fail | block => rfl
  | done hstep' | hold hstep' | fork hstep' => cases step_eq hstep' hstep

namespace Spreads

variable {todo waiting : List Nat} {seen seen' : Array Bool}

theorem led_of_mem (h : Spreads program p todo seen waiting seen')
    (hled : ∀ i ∈ todo, Led program p i) : ∀ i ∈ waiting, Led program p i := by
  induction h with
  | nil => exact hled
  | again _ _ ih => exact ih fun j hj => hled j (List.mem_cons_of_mem _ hj)
  | fork _ hstep _ ih =>
    obtain ⟨hi, hled⟩ := List.forall_mem_cons.1 hled
    obtain ⟨ha, hb, -⟩ := hi.fork hstep
    exact ih (List.forall_mem_cons.2 ⟨ha, List.forall_mem_cons.2 ⟨hb, hled⟩⟩)
  | look _ hstep _ ih =>
    obtain ⟨hi, hled⟩ := List.forall_mem_cons.1 hled
    refine ih ?_
    split
    · next hl => exact List.forall_mem_cons.2 ⟨(hi.hold hstep hl).1, hled⟩
    · exact hled
  | wait _ _ _ _ ih =>
    obtain ⟨hi, hled⟩ := List.forall_mem_cons.1 hled
    exact List.forall_mem_cons.2 ⟨hi, ih hled⟩

/-- the first step that succeeds lies lower than the given one -/
def Ahead (program : Program) (p : Cursor) (todo : List Nat) (k : Nat) : Prop :=
  ∃ j, todo.find? (fun i => (program.outcome p i).isSome) = some j
    ∧ program.height p j < program.height p k

/-- A reached step gives way to lower steps that come to the same, in front of the others. -/
theorem ahead_mark {i : Nat} {todo : List Nat} {seen : Array Bool} (new : List Nat)
    (hnew : new.findSome? (program.outcome p) = program.outcome p i)
    (hlow : ∀ j ∈ new, program.height p j < program.height p i)
    (hseen : ∀ k, seen.getD k true = true → program.outcome p k ≠ none →
      Ahead program p (i :: todo) k) (k : Nat)
    (hk : (seen.setIfInBounds i true).getD k true = true) (hok : program.outcome p k ≠ none) :
    Ahead program p (new ++ todo) k := by
  rw [getD_mark, Bool.or_eq_true, beq_iff_eq] at hk
  cases hi : program.outcome p i with
  | none =>
    -- no new step succeeds, so the first success lies where it was
    have hk : seen.getD k true = true := hk.resolve_right fun h => hok (h ▸ hi)
    obtain ⟨j, hj, hlt⟩ := hseen k hk hok
    rw [List.find?_cons_of_neg (by rw [hi]; exact Bool.false_ne_true)] at hj
    have hnone : new.find? (fun i => (program.outcome p i).isSome) = none := by
      rw [hi, List.findSome?_eq_none_iff] at hnew
      exact List.find?_eq_none.2 fun x hx => by rw [hnew x hx]; exact Bool.false_ne_true
    exact ⟨j, by rw [List.find?_append, hnone, hj]; rfl, hlt⟩
  | some o =>
    -- a new step succeeds too, and lies lower than the one it replaces
    rw [hi] at hnew
    obtain ⟨x, hx, hox⟩ := List.exists_of_findSome?_eq_some hnew
    obtain ⟨j, hj⟩ := Option.isSome_iff_exists.1
      ((List.find?_isSome (p := fun i => (program.outcome p i).isSome)).2 ⟨x, hx, by rw [hox]; rfl⟩)
    refine ⟨j, by rw [List.find?_append, hj]; rfl, ?_⟩
    have hji := hlow j (List.mem_of_find?_eq_some hj)
    rcases hk with hk | rfl
    · obtain ⟨j', hj', hlt⟩ := hseen k hk hok
      rw [List.find?_cons_of_pos (by rw [hi]; rfl)] at hj'
      cases hj'
      exact Nat.lt_trans hji hlt
    · exact hji

/-- The first success of the steps that wait is that of the steps to do.  A step that was reached
before is left out; if it succeeds, a lower step is to do that does so first. -/
theorem findSome?_outcome (h : Spreads program p todo seen waiting seen')
    (hled : ∀ i ∈ todo, Led program p i)
    (hseen : ∀ k, seen.getD k true = true → program.outcome p k ≠ none → Ahead program p todo k) :
    waiting.findSome? (program.outcome p) = todo.findSome? (program.outcome p) := by
  induction h with
  | nil => rfl
  | @again i todo _ seen _ hmark _ ih =>
    obtain ⟨-, hled⟩ := List.forall_mem_cons.1 hled
    cases hi : program.outcome p i with
    | none =>
      rw [List.findSome?_cons, hi]
      refine ih hled fun k hk hok => ?_
      obtain ⟨j, hj, hlt⟩ := hseen k hk hok
      rw [List.find?_cons_of_neg (by rw [hi]; exact Bool.false_ne_true)] at hj
      exact ⟨j, hj, hlt⟩
    | some o =>
      obtain ⟨j, hj, hlt⟩ := hseen i hmark (by rw [hi]; exact Option.some_ne_none o)
      rw [List.find?_cons_of_pos (by rw [hi]; rfl)] at hj
      cases hj
      exact absurd hlt (Nat.lt_irrefl _)
  | @fork i a b todo _ seen _ hmark hstep _ ih =>
    obtain ⟨hi, hled⟩ := List.forall_mem_cons.1 hled
    obtain ⟨hleda, hledb, hor, hlowa, hlowb⟩ := hi.fork hstep
    have hnew : [a, b].findSome? (program.outcome p) = program.outcome p i := by
      rw [hor, List.findSome?_cons, findSome?_pair]
      cases program.outcome p a <;> rfl
    rw [ih (List.forall_mem_cons.2 ⟨hleda, List.forall_mem_cons.2 ⟨hledb, hled⟩⟩)
      (ahead_mark [a, b] hnew (by simp [hlowa, hlowb]) hseen)]
    show ([a, b] ++ todo).findSome? _ = _
    rw [List.findSome?_append, hnew, List.findSome?_cons]
    cases program.outcome p i <;> rfl
  | @look i next l todo _ seen _ hmark hstep _ ih =>
    obtain ⟨hi, hled⟩ := List.forall_mem_cons.1 hled
    cases hl : l.holds p with
    | true =>
      obtain ⟨hlednext, heq, hlow⟩ := hi.hold hstep hl
      simp only [hl, if_true] at ih
      have hnew : [next].findSome? (program.outcome p) = program.outcome p i := by
        rw [heq, findSome?_pair]
      rw [ih (List.forall_mem_cons.2 ⟨hlednext, hled⟩)
        (ahead_mark [next] hnew (by simp [hlow]) hseen), List.findSome?_cons,
        List.findSome?_cons, heq]
    | false =>
      have hnone := hi.block hstep hl
      simp only [hl] at ih
      rw [List.findSome?_cons, hnone]
      exact ih hled (ahead_mark [] hnone.symm (by simp) hseen)
  | @wait i todo _ seen _ hmark hfork hlook _ ih =>
    obtain ⟨hi, hled⟩ := List.forall_mem_cons.1 hled
    rw [List.findSome?_cons, List.findSome?_cons]
    cases hnone : program.outcome p i with
    | none => exact ih hled (ahead_mark [] hnone.symm (by simp) hseen)
    | some o => rfl

end Spreads

/-- nothing is reached before the start -/
theorem findSome?_waitingAt (program : Program) (p : Cursor) {todo : List Nat}
    (hled : ∀ i ∈ todo, Led program p i) :
    (∀ i ∈ program.waitingAt p todo, Led program p i)
      ∧ (program.waitingAt p todo).findSome? (program.outcome p)
        = todo.findSome? (program.outcome p) := by
  obtain ⟨_, h⟩ := program.spreads_waitingAt p todo
  refine ⟨h.led_of_mem hled, h.findSome?_outcome hled fun k hk hok => ?_⟩
  refine absurd ?_ hok
  have hout : program.steps.size ≤ k := by
    refine Nat.le_of_not_lt fun hlt => ?_
    rw [noMarks, Array.getD_eq_getD_getElem?, Array.getElem?_replicate, if_pos hlt] at hk
    cases hk
  have hnone := Array.getElem?_eq_none hout
  rw [outcome, dif_neg]
  rintro ⟨_, _, hleads⟩
  cases hleads with
  | done hstep | pass hstep | fail hstep | hold hstep | block hstep | fork hstep =>
    rw [hnone] at hstep
    cases hstep

end Workbench.Pattern.Program
