import Workbench.Proofs.Pattern.Lockstep

/-!
# Programs with a step put behind

A program is closed if none of its steps leads out of it.  A step that is put behind the steps of a
closed program (`Program.push`) is not reached from them, so a search from them is the same.  A held
search can begin at the new step too, if that is a condition on the start of the text: it holds, and
the step that it leads to takes its place (`search_push_look`).
-/

namespace Workbench.Pattern

/-- the steps that come next lie below a bound -/
def Step.Below (n : Nat) : Step → Prop
  | .done => True
  | .set _ next | .look _ next => next < n
  | .fork a b => a < n ∧ b < n

/-- no step leads out of the program -/
def Steps.Closed (steps : Steps) : Prop :=
  ∀ (i : Nat) (step : Step), steps[i]? = some step → step.Below steps.size

theorem Steps.Closed.below {steps : Steps} (h : steps.Closed) (i : Nat) :
    (steps.getD i .done).Below steps.size := by
  rw [Array.getD_eq_getD_getElem?]
  cases hstep : steps[i]? with
  | none => exact trivial
  | some step => exact h i step hstep

namespace Program

/-- the program with a step put behind, begun at the given step -/
def push (program : Program) (start : Nat) (last : Step) : Program :=
  ⟨start, program.steps.push last⟩

theorem getD_push {program : Program} {i : Nat} (h : i < program.steps.size) (start : Nat)
    (last : Step) : (program.push start last).steps.getD i .done = program.steps.getD i .done := by
  rw [push, Array.getD_eq_getD_getElem?, Array.getD_eq_getD_getElem?, Array.getElem?_push_lt h,
    Array.getElem?_eq_getElem h]

theorem getD_noMarks {program : Program} {i : Nat} (h : i < program.steps.size) :
    program.noMarks.getD i true = false := by
  rw [noMarks, Array.getD_eq_getD_getElem?, Array.getElem?_replicate, if_pos h]
  rfl

section
variable {program : Program} {last : Step} {start : Nat} {l : List Nat}
  (hl : ∀ i ∈ l, i < program.steps.size)
include hl

theorem passing_push (c : Char) :
    (program.push start last).passing c l = program.passing c l := by
  rw [passing, passing]
  induction l with
  | nil => rfl
  | cons i l ih =>
    obtain ⟨hi, hl⟩ := List.forall_mem_cons.1 hl
    rw [List.filterMap_cons, List.filterMap_cons, getD_push hi, ih hl]

theorem open_push :
    l.takeWhile (fun i => !(program.push start last).isDone i)
        = l.takeWhile (fun i => !program.isDone i)
      ∧ l.any (program.push start last).isDone = l.any program.isDone := by
  induction l with
  | nil => exact ⟨rfl, rfl⟩
  | cons i l ih =>
    obtain ⟨hi, hl⟩ := List.forall_mem_cons.1 hl
    have hdone : (program.push start last).isDone i = program.isDone i := by
      rw [isDone, isDone, getD_push hi]
    obtain ⟨hopen, hany⟩ := ih hl
    rw [List.takeWhile_cons, List.takeWhile_cons, List.any_cons, List.any_cons, hdone, hopen, hany]
    exact ⟨rfl, rfl⟩

end

section
variable {program : Program} {last : Step} {start : Nat} {p : Cursor} {todo waiting : List Nat}
  {seen seen' marks : Array Bool} (hclosed : program.steps.Closed)
include hclosed

/-- the steps of a closed program spread as before -/
theorem Spreads.push (h : Spreads program p todo seen waiting seen') (start : Nat) (last : Step)
    (hmarks : ∀ i < program.steps.size, marks.getD i true = seen.getD i true)
    (htodo : ∀ i ∈ todo, i < program.steps.size) :
    (∃ marks', Spreads (program.push start last) p todo marks waiting marks')
      ∧ ∀ i ∈ waiting, i < program.steps.size := by
  have hmark {seen marks : Array Bool} (i : Nat)
      (h : ∀ i < program.steps.size, marks.getD i true = seen.getD i true) :
      ∀ j < program.steps.size,
        (marks.setIfInBounds i true).getD j true = (seen.setIfInBounds i true).getD j true := by
    intro j hj
    rw [getD_mark, getD_mark, h j hj]
  induction h generalizing marks with
  | nil => exact ⟨⟨marks, .nil⟩, htodo⟩
  | again hseen _ ih =>
    obtain ⟨hi, htodo⟩ := List.forall_mem_cons.1 htodo
    obtain ⟨⟨marks', h⟩, hw⟩ := ih hmarks htodo
    exact ⟨⟨marks', .again ((hmarks _ hi).trans hseen) h⟩, hw⟩
  | @fork i a b _ _ _ _ hseen hstep _ ih =>
    obtain ⟨hi, htodo⟩ := List.forall_mem_cons.1 htodo
    obtain ⟨ha, hb⟩ : (Step.fork a b).Below program.steps.size := hstep ▸ hclosed.below i
    obtain ⟨⟨marks', h⟩, hw⟩ := ih (hmark i hmarks)
      (List.forall_mem_cons.2 ⟨ha, List.forall_mem_cons.2 ⟨hb, htodo⟩⟩)
    have hstep' := (getD_push hi start last).trans hstep
    exact ⟨⟨marks', .fork ((hmarks i hi).trans hseen) hstep' h⟩, hw⟩
  | @look i next l todo _ _ _ hseen hstep _ ih =>
    obtain ⟨hi, htodo⟩ := List.forall_mem_cons.1 htodo
    have hnext : (Step.look l next).Below program.steps.size := hstep ▸ hclosed.below i
    have htodo' : ∀ j ∈ if l.holds p then next :: todo else todo, j < program.steps.size := by
      split
      · exact List.forall_mem_cons.2 ⟨hnext, htodo⟩
      · exact htodo
    obtain ⟨⟨marks', h⟩, hw⟩ := ih (hmark i hmarks) htodo'
    have hstep' := (getD_push hi start last).trans hstep
    exact ⟨⟨marks', .look ((hmarks i hi).trans hseen) hstep' h⟩, hw⟩
  | @wait i _ _ _ _ hseen hfork hlook _ ih =>
    obtain ⟨hi, htodo⟩ := List.forall_mem_cons.1 htodo
    obtain ⟨⟨marks', h⟩, hw⟩ := ih (hmark i hmarks) htodo
    refine ⟨⟨marks', .wait ((hmarks i hi).trans hseen) ?_ ?_ h⟩, List.forall_mem_cons.2 ⟨hi, hw⟩⟩
    · exact fun a b => (getD_push hi start last).symm ▸ hfork a b
    · exact fun l next => (getD_push hi start last).symm ▸ hlook l next

theorem waitingAt_push (p : Cursor) (start : Nat) (last : Step)
    (htodo : ∀ i ∈ todo, i < program.steps.size) :
    (program.push start last).waitingAt p todo = program.waitingAt p todo
      ∧ ∀ i ∈ program.waitingAt p todo, i < program.steps.size := by
  obtain ⟨_, h⟩ := program.spreads_waitingAt p todo
  obtain ⟨_, h'⟩ := (program.push start last).spreads_waitingAt p todo
  have hmarks : ∀ i < program.steps.size,
      (program.push start last).noMarks.getD i true
        = program.noMarks.getD i true := fun i hi => by
    rw [getD_noMarks hi, getD_noMarks]
    show i < (program.steps.push last).size
    rw [Array.size_push]
    exact Nat.lt_succ_of_lt hi
  obtain ⟨⟨_, hpush⟩, hw⟩ := h.push hclosed start last hmarks htodo
  exact ⟨(h'.unique hpush).1, hw⟩

/-- a condition that holds is passed at once -/
theorem waitingAt_look {entry : Nat} {l : Look} (hl : l.holds p = true)
    (hentry : entry < program.steps.size) :
    (program.push start (.look l entry)).waitingAt p [program.steps.size]
      = program.waitingAt p [entry] := by
  obtain ⟨_, h⟩ := program.spreads_waitingAt p [entry]
  obtain ⟨_, h'⟩ := (program.push start (.look l entry)).spreads_waitingAt p
    [program.steps.size]
  have hlast : program.steps.size < (program.steps.push (.look l entry)).size := by
    rw [Array.size_push]
    exact Nat.lt_succ_self _
  have hmarks : ∀ i < program.steps.size,
      ((program.push start (.look l entry)).noMarks.setIfInBounds
        program.steps.size true).getD i true = program.noMarks.getD i true := fun i hi => by
    rw [getD_mark, getD_noMarks (Nat.lt_trans hi hlast), getD_noMarks hi,
      beq_false_of_ne (Nat.ne_of_lt hi)]
    rfl
  obtain ⟨⟨_, hpush⟩, -⟩ := h.push hclosed start (.look l entry) hmarks
    (List.forall_mem_singleton.2 hentry)
  have hstep : (program.steps.push (.look l entry)).getD program.steps.size .done
      = .look l entry := by
    rw [Array.getD_eq_getD_getElem?, Array.getElem?_push_size]
    rfl
  have hlook : Spreads (program.push start (.look l entry)) p [program.steps.size] _ _ _ :=
    .look (getD_noMarks hlast) hstep (by rw [if_pos hl]; exact hpush)
  exact (h'.unique hlook).1

theorem passing_below (c : Char) (l : List Nat) :
    ∀ i ∈ program.passing c l, i < program.steps.size := by
  intro i hi
  obtain ⟨j, hj, hji⟩ := List.mem_filterMap.1 hi
  split at hji
  · next s next hset =>
    split at hji
    · cases hji
      exact (hset ▸ hclosed.below j : (Step.set s _).Below _)
    · cases hji
  · cases hji

section
variable {todo' : List Nat} (hw : (program.push start last).waitingAt p todo'
    = program.waitingAt p todo) (htodo : ∀ i ∈ todo, i < program.steps.size)
include hw htodo

theorem foundAt_push (found : Option Nat) :
    (program.push start last).foundAt p todo' found
      = program.foundAt p todo found := by
  have hbelow := (waitingAt_push hclosed p start last htodo).2
  rw [foundAt, foundAt, hw, (open_push hbelow).2]

theorem passing_openAt_push (c : Char) :
    (program.push start last).passing c
        ((program.push start last).openAt p todo')
      = program.passing c (program.openAt p todo) := by
  have hbelow := (waitingAt_push hclosed p start last htodo).2
  rw [openAt, openAt, hw, (open_push hbelow).1]
  exact passing_push (fun i hi => hbelow i ((List.takeWhile_sublist _).subset hi)) c

end

/-- once the same steps wait, the search of the longer program is that of the shorter -/
theorem searchFrom_push {todo' : List Nat} {found : Option Nat} {taken : Nat}
    {before : Option Char} {rest : Text}
    (hw : (program.push start last).waitingAt ⟨taken, before, rest⟩ todo'
      = program.waitingAt ⟨taken, before, rest⟩ todo)
    (htodo : ∀ i ∈ todo, i < program.steps.size) :
    (program.push start last).searchFrom true todo' found taken before rest
      = program.searchFrom true todo found taken before rest := by
  induction rest generalizing todo todo' found taken before with
  | nil => rw [searchFrom_at_end, searchFrom_at_end, foundAt_push hclosed hw htodo]
  | cons c rest ih =>
    have hnext := passing_below hclosed c (program.openAt ⟨taken, before, c :: rest⟩ todo)
    rw [searchFrom_held_cons, searchFrom_held_cons, foundAt_push hclosed hw htodo,
      passing_openAt_push hclosed hw htodo]
    exact ih (waitingAt_push hclosed _ start last hnext).1 hnext

end

/-- A condition on the start of the text that is put in front of a program changes nothing in its
search from there. -/
theorem search_push_look {program : Program} (hclosed : program.steps.Closed)
    (hstart : program.start < program.steps.size) (t : Text) :
    (program.push program.steps.size (.look .textStart program.start)).search true t
      = program.search true t :=
  searchFrom_push hclosed (waitingAt_look hclosed rfl hstart) (List.forall_mem_singleton.2 hstart)

end Program
end Workbench.Pattern
