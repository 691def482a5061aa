import Workbench.Proofs.Riff.Stacks

/-!
# Stacks in the hands of a host

A host can change a stack by itself, between scans and in any order.  Only a stack of one state has
its bottom replaced, by going to another state; nothing else touches the bottom
(`bottom_performAll`).  Going to a push-only state is not refused there, so what is saved is
restored as long as the last state that replaced the bottom is none: `restorable_performAll_iff`.

* `performAll`   the stack behind a list of operations;
* `newBottoms`   the states that the operations put in the place of the bottom, in their order.
-/

namespace Workbench.Scanner

/-- what a host can do to a stack -/
inductive StackOp (S : Type) where
  | push (s : S)
  | pop
  | goto (s : S)
  | apply (a : Action S)
  deriving DecidableEq, Repr

namespace StateStack

variable {S : Type}

def perform (st : StateStack S) : StackOp S → StateStack S
  | .push s => st.push s
  | .pop => st.pop.2
  | .goto s => st.goto s
  | .apply a => st.apply a

def performAll (st : StateStack S) (ops : List (StackOp S)) : StateStack S := ops.foldl perform st

@[simp] theorem performAll_cons (st : StateStack S) (op : StackOp S) (ops : List (StackOp S)) :
    st.performAll (op :: ops) = (st.perform op).performAll ops := rfl

/-! ## bottoms -/

/-- the state that takes the place of the bottom, if an operation replaces it -/
def newBottom? (st : StateStack S) : StackOp S → Option S
  | .goto s | .apply (.goto s) => if st.under.isEmpty then some s else none
  | _ => none

def newBottoms : StateStack S → List (StackOp S) → List S
  | _, [] => []
  | st, op :: ops => (st.newBottom? op).toList ++ newBottoms (st.perform op) ops

theorem bottom_goto_eq (st : StateStack S) (s : S) :
    (st.goto s).bottom = (if st.under.isEmpty then some s else none).getD st.bottom := by
  rw [bottom_goto]
  cases st.under <;> rfl

theorem bottom_perform (st : StateStack S) (op : StackOp S) :
    (st.perform op).bottom = (st.newBottom? op).getD st.bottom := by
  cases op with
  | push s => exact st.bottom_push s
  | pop => exact st.bottom_pop
  | goto s => exact st.bottom_goto_eq s
  | apply a =>
    cases a with
    | stay => rfl
    | goto s => exact st.bottom_goto_eq s
    | push s => exact st.bottom_push s
    | pop => exact st.bottom_pop

theorem bottom_performAll (st : StateStack S) (ops : List (StackOp S)) :
    (st.performAll ops).bottom = (st.newBottoms ops).getLast?.getD st.bottom := by
  induction ops generalizing st with
  | nil => rfl
  | cons op ops ih =>
    rw [performAll_cons, ih, bottom_perform, newBottoms, List.getLast?_append]
    cases (newBottoms (st.perform op) ops).getLast? with
    | some s => rfl
    | none => cases st.newBottom? op <;> rfl

end StateStack

end Workbench.Scanner

namespace Workbench.Riff

open Scanner (StackOp StateStack)

/-! ## saving and restoring -/

/-- a stack whose bottom is a comment is refused in both of its saved forms -/
theorem refused_of_bottom {st : Stack} (h : st.bottom = .comment) :
    StateStack.ofList st.toList = .error (.pushOnlyBottom "Comment")
      ∧ Stack.load st.save = .error (.stack (.pushOnlyBottom "Comment")) := by
  have hlist : StateStack.ofList st.toList = .error (.pushOnlyBottom "Comment") := by
    rw [StateStack.ofList_toList, h]
    rfl
  obtain ⟨_, hread⟩ := st.gives_list_save
  refine ⟨hlist, ?_⟩
  simp only [Stack.load, Stack.read, hread, hlist]

theorem restorable_iff {st : Stack} : Restorable st ↔ st.bottom ≠ .comment :=
  ⟨Restorable.bottom, restorable_of_bottom⟩

theorem bottom_ne_comment_of_made {first : Stack}
    (h : first = .fresh ∨ ∃ states, StateStack.ofList states = .ok first) :
    first.bottom ≠ .comment := by
  rcases h with rfl | ⟨states, h⟩
  · decide
  · exact ne_of_beq_false (StateStack.ofList_eq_ok_iff.1 h).2

/-- A stack that was made anew or accepted, and then changed by a host, is never empty.  It is
restored in both of its saved forms exactly if the state that last took the place of its bottom, if
any did, is no comment; else it is refused in both. -/
theorem restorable_performAll_iff {first : Stack}
    (h : first = .fresh ∨ ∃ states, StateStack.ofList states = .ok first)
    (ops : List (StackOp State)) :
    (first.performAll ops).toList ≠ []
      ∧ (Restorable (first.performAll ops) ↔ (first.newBottoms ops).getLast? ≠ some .comment)
      ∧ (¬ Restorable (first.performAll ops) →
          StateStack.ofList (first.performAll ops).toList = .error (.pushOnlyBottom "Comment")
            ∧ Stack.load (Stack.save (first.performAll ops))
              = .error (.stack (.pushOnlyBottom "Comment"))) := by
  refine ⟨StateStack.toList_ne_nil _, ?_, fun hrefused => ?_⟩
  · rw [restorable_iff, StateStack.bottom_performAll]
    cases (first.newBottoms ops).getLast? with
    | none => exact ⟨fun _ => nofun, fun _ => bottom_ne_comment_of_made h⟩
    | some s => exact not_congr Option.some_inj.symm
  · exact refused_of_bottom (Decidable.not_not.1 fun hb => hrefused (restorable_iff.2 hb))

/-- a bottom that was a comment for a while, until another state took its place -/
theorem restorable_performAll_nested :
    Restorable ((.fresh : Stack).performAll
      [.goto .comment, .push .comment, .pop, .apply (.goto .regex), .apply (.push .comment)]) := by
  refine ((restorable_performAll_iff (.inl rfl) _).2.1).2 ?_
  decide

/-- a new stack that goes to a comment is saved, and then refused -/
theorem refused_of_goto_comment :
    ((.fresh : Stack).performAll [.goto .comment]).bottom = .comment
      ∧ Stack.load (Stack.save ((.fresh : Stack).performAll [.goto .comment]))
        = .error (.stack (.pushOnlyBottom "Comment")) :=
  ⟨rfl, (refused_of_bottom rfl).2⟩

end Workbench.Riff
