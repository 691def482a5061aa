/-!
# The stack of states

The scanner's state is a stack that is never empty: a top, which decides the rules in force, and the
states below it, which come back when the top is popped.  The type has no empty stack, so `top`
needs no default and `pop` at the bottom does nothing.

A push-only state is entered by `push` and left by `pop`; at the bottom it could never be left, so
a saved stack with such a bottom is refused.
-/

namespace Workbench.Scanner

/-- what the scanner asks of its states -/
class ScannerState (S : Type) where
  /-- the states that have rules, in the order of their indices -/
  all : List S
  /-- the place of a state's rules in a table -/
  index : S → Nat
  /-- the bottom of a new stack -/
  base : S
  pushOnly : S → Bool
  /-- the name of a state in messages -/
  label : S → String

/-- what the scanner asks of its kinds of tokens -/
class ScannerKind (K : Type) where
  /-- the kind of what no rule matches -/
  plain : K
  /-- the name of a kind in messages -/
  label : K → String

/-- what a rule does to the stack -/
inductive Action (S : Type) where
  | stay
  | goto (s : S)
  | push (s : S)
  | pop
  deriving DecidableEq, Repr

inductive StackError where
  | empty
  | pushOnlyBottom (label : String)
  deriving DecidableEq, Repr

def StackError.message : StackError → String
  | .empty => "state stack cannot be empty"
  | .pushOnlyBottom label => "state " ++ label ++ " cannot sit at the bottom of the stack"

/-- a stack: its top, and the states under it, nearest first -/
structure StateStack (S : Type) where
  top : S
  under : List S
  deriving DecidableEq, Repr

namespace StateStack

variable {S : Type}

/-! ## the states of a stack -/

/-- all states, bottom first -/
def toList (st : StateStack S) : List S := st.under.reverse ++ [st.top]

def depth (st : StateStack S) : Nat := st.under.length + 1

@[simp] theorem length_toList (st : StateStack S) : st.toList.length = st.depth := by
  simp [toList, depth]

@[simp] theorem toList_ne_nil (st : StateStack S) : st.toList ≠ [] := by simp [toList]

theorem toList_injective {st st' : StateStack S} (h : st.toList = st'.toList) : st = st' := by
  obtain ⟨top, under⟩ := st
  obtain ⟨top', under'⟩ := st'
  have h' := congrArg List.reverse h
  simp only [toList, List.reverse_append, List.reverse_reverse, List.reverse_cons, List.reverse_nil,
    List.nil_append, List.singleton_append, List.cons.injEq] at h'
  rw [h'.1, h'.2]

/-! ## operations -/

def push (st : StateStack S) (s : S) : StateStack S := ⟨s, st.top :: st.under⟩

def goto (st : StateStack S) (s : S) : StateStack S := { st with top := s }

/-- the popped state and the stack without it; the bottom is never popped -/
def pop (st : StateStack S) : Option S × StateStack S :=
  match st.under with
  | [] => (none, st)
  | s :: rest => (some st.top, ⟨s, rest⟩)

def apply (st : StateStack S) : Action S → StateStack S
  | .stay => st
  | .goto s => st.goto s
  | .push s => st.push s
  | .pop => st.pop.2

@[simp] theorem toList_push (st : StateStack S) (s : S) :
    (st.push s).toList = st.toList ++ [s] := by
  simp [push, toList]

@[simp] theorem toList_goto (st : StateStack S) (s : S) :
    (st.goto s).toList = st.toList.dropLast ++ [s] := by
  simp [goto, toList]

@[simp] theorem pop_push (st : StateStack S) (s : S) : (st.push s).pop = (some s, st) := rfl

/-! ## new and saved stacks -/

variable [ScannerState S]

/-- the stack that holds the base state alone -/
def fresh : StateStack S := ⟨ScannerState.base, []⟩

/-- the stack of a list of states, bottom first -/
def ofList (states : List S) : Except StackError (StateStack S) :=
  match states.head?, states.reverse with
  | some bottom, top :: under =>
    if ScannerState.pushOnly bottom then .error (.pushOnlyBottom (ScannerState.label bottom))
    else .ok ⟨top, under⟩
  | _, _ => .error .empty

@[simp] theorem ofList_nil : ofList ([] : List S) = .error .empty := rfl

/-- what is restored is what was saved -/
theorem toList_of_ofList {states : List S} {st : StateStack S} (h : ofList states = .ok st) :
    st.toList = states := by
  unfold ofList at h
  split at h
  · next bottom top under hb hr =>
    split at h
    · cases h
    · injection h with h
      rw [← h, toList]
      have := congrArg List.reverse hr
      simp only [List.reverse_reverse, List.reverse_cons] at this
      exact this.symm
  · cases h

end StateStack

end Workbench.Scanner
