import Mathlib.Data.List.Infix
import Mathlib.Data.List.Induction
import Workbench.Proofs.Scanner.Frame

/-!
# Excursions

A push, any actions that pop only what they have pushed themselves, and a pop: the stack is then the
one from which the push was made, whatever the actions went to on the way.  Between the push and the
pop nothing reaches below the pushed state, so the actions do on the whole stack what they do on the
pushed state alone (`Guarded.applyAll_onto`), and they leave one state there, which the pop takes.

* `Guarded`     no first part of the actions pops more than it pushes;
* `Balanced`    guarded, and everything pushed is popped;
* `deepen`      the depth behind an action, which the bottom keeps from falling below one;
* `applyAll_excursion`   the excursion, and the depth behind actions of any kind.
-/

namespace Workbench.Scanner

variable {S : Type}

/-! ## lists of actions -/

namespace Action

def isPush : Action S → Bool
  | .push _ => true
  | _ => false

def isPop : Action S → Bool
  | .pop => true
  | _ => false

/-- the depth behind an action, from the depth in front of it -/
def deepen (depth : Nat) : Action S → Nat
  | .stay | .goto _ => depth
  | .push _ => depth + 1
  | .pop => max 1 (depth - 1)

end Action

def pushes (w : List (Action S)) : Nat := w.countP Action.isPush

def pops (w : List (Action S)) : Nat := w.countP Action.isPop

@[simp] theorem pushes_concat (w : List (Action S)) (a : Action S) :
    pushes (w ++ [a]) = pushes w + if a.isPush then 1 else 0 := by
  rw [pushes, List.countP_append, List.countP_singleton]
  rfl

@[simp] theorem pops_concat (w : List (Action S)) (a : Action S) :
    pops (w ++ [a]) = pops w + if a.isPop then 1 else 0 := by
  rw [pops, List.countP_append, List.countP_singleton]
  rfl

/-- no first part pops more than it pushes -/
def Guarded (w : List (Action S)) : Prop := ∀ v, v <+: w → pops v ≤ pushes v

/-- no first part pops more than it pushes, and the whole pops as much -/
structure Balanced (w : List (Action S)) : Prop where
  guarded : Guarded w
  even : pops w = pushes w

theorem Guarded.of_prefix {v w : List (Action S)} (h : Guarded w) (hv : v <+: w) : Guarded v :=
  fun u hu => h u (hu.trans hv)

theorem guarded_iff (w : List (Action S)) : Guarded w ↔ ∀ v ∈ w.inits, pops v ≤ pushes v := by
  simp only [Guarded, List.mem_inits]

instance (w : List (Action S)) : Decidable (Guarded w) := decidable_of_iff _ (guarded_iff w).symm

instance (w : List (Action S)) : Decidable (Balanced w) :=
  decidable_of_iff (Guarded w ∧ pops w = pushes w) ⟨fun h => ⟨h.1, h.2⟩, fun h => ⟨h.1, h.2⟩⟩

namespace StateStack

/-- the stack behind a list of actions -/
def applyAll (st : StateStack S) (w : List (Action S)) : StateStack S := w.foldl apply st

@[simp] theorem applyAll_cons (st : StateStack S) (a : Action S) (w : List (Action S)) :
    st.applyAll (a :: w) = (st.apply a).applyAll w := rfl

@[simp] theorem applyAll_concat (st : StateStack S) (w : List (Action S)) (a : Action S) :
    st.applyAll (w ++ [a]) = (st.applyAll w).apply a := by
  rw [applyAll, List.foldl_append]
  rfl

/-! ## depths -/

theorem depth_pos (st : StateStack S) : 1 ≤ st.depth := Nat.succ_pos st.under.length

theorem depth_apply (st : StateStack S) (a : Action S) :
    (st.apply a).depth = a.deepen st.depth := by
  obtain ⟨top, under⟩ := st
  cases a with
  | stay | goto s | push s => rfl
  | pop =>
    cases under with
    | nil => rfl
    | cons s under =>
      show under.length + 1 = max 1 (under.length + 1 + 1 - 1)
      omega

theorem depth_applyAll (st : StateStack S) (w : List (Action S)) :
    (st.applyAll w).depth = w.foldl Action.deepen st.depth := by
  induction w generalizing st with
  | nil => rfl
  | cons a w ih => rw [applyAll_cons, ih, depth_apply, List.foldl_cons]

end StateStack

/-! ## guarded actions -/

namespace Guarded

variable {w : List (Action S)} {a : Action S}

/-- a pop takes back one of the pushes in front of it -/
theorem pops_lt (h : Guarded (w ++ [a])) (ha : a = .pop) : pops w < pushes w := by
  have hle := h (w ++ [a]) (List.prefix_refl _)
  rw [pops_concat, pushes_concat, ha] at hle
  exact hle

/-- the bottom keeps nothing back, so the depth counts the pushes and the pops -/
theorem depth_applyAll (h : Guarded w) (st : StateStack S) :
    (st.applyAll w).depth + pops w = st.depth + pushes w := by
  induction w using List.reverseRecOn with
  | nil => rfl
  | append_singleton w a ih =>
    have ih := ih (h.of_prefix (List.prefix_append w [a]))
    rw [StateStack.applyAll_concat, StateStack.depth_apply, pops_concat, pushes_concat]
    cases a with
    | stay | goto s => exact ih
    | push s =>
      show (st.applyAll w).depth + 1 + pops w = st.depth + (pushes w + 1)
      omega
    | pop =>
      have hlt := h.pops_lt rfl
      have hpos := st.depth_pos
      show max 1 ((st.applyAll w).depth - 1) + (pops w + 1) = st.depth + pushes w
      omega

/-- nothing is popped off the bottom, so what lies under the stack does not matter -/
theorem applyAll_onto (h : Guarded w) (st : StateStack S) (xs : List S) :
    (st.onto xs).applyAll w = (st.applyAll w).onto xs := by
  induction w using List.reverseRecOn with
  | nil => rfl
  | append_singleton w a ih =>
    have hw := h.of_prefix (List.prefix_append w [a])
    rw [StateStack.applyAll_concat, StateStack.applyAll_concat, ih hw]
    refine StateStack.apply_onto _ xs fun ha => ?_
    have hdepth := hw.depth_applyAll st
    have hlt := h.pops_lt ha
    have hpos := st.depth_pos
    omega

end Guarded

/-! ## excursions -/

namespace StateStack

theorem push_eq_onto (st : StateStack S) (s : S) : st.push s = onto ⟨s, []⟩ st.toList := by
  apply toList_injective
  rw [toList_push, toList_onto]
  rfl

theorem exists_eq_of_depth {st : StateStack S} (h : st.depth = 1) : ∃ s, st = ⟨s, []⟩ := by
  obtain ⟨top, under⟩ := st
  have hunder : under = [] := List.length_eq_zero_iff.1 (Nat.succ.inj h)
  exact ⟨top, by rw [hunder]⟩

/-- A push, balanced actions and a pop give the stack back; and whatever the actions are, the depth
behind them is at least one and follows from the actions one by one. -/
theorem applyAll_excursion (st : StateStack S) :
    (∀ s w, Balanced w → st.applyAll (.push s :: w ++ [.pop]) = st)
      ∧ ∀ w : List (Action S), 1 ≤ (st.applyAll w).depth
        ∧ (st.applyAll w).depth = w.foldl Action.deepen st.depth := by
  refine ⟨fun s w hw => ?_, fun w => ⟨depth_pos _, depth_applyAll st w⟩⟩
  -- what the actions make of the pushed state alone is a single state again
  have hdepth := hw.guarded.depth_applyAll ⟨s, []⟩
  rw [hw.even] at hdepth
  obtain ⟨s', hs'⟩ := exists_eq_of_depth (Nat.add_right_cancel hdepth)
  have hmiddle : (st.push s).applyAll w = st.push s' := by
    rw [push_eq_onto, hw.guarded.applyAll_onto, hs', ← push_eq_onto]
  calc st.applyAll (.push s :: w ++ [.pop])
      = ((st.push s).applyAll w).pop.2 := applyAll_concat st (.push s :: w) .pop
    _ = (st.push s').pop.2 := by rw [hmiddle]
    _ = st := congrArg Prod.snd (pop_push st s')

/-- an excursion of three levels, in which the states of all levels are replaced -/
theorem applyAll_excursion_nested :
    Balanced [.goto 3, .push 4, .goto 5, .push 6, .stay, .pop, .goto 7, .pop, .goto (8 : Nat)]
      ∧ applyAll ⟨1, [0]⟩ (.push 2
          :: [.goto 3, .push 4, .goto 5, .push 6, .stay, .pop, .goto 7, .pop, .goto 8] ++ [.pop])
        = (⟨1, [0]⟩ : StateStack Nat) := by
  have hw : Balanced
      [.goto 3, .push 4, .goto 5, .push 6, .stay, .pop, .goto 7, .pop, .goto (8 : Nat)] := by
    decide
  exact ⟨hw, (applyAll_excursion _).1 2 _ hw⟩

end StateStack

end Workbench.Scanner
