import Workbench.Proofs.Riff.Saved
import Workbench.Proofs.Riff.Slash
import Workbench.Proofs.Scanner.Resumption

/-!
# The stacks of Riff

Rules of Riff go to no comment and pop nothing else (`nests_table`).  So the bottom of a stack that
was accepted never becomes a comment, and every stack that scans hand out can be saved and restored
(`handed_restorable`).  Nor is anything popped off the bottom: a scan neither sees nor changes what
lies under the last state that is no comment (`scan_framed`).
-/

namespace Workbench.Riff

open Scanner (Action LineScan Move RuleTable ScannerState StateStack)

/-! ## the rules -/

theorem nests_rules : ∀ s ∈ State.all, ∀ spec ∈ rulesOf s, spec.action.nests s = true := by
  decide +kernel

theorem nests_table : table.Nests := fun s _ hr =>
  nests_rules s (List.mem_of_getElem? s.all_index) _ (mem_rulesOf hr)

/-! ## stacks that are handed out -/

/-- the stacks that are handed out by scans, of a text or of its lines, each of which begins with a
stack handed out before; the first of all is given -/
inductive Handed (first : Stack) : Stack → Prop
  | first : Handed first first
  | whole {st : Stack} (h : Handed first st) (t : Text) : Handed first (scan t (some st)).stack
  | line {st : Stack} (h : Handed first st) (t : Text) {l : LineScan State Kind}
      (hl : l ∈ scanLines t (some st)) : Handed first l.stack

/-- what every scan keeps holds of all stacks that are handed out -/
theorem Handed.keeps {P : Stack → Prop} (hscan : ∀ st t, P st → P (table.scan st t).stack)
    {first st : Stack} (h : Handed first st) (hfirst : P first) : P st := by
  induction h with
  | first => exact hfirst
  | @whole st _ t ih => exact hscan st t ih
  | @line st _ t l hl ih => exact RuleTable.forall_stack_scanPieces hscan 0 0 ih t.pieces l hl

/-- a stack that is accepted when its states or its saved text are read back -/
structure Restorable (st : Stack) : Prop where
  bottom : st.bottom ≠ .comment
  states : StateStack.ofList st.toList = .ok st
  saved : Stack.load st.save = .ok st

theorem restorable_of_bottom {st : Stack} (h : st.bottom ≠ .comment) : Restorable st :=
  ⟨h, Stack.ofList_toList_of_bottom h, Stack.load_save h⟩

/-- a state that is no comment, with the comments that are open in front of it, which begin in code
only -/
def Layered (st : Stack) : Prop :=
  ∃ s n, st.toList = s :: List.replicate n .comment ∧ s ≠ .comment
    ∧ (0 < n → s = .start ∨ s = .afterValue)

theorem Sound.layered {st : Stack} {value : Bool} (h : Sound st value) : Layered st := by
  cases h with
  | code _ comments =>
    refine ⟨position value, comments, toList_deeper _ comments, ?_, fun _ => ?_⟩
    · cases value <;> decide
    · cases value with
      | false => exact .inl rfl
      | true => exact .inr rfl
  | @literal s hs _ =>
    refine ⟨s, 0, rfl, ?_, fun h => absurd h (Nat.lt_irrefl 0)⟩
    rintro rfl
    exact absurd hs (by decide)

/-- Every stack that scans hand out can be saved and restored, if the first of them was accepted:
what is read back is the same stack, so scans go on from it as they would have.  No scan from such a
stack pops the bottom of its own; the scans of the lines of a text are among them, since each begins
with the stack of the line above.  From a fresh stack they are all made of one state and open
comments. -/
theorem handed_restorable {states : List State} {first st : Stack}
    (hfirst : StateStack.ofList states = .ok first) (h : Handed first st) :
    Restorable st
      ∧ (∀ t, ∀ m ∈ table.moves st t, m.action = .pop → 1 < m.stack.depth)
      ∧ (first = .fresh → Layered st) := by
  have hbottom : ScannerState.pushOnly st.bottom = false :=
    h.keeps (P := fun st => ScannerState.pushOnly st.bottom = false)
      (fun _ t hst => nests_table.pushOnly_bottom_scan hst t)
      (StateStack.ofList_eq_ok_iff.1 hfirst).2
  refine ⟨restorable_of_bottom (ne_of_beq_false hbottom), nests_table.depth_of_pop hbottom, ?_⟩
  rintro rfl
  have hsound : ∃ value, Sound st value :=
    h.keeps (P := fun st => ∃ value, Sound st value)
      (fun st t ⟨_, hst⟩ => ⟨_, sound_run hst (table.run_moves st t)⟩) ⟨false, sound_fresh⟩
  obtain ⟨_, hst⟩ := hsound
  exact hst.layered

theorem handed_open_comments : Handed .fresh ⟨.comment, [.comment, .start]⟩ := by
  have htop : (.fresh : Stack).top ∈ [State.start, .afterValue, .comment] := by decide
  obtain ⟨ms, -, run⟩ := run_opener htop ['/', '*']
  have hread : nesting 0 ['/', '*', '/', '*'] = .unclosed 2 := by decide
  rw [hread] at run
  have hscan : (scan ['/', '*', '/', '*'] (some .fresh)).stack = ⟨.comment, [.comment, .start]⟩ :=
    congrArg Scanner.Scan.stack (RuleTable.scan_of_run run)
  exact hscan ▸ Handed.whole .first ['/', '*', '/', '*']

theorem restorable_open_comments :
    Restorable ⟨.comment, [.comment, .start]⟩ ∧ Layered ⟨.comment, [.comment, .start]⟩ := by
  have hfresh : StateStack.ofList [State.start] = .ok .fresh := rfl
  have h := handed_restorable hfresh handed_open_comments
  exact ⟨h.1, h.2.2 rfl⟩

/-! ## what lies under a stack -/

/-- What lies under a state that is no comment is neither seen nor changed, whatever is on top of
that state. -/
theorem scan_framed {xs ys : List State} {s : State} {st : Stack} (hs : s ≠ .comment)
    (h : StateStack.ofList (xs ++ s :: ys) = .ok st) (t : Text) :
    ∃ top, StateStack.ofList (s :: ys) = .ok top
      ∧ (scan t (some st)).tokens = (scan t (some top)).tokens
      ∧ (scan t (some st)).stack.toList = xs ++ (scan t (some top)).stack.toList := by
  obtain ⟨top, htop⟩ := StateStack.exists_toList_eq (List.cons_ne_nil s ys)
  have hbottom : top.bottom = s := by
    have hhead := top.head?_toList
    rw [htop] at hhead
    exact (Option.some.inj hhead).symm
  have hpush : ScannerState.pushOnly top.bottom = false := by
    rw [hbottom]
    exact beq_false_of_ne hs
  have hst : st = top.onto xs := by
    apply StateStack.toList_injective
    rw [StateStack.toList_onto, htop, StateStack.toList_of_ofList h]
  have hscan : scan t (some st) = ⟨(scan t (some top)).tokens, (scan t (some top)).stack.onto xs⟩ :=
    hst ▸ nests_table.scan_onto hpush xs t
  refine ⟨top, StateStack.ofList_eq_ok_iff.2 ⟨htop, hpush⟩, ?_, ?_⟩
  · rw [hscan]
  · rw [hscan, StateStack.toList_onto]

theorem scan_framed_string :
    StateStack.ofList ([.regex, .comment] ++ State.string :: [.comment])
        = .ok ⟨.comment, [.string, .comment, .regex]⟩
      ∧ ∃ top : Stack, top = ⟨.comment, [.string]⟩
        ∧ (scan "*/ \"".toList (some ⟨.comment, [.string, .comment, .regex]⟩)).tokens
          = (scan "*/ \"".toList (some top)).tokens
        ∧ (scan "*/ \"".toList (some ⟨.comment, [.string, .comment, .regex]⟩)).stack.toList
          = [.regex, .comment] ++ (scan "*/ \"".toList (some top)).stack.toList := by
  have hst : StateStack.ofList ([.regex, .comment] ++ State.string :: [.comment])
      = .ok ⟨.comment, [.string, .comment, .regex]⟩ := rfl
  obtain ⟨top, htop, htokens, hstack⟩ := scan_framed (by decide) hst "*/ \"".toList
  injection htop with htop
  exact ⟨hst, top, htop.symm, htokens, hstack⟩

end Workbench.Riff
