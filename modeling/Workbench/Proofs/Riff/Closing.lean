import Workbench.Proofs.Riff.Moves
import Workbench.Proofs.Scanner.Boundaries
import Workbench.Proofs.Text.Longest

/-!
# Where a literal closes

A literal closes at the first of its quotes that has an even number of backslashes directly in front
(`closing?`).  The scanner does not count backslashes; it takes escapes whole.  The two agree because
the lexemes inside a literal hold no place that closes and end in an even number of backslashes,
which is what `Passes` says and `closing?_append` uses.  A backslash that no rule takes for an escape
stands alone, and what follows it is no backslash and no quote (`closing?_lone`).

`run_inside` goes through the inside of a literal in this way, move by move.
-/

namespace Workbench.Riff

open Text (runLength)
open Scanner (Move RuleTable StateStack layout)

/-! ## the closing quote -/

/-- how many backslashes end a text -/
def backslashes (t : Text) : Nat := runLength (· == '\\') t.reverse

def closesAt (quote : Char) (t : Text) (i : Nat) : Bool :=
  t[i]? == some quote && backslashes (t.take i) % 2 == 0

/-- the first quote that has an even number of backslashes directly in front -/
def closing? (quote : Char) (t : Text) : Option Nat :=
  (List.range t.length).find? (closesAt quote t)

@[simp] theorem closing?_nil (quote : Char) : closing? quote [] = none := rfl

theorem closing?_quote (quote : Char) (t : Text) : closing? quote (quote :: t) = some 0 := by
  have hcloses : closesAt quote (quote :: t) 0 = true := by
    rw [closesAt, List.getElem?_cons_zero, beq_self_eq_true]
    rfl
  rw [closing?, List.length_cons, List.range_succ_eq_map, List.find?_cons, hcloses]

/-! ## texts that a literal passes -/

theorem backslashes_append {w : Text} (hw : backslashes w % 2 = 0) (t : Text) :
    backslashes (w ++ t) % 2 = backslashes t % 2 := by
  rw [backslashes, runLength, List.reverse_append, List.takeWhile_append]
  split
  · -- only if the text is nothing but backslashes, those in front of it count
    next hall =>
    have ht : backslashes t = t.reverse.length := hall
    have hlen : (t.reverse ++ w.reverse.takeWhile (· == '\\')).length
        = t.reverse.length + backslashes w := List.length_append
    rw [hlen, ht]
    omega
  · rfl

theorem closesAt_append_left {w : Text} {i : Nat} (hi : i < w.length) (quote : Char) (t : Text) :
    closesAt quote (w ++ t) i = closesAt quote w i := by
  rw [closesAt, closesAt, List.getElem?_append_left hi,
    List.take_append_of_le_length (Nat.le_of_lt hi)]

theorem closesAt_append_right {w : Text} (hw : backslashes w % 2 = 0) (quote : Char) (t : Text)
    (i : Nat) : closesAt quote (w ++ t) (w.length + i) = closesAt quote t i := by
  rw [closesAt, closesAt, List.getElem?_append_right (Nat.le_add_right _ _),
    Nat.add_sub_cancel_left, List.take_length_add_append, backslashes_append hw]

/-- no place in a text closes, and what follows is read as if the text were not there -/
structure Passes (quote : Char) (w : Text) : Prop where
  even : backslashes w % 2 = 0
  open_at : ∀ i < w.length, closesAt quote w i = false

section
variable {quote : Char} {w : Text}

theorem closing?_append (h : Passes quote w) (t : Text) :
    closing? quote (w ++ t) = (closing? quote t).map (w.length + ·) := by
  have hleft : (List.range w.length).find? (closesAt quote (w ++ t)) = none := by
    rw [List.find?_eq_none]
    intro i hi
    have hlt := List.mem_range.1 hi
    rw [closesAt_append_left hlt, h.open_at i hlt]
    exact Bool.false_ne_true
  have hright : closesAt quote (w ++ t) ∘ (w.length + ·) = closesAt quote t := by
    funext i
    exact closesAt_append_right h.even quote t i
  rw [closing?, List.length_append, List.range_add, List.find?_append, hleft, Option.none_or,
    List.find?_map, hright]
  rfl

@[simp] theorem passes_nil (quote : Char) : Passes quote [] :=
  ⟨rfl, fun i hi => absurd hi (Nat.not_lt_zero i)⟩

theorem Passes.append {v : Text} (hw : Passes quote w) (hv : Passes quote v) :
    Passes quote (w ++ v) := by
  refine ⟨(backslashes_append hw.even v).trans hv.even, fun i hi => ?_⟩
  rw [List.length_append] at hi
  rcases Nat.lt_or_ge i w.length with hlt | hge
  · rw [closesAt_append_left hlt]
    exact hw.open_at i hlt
  · have hshift := closesAt_append_right hw.even quote v (i - w.length)
    rw [Nat.add_sub_cancel' hge] at hshift
    rw [hshift]
    exact hv.open_at _ (by omega)

theorem passes_flatten {us : List Text} (h : ∀ u ∈ us, Passes quote u) :
    Passes quote us.flatten := by
  induction us with
  | nil => exact passes_nil quote
  | cons u us ih =>
    obtain ⟨hu, hus⟩ := List.forall_mem_cons.1 h
    exact hu.append (ih hus)

theorem passes_of_not_mem (hquote : quote ∉ w) (hback : '\\' ∉ w) : Passes quote w := by
  constructor
  · have hnil : w.reverse.takeWhile (· == '\\') = [] := by
      cases hw : w.reverse with
      | nil => rfl
      | cons c u =>
        refine List.takeWhile_cons_of_neg fun hc => hback ?_
        rw [← eq_of_beq hc, ← List.mem_reverse, hw]
        exact List.mem_cons_self
    rw [backslashes, runLength, hnil]
    rfl
  · intro i _
    rw [closesAt, Bool.and_eq_false_imp]
    intro hi
    exact absurd (List.mem_of_getElem? (eq_of_beq hi)) hquote

/-- a backslash takes the next character with it, whatever that is -/
theorem passes_escaped (hquote : quote ≠ '\\') (x : Char) : Passes quote ['\\', x] := by
  constructor
  · by_cases hx : x = '\\'
    · rw [hx]
      rfl
    · have hne : ¬ (x == '\\') = true := fun h => hx (eq_of_beq h)
      have hrun : backslashes ['\\', x] = 0 :=
        Text.runLength_cons_of_neg (p := (· == '\\')) hne ['\\']
      rw [hrun]
  · intro i hi
    match i with
    | 0 =>
      have hne : ('\\' == quote) = false := beq_false_of_ne hquote.symm
      exact congrArg (· && _) hne
    | 1 => exact Bool.and_false _

/-- a backslash that escapes nothing -/
theorem closing?_lone (hquote : quote ≠ '\\') {t : Text}
    (ht : ∀ x ∈ t.head?, x ≠ quote ∧ x ≠ '\\') :
    closing? quote ('\\' :: t) = (closing? quote t).map (1 + ·) := by
  cases t with
  | nil =>
    have hopen := (passes_escaped hquote '\\').open_at 0 (Nat.zero_lt_two)
    have hzero : closesAt quote ['\\'] 0 = false := hopen
    show ([0].find? (closesAt quote ['\\'])) = none
    rw [List.find?_cons, hzero, List.find?_nil]
  | cons x t =>
    obtain ⟨hx, hback⟩ := ht x rfl
    have hsingle : Passes quote [x] :=
      passes_of_not_mem (by simpa using hx.symm) (by simpa using hback.symm)
    have hpair := closing?_append (passes_escaped hquote x) t
    have hone := closing?_append hsingle t
    rw [List.singleton_append] at hone
    rw [hone, Option.map_map]
    refine hpair.trans ?_
    congr 1
    funext i
    show 2 + i = 1 + (1 + i)
    omega

/-- a single character that is no quote, and escapes nothing if it is a backslash -/
theorem closing?_single (hquote : quote ≠ '\\') {c : Char} {t : Text} (hc : c ≠ quote)
    (ht : c = '\\' → ∀ x ∈ t.head?, x ≠ quote ∧ x ≠ '\\') :
    closing? quote (c :: t) = (closing? quote t).map (1 + ·) := by
  by_cases hback : c = '\\'
  · rw [hback]
    exact closing?_lone hquote (ht hback)
  · have hsingle : Passes quote [c] :=
      passes_of_not_mem (by simpa using hc.symm) (by simpa using Ne.symm hback)
    exact closing?_append hsingle t

theorem getElem?_of_closing {t : Text} {q : Nat} (h : closing? quote t = some q) :
    t[q]? = some quote := by
  have hcloses := List.find?_some h
  rw [closesAt, Bool.and_eq_true] at hcloses
  exact eq_of_beq hcloses.1

theorem closing?_of_passes {t : Text} {n : Nat} (hn : n ≤ t.length) (h : Passes quote (t.take n)) :
    closing? quote t = (closing? quote (t.drop n)).map (n + ·) := by
  have happend := closing?_append h (t.drop n)
  rwa [List.take_append_drop, List.length_take, Nat.min_eq_left hn] at happend

end

/-! ## the inside of a literal -/

/-- a move that stays inside the literal and takes no closing quote -/
def Stays (P : Kind → Prop) (s : State) (quote : Char) (t : Text) : Prop :=
  ∃ spec n, choose s t = some (spec, n) ∧ P spec.kind ∧ spec.action = .stay
    ∧ closing? quote t = (closing? quote (t.drop (max 1 n))).map (max 1 n + ·)

/-- the scanner inside a literal goes on to where it stops, by moves that stay inside -/
theorem run_inside {P : Kind → Prop} {Stop : Text → Prop} {st : Stack} {quote : Char}
    (hstep : ∀ c t, Stop (c :: t) ∨ Stays P st.top quote (c :: t)) (t : Text) :
    ∃ ms d, (∀ m ∈ ms, P m.kind) ∧ table.Run st t ms st (t.drop d)
      ∧ closing? quote t = (closing? quote (t.drop d)).map (d + ·)
      ∧ (t.drop d = [] ∨ Stop (t.drop d)) := by
  -- on the length of the text, since a move takes more than its first character
  induction hn : t.length using Nat.strongRecOn generalizing t with
  | _ n ih =>
    subst hn
    have hhere : closing? quote t = (closing? quote (t.drop 0)).map (0 + ·) := by
      rw [List.drop_zero]
      cases closing? quote t with
      | none => rfl
      | some q => exact congrArg some (Nat.zero_add q).symm
    have hdone : table.Run st t [] st (t.drop 0) := .done st t
    cases t with
    | nil => exact ⟨[], 0, fun m hm => absurd hm List.not_mem_nil, hdone, hhere, .inl rfl⟩
    | cons c t =>
      rcases hstep c t with hstop | ⟨spec, n, hchoose, hkind, haction, hclosing⟩
      · exact ⟨[], 0, fun m hm => absurd hm List.not_mem_nil, hdone, hhere, .inr hstop⟩
      · have hlen : ((c :: t).drop (max 1 n)).length < (c :: t).length := by
          simp only [List.length_drop, List.length_cons]; omega
        obtain ⟨ms, d, hms, run, hd, hend⟩ := ih _ hlen _ rfl
        have hmove := run_of_choose hchoose
        rw [haction] at hmove
        rw [List.drop_drop] at run hd hend
        refine ⟨[table.move st c t] ++ ms, max 1 n + d, ?_, hmove.trans run, ?_, hend⟩
        · rw [move_of_choose hchoose]
          exact List.forall_mem_append.2 ⟨by simpa using hkind, hms⟩
        · rw [hclosing, hd, Option.map_map]
          congr 1
          funext i
          exact (Nat.add_assoc _ _ _).symm

/-! ## scans that come to a place -/

/-- the scan of a text comes to the place `q` by the given moves, and goes on with a stack there -/
structure Reaches (st : Stack) (t : Text) (ms : List (Move State Kind)) (st' : Stack) (q : Nat) :
    Prop where
  run : table.Run st t ms st' (t.drop q)
  scan_eq : scan t (some st) = ⟨layout 0 (ms.map Move.piece)
      ++ (scan (t.drop q) (some st')).tokens.map (·.shift (Text.bytes (t.take q))),
    (scan (t.drop q) (some st')).stack⟩

theorem reaches_of_run {st st' : Stack} {t : Text} {ms : List (Move State Kind)} {q : Nat}
    (run : table.Run st t ms st' (t.drop q)) : Reaches st t ms st' q := by
  have hscan := run.scan_eq
  rw [run.lexemes_of_drop] at hscan
  exact ⟨run, hscan⟩

end Workbench.Riff
