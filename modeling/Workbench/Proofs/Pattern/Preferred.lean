import Workbench.Proofs.Pattern.Held
import Workbench.Proofs.Text.Longest

/-!
# The preferred match

Running an expression tries its ways in order and hands the end of each to what comes next; the
first success decides.  So where a match ends is computed by equations of `run`, one for each form
of expression, in which the places are counted from the first: `Cursor.skip`.

Two kinds of repetition do not need the whole list of ends:

* a run of a set, if what comes next agrees at all places where it succeeds (`run_star_of_agree`),
  or succeeds behind the whole run (`run_star_of_some`);
* a repetition with one way for each round, if what comes next fails wherever there is another round
  (`run_rounds_of_fails`).
-/

namespace Workbench.Pattern

open Text (runLength)

/-! ## places further on -/

namespace Cursor

/-- the place `n` characters further on -/
def skip (p : Cursor) (n : Nat) : Cursor :=
  ⟨p.taken + n, if n = 0 then p.before else p.rest[n - 1]?, p.rest.drop n⟩

@[simp] theorem taken_skip (p : Cursor) (n : Nat) : (p.skip n).taken = p.taken + n := rfl
@[simp] theorem rest_skip (p : Cursor) (n : Nat) : (p.skip n).rest = p.rest.drop n := rfl
@[simp] theorem skip_zero (p : Cursor) : p.skip 0 = p := rfl

theorem rest_skip_one {p : Cursor} {c : Char} {rest : Text} (h : p.rest = c :: rest) :
    (p.skip 1).rest = rest := by
  rw [rest_skip, h, List.drop_one, List.tail_cons]

theorem skip_skip (p : Cursor) (m n : Nat) : (p.skip m).skip n = p.skip (m + n) := by
  have hbefore : (if n = 0 then (p.skip m).before else (p.skip m).rest[n - 1]?)
      = if m + n = 0 then p.before else p.rest[m + n - 1]? := by
    cases n with
    | zero => rfl
    | succ n =>
      rw [if_neg (Nat.succ_ne_zero n), if_neg (by omega), rest_skip, List.getElem?_drop]
      rfl
  show Cursor.mk _ _ _ = Cursor.mk _ _ _
  rw [hbefore, taken_skip, rest_skip, List.drop_drop, Nat.add_assoc]

theorem pass_eq_skip {p : Cursor} {c : Char} {rest : Text} (h : p.rest = c :: rest) :
    p.pass c rest = p.skip 1 := by
  rw [skip, h]
  rfl

theorem passAll_eq (w : Text) (p : Cursor) :
    p.passAll w = if w.isPrefixOf p.rest then [p.skip w.length] else [] := by
  induction w generalizing p with
  | nil => rfl
  | cons c w ih =>
    rw [passAll]
    cases hp : p.rest with
    | nil => rfl
    | cons d rest =>
      show (if c = d then (p.pass d rest).passAll w else [])
        = if c == d && w.isPrefixOf rest then [p.skip (w.length + 1)] else []
      rw [pass_eq_skip hp, ih, rest_skip_one hp, skip_skip, Nat.add_comm 1]
      by_cases hcd : c = d
      · rw [if_pos hcd, hcd, beq_self_eq_true, Bool.true_and]
      · rw [if_neg hcd, beq_false_of_ne hcd, Bool.false_and, if_neg Bool.false_ne_true]

end Cursor

namespace Regex

variable {α : Type} {next : Cursor → Option α} {p : Cursor}

/-- what comes behind an expression that is matched alone: it succeeds everywhere -/
def atEnd (q : Cursor) : Option Nat := some q.taken

theorem firstEnd?_eq_run (r : Regex) (t : Text) : r.firstEnd? t = r.run atEnd (Cursor.start t) := by
  rw [firstEnd?, run_eq]
  cases r.ends (Cursor.start t) <;> rfl

theorem run_congr {a b : Regex} (h : a.ends p = b.ends p) : a.run next p = b.run next p := by
  rw [run_eq, run_eq, h]

/-! ## one equation for each form -/

theorem run_seq (a b : Regex) (next : Cursor → Option α) (p : Cursor) :
    (seq a b).run next p = a.run (b.run next) p := rfl

theorem run_text (w : Text) (next : Cursor → Option α) (p : Cursor) :
    (text w).run next p = if w.isPrefixOf p.rest then next (p.skip w.length) else none := by
  rw [run_eq, ends, Cursor.passAll_eq]
  split
  · exact findSome?_pair _ next
  · rfl

theorem run_set_of_nil (s : CharSet) (hp : p.rest = []) : (set s).run next p = none := by
  rw [run, hp]

theorem run_set_of_cons (s : CharSet) {c : Char} {rest : Text} (hp : p.rest = c :: rest) :
    (set s).run next p = if s.contains c then next (p.skip 1) else none := by
  rw [run, hp, ← Cursor.pass_eq_skip hp]

theorem ends_text (w : Text) (p : Cursor) :
    (text w).ends p = if w.isPrefixOf p.rest then [p.skip w.length] else [] := Cursor.passAll_eq w p

theorem ends_set_of_nil (s : CharSet) (hp : p.rest = []) : (set s).ends p = [] := by
  rw [ends, hp]

theorem ends_set_of_cons (s : CharSet) {c : Char} {rest : Text} (hp : p.rest = c :: rest) :
    (set s).ends p = if s.contains c then [p.skip 1] else [] := by
  rw [ends, hp, ← Cursor.pass_eq_skip hp]

theorem run_text_singleton (c : Char) (next : Cursor → Option α) (p : Cursor) :
    (text [c]).run next p = (set (.single c)).run next p := by
  rw [run_text]
  cases hp : p.rest with
  | nil => rw [run_set_of_nil _ hp]; rfl
  | cons d rest =>
    rw [run_set_of_cons _ hp, CharSet.contains_single, List.isPrefixOf_cons_cons]
    by_cases hcd : c = d
    · rw [hcd, beq_self_eq_true]
      simp
    · rw [beq_false_of_ne hcd, decide_eq_false (Ne.symm hcd)]
      rfl

theorem run_text_of_cons {c : Char} {rest : Text} (hp : p.rest = c :: rest) :
    (text [c]).run next p = next (p.skip 1) := by
  have hprefix : [c].isPrefixOf p.rest = true := by
    rw [hp, List.isPrefixOf_cons_cons, beq_self_eq_true]
    rfl
  rw [run_text, if_pos hprefix, List.length_singleton]

theorem run_alt (a b : Regex) (next : Cursor → Option α) (p : Cursor) :
    (alt a b).run next p = (a.run next p).or (b.run next p) := by
  rw [run]
  cases a.run next p <;> rfl

theorem run_fork (rs : List Regex) (next : Cursor → Option α) (p : Cursor) :
    (fork rs).run next p = rs.findSome? (·.run next p) := by
  induction rs with
  | nil =>
    rw [fork]
    cases hp : p.rest with
    | nil => exact run_set_of_nil _ hp
    | cons c rest =>
      rw [run_set_of_cons _ hp]
      rfl
  | cons r rs ih =>
    cases rs with
    | nil =>
      rw [fork, List.findSome?_cons, List.findSome?_nil]
      cases r.run next p <;> rfl
    | cons r' rs =>
      show (alt r (fork (r' :: rs))).run next p = _
      rw [run_alt, ih, List.findSome?_cons (a := r)]
      cases r.run next p <;> rfl

theorem run_optional (a : Regex) (next : Cursor → Option α) (p : Cursor) :
    (rep 0 (some 1) true a).run next p = (a.run next p).or (next p) := by
  have hzero : runUpTo a.run true next 0 = next := rfl
  show runUpTo a.run true next (0 + 1) p = _
  rw [runUpTo, if_pos rfl, hzero]
  cases a.run next p <;> rfl

/-! ## runs of a set -/

theorem ends_star (s : CharSet) (p : Cursor) :
    (rep 0 none true (set s)).ends p
      = ((List.range (runLength s.contains p.rest + 1)).map p.skip).reverse := by
  show starEnds (set s).ends true p.rest p = _
  induction h : p.rest generalizing p with
  | nil => rfl
  | cons c rest ih =>
    rw [starEnds, if_pos rfl, ends, h]
    by_cases hc : s.contains c = true
    · have hne : (p.skip 1).taken ≠ p.taken := Nat.succ_ne_self p.taken
      have hskip : (p.skip 1).skip = p.skip ∘ Nat.succ := by
        funext i
        rw [Cursor.skip_skip, Nat.add_comm]
        rfl
      simp only [if_pos hc, List.flatMap_singleton]
      rw [Cursor.pass_eq_skip h, if_neg hne, ih _ (Cursor.rest_skip_one h), runLength, runLength,
        List.takeWhile_cons_of_pos hc, List.length_cons, hskip,
        List.range_succ_eq_map (n := _ + 1), List.map_cons, List.reverse_cons, List.map_map,
        Cursor.skip_zero]
    · simp only [if_neg hc, List.flatMap_nil, List.nil_append]
      rw [runLength, List.takeWhile_cons_of_neg hc]
      rfl

theorem run_star_of_some {s : CharSet} {x : α}
    (h : next (p.skip (runLength s.contains p.rest)) = some x) :
    (rep 0 none true (set s)).run next p = some x := by
  rw [run_eq, ends_star, List.range_succ, List.map_append, List.reverse_append]
  show (p.skip (runLength s.contains p.rest) :: _).findSome? next = some x
  rw [List.findSome?_cons, h]

theorem run_star_atEnd (s : CharSet) (p : Cursor) :
    (rep 0 none true (set s)).run atEnd p = some (p.taken + runLength s.contains p.rest) :=
  run_star_of_some rfl

theorem run_star_eq_none {s : CharSet}
    (h : ∀ i ≤ runLength s.contains p.rest, next (p.skip i) = none) :
    (rep 0 none true (set s)).run next p = none := by
  rw [run_eq, ends_star, List.findSome?_eq_none_iff]
  intro q hq
  obtain ⟨i, hi, rfl⟩ := List.mem_map.1 (List.mem_reverse.1 hq)
  exact h i (Nat.le_of_lt_succ (List.mem_range.1 hi))

/-- what comes next finds one result wherever it succeeds, so the order does not matter -/
theorem run_star_of_agree {s : CharSet} {x : α}
    (h : ∀ i ≤ runLength s.contains p.rest, next (p.skip i) = none ∨ next (p.skip i) = some x)
    {i : Nat} (hi : i ≤ runLength s.contains p.rest) (hx : next (p.skip i) = some x) :
    (rep 0 none true (set s)).run next p = some x := by
  rw [run_eq, ends_star]
  have hmem : p.skip i ∈ ((List.range (runLength s.contains p.rest + 1)).map p.skip).reverse :=
    List.mem_reverse.2 (List.mem_map_of_mem (List.mem_range.2 (Nat.lt_succ_of_le hi)))
  cases hrun : ((List.range (runLength s.contains p.rest + 1)).map p.skip).reverse.findSome? next with
  | none => rw [List.findSome?_eq_none_iff.1 hrun _ hmem] at hx; cases hx
  | some y =>
    obtain ⟨q, hq, hy⟩ := List.exists_of_findSome?_eq_some hrun
    obtain ⟨j, hj, rfl⟩ := List.mem_map.1 (List.mem_reverse.1 hq)
    rcases h j (Nat.le_of_lt_succ (List.mem_range.1 hj)) with hj | hj
    · rw [hj] at hy; cases hy
    · rw [← hy, hj]

/-- a run that has to begin with a character of another set may be left out -/
theorem ends_optional_run {first more : CharSet} {c : Char} {rest : Text} (hp : p.rest = c :: rest)
    (hfirst : first.contains c = true) (hmore : more.contains c = true) :
    (rep 0 (some 1) true (seq (set first) (rep 0 none true (set more)))).ends p
      = (rep 0 none true (set more)).ends p := by
  have hne : (p.pass c rest).taken ≠ p.taken := Nat.succ_ne_self p.taken
  show ((((set first).ends p).flatMap (rep 0 none true (set more)).ends).flatMap fun q => [q]) ++ [p]
    = starEnds (set more).ends true p.rest p
  rw [hp, starEnds, if_pos rfl, ends, ends, hp]
  simp only [if_pos hfirst, if_pos hmore, List.flatMap_singleton, List.flatMap_singleton']
  rw [if_neg hne]
  rfl

/-! ## rounds with one way each -/

/-- how many characters the rounds of a repetition pass, if `len` says it of a single round -/
def rounds (len : Text → Nat) (t : Text) : Nat :=
  if len t = 0 ∨ t = [] then 0 else len t + rounds len (t.drop (len t))
  termination_by t.length
  decreasing_by
    rename_i h
    rw [not_or] at h
    have := List.length_pos_iff.2 h.2
    simp only [List.length_drop]
    omega

theorem rounds_of_eq_zero {len : Text → Nat} {t : Text} (h : len t = 0) : rounds len t = 0 := by
  rw [rounds, if_pos (Or.inl h)]

theorem rounds_of_ne_zero {len : Text → Nat} {t : Text} (h : len t ≠ 0) (ht : t ≠ []) :
    rounds len t = len t + rounds len (t.drop (len t)) := by
  rw [rounds, if_neg (not_or.2 ⟨h, ht⟩)]

section
variable {a : Regex} {len : Text → Nat} (hlen : ∀ t, len t ≤ t.length)
  (hends : ∀ p, a.ends p = if len p.rest = 0 then [] else [p.skip (len p.rest)])
include hlen hends

/-- the preferred end lies behind all rounds, and at every other end there is another round -/
theorem ends_rounds (p : Cursor) :
    ∃ others, (rep 0 none true a).ends p = p.skip (rounds len p.rest) :: others
      ∧ ∀ q ∈ others, len q.rest ≠ 0 := by
  have h : ∀ (fuel : Text) (p : Cursor), p.rest.length ≤ fuel.length →
      ∃ others, starEnds a.ends true fuel p = p.skip (rounds len p.rest) :: others
        ∧ ∀ q ∈ others, len q.rest ≠ 0 := by
    intro fuel
    induction fuel with
    | nil =>
      intro p hp
      have hrest : p.rest = [] := List.length_eq_zero_iff.1 (Nat.le_zero.1 hp)
      have hzero : len p.rest = 0 := Nat.le_zero.1 (hrest ▸ hlen [])
      exact ⟨[], by rw [starEnds, rounds_of_eq_zero hzero, Cursor.skip_zero], by simp⟩
    | cons x fuel ih =>
      intro p hp
      rw [starEnds, if_pos rfl, hends]
      by_cases hzero : len p.rest = 0
      · rw [if_pos hzero, rounds_of_eq_zero hzero, Cursor.skip_zero]
        exact ⟨[], rfl, by simp⟩
      · have hle := hlen p.rest
        have hne : (p.skip (len p.rest)).taken ≠ p.taken := by rw [Cursor.taken_skip]; omega
        have hrest : p.rest ≠ [] := by
          intro hrest
          rw [hrest] at hzero hle
          exact hzero (Nat.le_zero.1 hle)
        have hshort : (p.skip (len p.rest)).rest.length ≤ fuel.length := by
          rw [Cursor.rest_skip, List.length_drop]
          rw [List.length_cons] at hp
          omega
        obtain ⟨others, hothers, hmore⟩ := ih (p.skip (len p.rest)) hshort
        refine ⟨others ++ [p], ?_, ?_⟩
        · simp only [if_neg hzero, List.flatMap_singleton]
          rw [if_neg hne, hothers, Cursor.skip_skip, Cursor.rest_skip,
            rounds_of_ne_zero hzero hrest]
          rfl
        · exact List.forall_mem_append.2 ⟨hmore, by simpa using hzero⟩
  exact h p.rest p (Nat.le_refl _)

/-- no round is given back if what comes next fails in front of another round -/
theorem run_rounds_of_fails (hnext : ∀ q, len q.rest ≠ 0 → next q = none) (p : Cursor) :
    (rep 0 none true a).run next p = next (p.skip (rounds len p.rest)) := by
  obtain ⟨others, hothers, hmore⟩ := ends_rounds hlen hends p
  have hnone : others.findSome? next = none :=
    List.findSome?_eq_none_iff.2 fun q hq => hnext q (hmore q hq)
  rw [run_eq, hothers, List.findSome?_cons, hnone]
  cases next (p.skip (rounds len p.rest)) <;> rfl

end

end Regex

end Workbench.Pattern
