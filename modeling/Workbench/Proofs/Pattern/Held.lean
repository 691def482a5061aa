import Workbench.Proofs.Pattern.Horizon

/-!
# Expressions that are held at the start of the text

A pattern of a rule is held at the start of the text that is left.  If its ways to match are few,
the match ends at the first of its ends from there: `matchEnd?_held`.  The rest is about that first
end: what it can be (`spells_of_firstEnd?`), when there is none (`firstEnd?_eq_none`), that text
behind a character that no word holds does not move it (`firstEnd?_append`), and where it is for the
three simplest expressions, a text, a run of a set and an optional character of a set.
-/

namespace Workbench.Pattern

namespace Regex

/-- an expression that is held at the start of the text -/
def held (r : Regex) : Regex := .seq (.look .textStart) r

/-- where the preferred match at the start of a text ends -/
def firstEnd? (r : Regex) (t : Text) : Option Nat :=
  (r.ends (Cursor.start t)).head?.map Cursor.taken

theorem ends_held (r : Regex) (t : Text) :
    r.held.ends (Cursor.start t) = r.ends (Cursor.start t) := by
  show [Cursor.start t].flatMap r.ends = _
  rw [List.flatMap_singleton]

theorem matchEnd?_held {r : Regex} (h : r.held.hasFewWays = true) (t : Text) :
    r.held.matchEnd? t = r.firstEnd? t := by
  have hm : r.held.matcher = .direct r.held := by
    rw [matcher, h]
    rfl
  rw [matchEnd?, hm, Matcher.matchEnd?, run_eq, ends_held, firstEnd?]
  cases r.ends (Cursor.start t) <;> rfl

/-! ## what the first end can be -/

/-- what lies in front of the first end is a word -/
theorem spells_of_firstEnd? {r : Regex} {t : Text} {n : Nat} (h : r.firstEnd? t = some n) :
    n ≤ t.length ∧ r.Spells (t.take n) := by
  obtain ⟨q, hq, rfl⟩ := Option.map_eq_some_iff.1 h
  obtain ⟨s, hs, hrest, htaken⟩ := r.spells_of_mem_ends _ q (List.mem_of_head? hq)
  have ht : t = s ++ q.rest := hrest
  have hn : q.taken = s.length := htaken.trans (Nat.zero_add _)
  rw [hn, ht, List.take_left, List.length_append]
  exact ⟨Nat.le_add_right _ _, hs⟩

/-- no match where the next character begins no word -/
theorem firstEnd?_eq_none {r : Regex} {c : Char} (hn : r.nullable = false)
    (hc : r.begins c = false) (t : Text) : r.firstEnd? (c :: t) = none := by
  rw [firstEnd?, ends_eq_nil hn hc rfl]
  rfl

theorem firstEnd?_append {r : Regex} {c : Char} (hr : r.avoids c = true) {t : Text} (hc : c ∈ t)
    (u : Text) : r.firstEnd? (t ++ u) = r.firstEnd? t := by
  have h : r.ends (Cursor.start (t ++ u)) = (r.ends (Cursor.start t)).map (·.extend u) :=
    ends_extend hr (p := Cursor.start t) hc u
  rw [firstEnd?, firstEnd?, h, List.head?_map, Option.map_map]
  rfl

/-! ## texts -/

theorem head?_passAll (w : Text) (p : Cursor) :
    (p.passAll w).head?.map Cursor.taken
      = if w.isPrefixOf p.rest then some (p.taken + w.length) else none := by
  induction w generalizing p with
  | nil => rfl
  | cons c w ih =>
    obtain ⟨taken, before, rest⟩ := p
    cases rest with
    | nil => rfl
    | cons d rest =>
      show ((if c = d then (Cursor.pass ⟨taken, before, d :: rest⟩ d rest).passAll w
          else []).head?.map Cursor.taken)
        = if (c == d && w.isPrefixOf rest) then some (taken + (w.length + 1)) else none
      by_cases hcd : c = d
      · rw [if_pos hcd, ih, hcd, beq_self_eq_true, Bool.true_and, Nat.add_comm w.length 1,
          ← Nat.add_assoc]
        rfl
      · rw [if_neg hcd, beq_false_of_ne hcd, Bool.false_and, if_neg Bool.false_ne_true]
        rfl

theorem firstEnd?_text (w t : Text) :
    (text w).firstEnd? t = if w.isPrefixOf t then some w.length else none := by
  rw [firstEnd?, ends, head?_passAll, Cursor.start, Nat.zero_add]

/-- no match behind a text that is not there -/
theorem firstEnd?_seq_text_eq_none {w t : Text} (h : w.isPrefixOf t = false) (r : Regex) :
    (seq (text w) r).firstEnd? t = none := by
  cases hr : (seq (text w) r).firstEnd? t with
  | none => rfl
  | some n =>
    -- the match would pass a word that begins with `w`
    obtain ⟨-, u, v, hu, -, huv⟩ := spells_of_firstEnd? hr
    have hu : u = w := hu
    have hprefix : w <+: t := ⟨v ++ t.drop n, by rw [← List.append_assoc, ← hu, ← huv,
      List.take_append_drop]⟩
    rw [List.isPrefixOf_iff_prefix.2 hprefix] at h
    cases h

theorem exists_passAll_append (w t : Text) (p : Cursor) (hp : p.rest = w ++ t) :
    ∃ q, p.passAll w = [q] := by
  induction w generalizing p with
  | nil => exact ⟨p, rfl⟩
  | cons c w ih =>
    obtain ⟨taken, before, rest⟩ := p
    have hrest : rest = c :: (w ++ t) := hp
    obtain ⟨q, hq⟩ := ih (Cursor.pass ⟨taken, before, rest⟩ c (w ++ t)) rfl
    refine ⟨q, ?_⟩
    subst hrest
    rw [Cursor.passAll]
    simp only [if_true, hq]

/-- behind a text that is there, what matches everywhere matches -/
theorem exists_firstEnd?_seq_text {r : Regex} (hr : ∀ p, r.ends p ≠ []) (w t : Text) :
    ∃ n, (seq (text w) r).firstEnd? (w ++ t) = some n := by
  obtain ⟨q, hq⟩ := exists_passAll_append w t (Cursor.start (w ++ t)) rfl
  obtain ⟨e, es, hes⟩ := List.exists_cons_of_ne_nil (hr q)
  refine ⟨e.taken, ?_⟩
  rw [firstEnd?, ends, ends, hq, List.flatMap_singleton, hes]
  rfl

/-- a greedy repetition matches everywhere: it can stop before its first round -/
theorem ends_rep_ne_nil (r : Regex) (p : Cursor) : (rep 0 none true r).ends p ≠ [] := by
  show starEnds r.ends true p.rest p ≠ []
  cases p.rest with
  | nil => exact List.cons_ne_nil _ _
  | cons c rest =>
    rw [starEnds, if_pos rfl]
    exact List.append_ne_nil_of_right_ne_nil _ (List.cons_ne_nil _ _)

/-! ## one character of a set, and runs -/

theorem firstEnd?_set (s : CharSet) (c : Char) (t : Text) :
    (set s).firstEnd? (c :: t) = if s.contains c then some 1 else none := by
  show (if s.contains c then [(Cursor.start (c :: t)).pass c t] else []).head?.map Cursor.taken = _
  split <;> rfl

/-- a greedy run goes on while the characters belong to the set -/
theorem head?_starEnds_set (s : CharSet) (fuel : Text) (p : Cursor)
    (h : p.rest.length ≤ fuel.length) :
    (starEnds (set s).ends true fuel p).head?.map Cursor.taken
      = some (p.taken + (p.rest.takeWhile s.contains).length) := by
  induction fuel generalizing p with
  | nil =>
    rw [List.length_eq_zero_iff.1 (Nat.le_zero.1 h)]
    rfl
  | cons x fuel ih =>
    obtain ⟨taken, before, rest⟩ := p
    cases rest with
    | nil => rfl
    | cons c rest =>
      rw [starEnds, if_pos rfl, ends]
      by_cases hc : s.contains c = true
      · have ih' := ih (Cursor.pass ⟨taken, before, c :: rest⟩ c rest) (Nat.le_of_succ_le_succ h)
        obtain ⟨q, hq, hqt⟩ := Option.map_eq_some_iff.1 ih'
        have hne : (Cursor.pass ⟨taken, before, c :: rest⟩ c rest).taken ≠ taken :=
          Nat.succ_ne_self taken
        simp only [if_pos hc, List.flatMap_singleton]
        rw [if_neg hne, List.head?_append, hq, Option.some_or, Option.map_some, hqt,
          List.takeWhile_cons_of_pos hc, List.length_cons, Nat.add_comm _ 1, ← Nat.add_assoc]
        rfl
      · simp only [if_neg hc, List.flatMap_nil, List.nil_append]
        rw [List.takeWhile_cons_of_neg hc]
        rfl

theorem firstEnd?_plus (s : CharSet) (t : Text) :
    (rep 1 none true (.set s)).firstEnd? t
      = if t.takeWhile s.contains = [] then none else some (t.takeWhile s.contains).length := by
  cases t with
  | nil => rfl
  | cons c t =>
    show ((((if s.contains c then [(Cursor.start (c :: t)).pass c t] else []).flatMap
      fun q => starEnds (set s).ends true q.rest q).head?.map Cursor.taken)) = _
    by_cases hc : s.contains c = true
    · rw [if_pos hc, List.flatMap_singleton, head?_starEnds_set s _ _ (Nat.le_refl _),
        List.takeWhile_cons_of_pos hc, if_neg (List.cons_ne_nil _ _), List.length_cons,
        Nat.add_comm _ 1]
      rfl
    · rw [if_neg hc, List.takeWhile_cons_of_neg hc, if_pos rfl]
      rfl

/-! ## an optional character -/

theorem firstEnd?_optional_set (s : CharSet) (c : Char) (t : Text) :
    (rep 0 (some 1) true (.set s)).firstEnd? (c :: t)
      = some (if s.contains c then 1 else 0) := by
  show ((((if s.contains c then [(Cursor.start (c :: t)).pass c t] else []).flatMap
    fun q => [q]) ++ [Cursor.start (c :: t)]).head?.map Cursor.taken) = _
  split <;> rfl

end Regex

end Workbench.Pattern
