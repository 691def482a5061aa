import Workbench.Pattern.Search

/-!
# The words of an expression

What a match passes is a word of the expression, conditions aside: `spells_of_mem_ends`.  Which way
a match prefers does not matter here, so the words say what a match can be, not where it ends.

Two questions about the words are answered from the form of the expression:

* `begins`    whether a word can begin with a character, and `nullable` whether it can be empty; an
              expression whose words are not empty and do not begin with the next character has no
              match (`ends_eq_nil`);
* `avoids`    whether no word holds a character.
-/

namespace Workbench.Pattern

/-! ## what lies between two places -/

namespace Cursor

/-- the text `s` leads from the place `p` to the place `q` -/
def Passes (p : Cursor) (s : Text) (q : Cursor) : Prop :=
  p.rest = s ++ q.rest ∧ q.taken = p.taken + s.length

theorem passes_refl (p : Cursor) : p.Passes [] p := ⟨rfl, rfl⟩

theorem Passes.trans {p q r : Cursor} {s u : Text} (h : p.Passes s q) (h' : q.Passes u r) :
    p.Passes (s ++ u) r := by
  refine ⟨?_, ?_⟩
  · rw [h.1, h'.1, List.append_assoc]
  · rw [h'.2, h.2, List.length_append, Nat.add_assoc]

theorem passes_pass {p : Cursor} {c : Char} {rest : Text} (h : p.rest = c :: rest) :
    p.Passes [c] (p.pass c rest) := ⟨h, rfl⟩

theorem passes_of_mem_passAll (t : Text) (p : Cursor) : ∀ q ∈ p.passAll t, p.Passes t q := by
  induction t generalizing p with
  | nil =>
    intro q hq
    rw [passAll, List.mem_singleton] at hq
    rw [hq]
    exact p.passes_refl
  | cons c t ih =>
    intro q hq
    rw [passAll] at hq
    split at hq
    · cases hq
    · next d rest h =>
      split at hq
      · next hcd =>
        subst hcd
        exact (passes_pass h).trans (ih _ q hq)
      · cases hq

end Cursor

/-! ## the places that repetitions reach -/

section
variable {body last : Cursor → List Cursor}

theorem mem_starEnds {greedy : Bool} {x : Char} {fuel : Text} {p q : Cursor} :
    q ∈ starEnds body greedy (x :: fuel) p ↔
      q = p ∨ ∃ m ∈ body p, q ∈ if m.taken = p.taken then [m] else starEnds body greedy fuel m := by
  cases greedy with
  | true =>
    rw [starEnds, if_pos rfl, List.mem_append, List.mem_singleton, List.mem_flatMap, or_comm]
  | false => rw [starEnds, if_neg Bool.false_ne_true, List.mem_cons, List.mem_flatMap]

theorem mem_upToEnds {greedy : Bool} {n : Nat} {p q : Cursor} :
    q ∈ upToEnds body greedy (n + 1) p ↔ q = p ∨ ∃ m ∈ body p, q ∈ upToEnds body greedy n m := by
  cases greedy with
  | true =>
    rw [upToEnds, if_pos rfl, List.mem_append, List.mem_singleton, List.mem_flatMap, or_comm]
  | false => rw [upToEnds, if_neg Bool.false_ne_true, List.mem_cons, List.mem_flatMap]

/-- the texts of some rounds, put together, lead from `p` to `q` -/
def Rounds (word : Text → Prop) (p : Cursor) (us : List Text) (q : Cursor) : Prop :=
  (∀ u ∈ us, word u) ∧ p.Passes us.flatten q

variable {word : Text → Prop}

theorem rounds_nil (p : Cursor) : Rounds word p [] p :=
  ⟨fun _ hu => absurd hu List.not_mem_nil, p.passes_refl⟩

theorem Rounds.cons {p m q : Cursor} {u : Text} {us : List Text} (hu : word u)
    (hp : p.Passes u m) (h : Rounds word m us q) : Rounds word p (u :: us) q :=
  ⟨List.forall_mem_cons.2 ⟨hu, h.1⟩, hp.trans h.2⟩

variable (hbody : ∀ p, ∀ q ∈ body p, ∃ u, word u ∧ p.Passes u q)
include hbody

theorem rounds_of_mem_starEnds {greedy : Bool} {fuel : Text} {p q : Cursor}
    (h : q ∈ starEnds body greedy fuel p) : ∃ us, Rounds word p us q := by
  induction fuel generalizing p with
  | nil =>
    rw [starEnds, List.mem_singleton] at h
    exact ⟨[], h ▸ rounds_nil q⟩
  | cons x fuel ih =>
    rcases mem_starEnds.1 h with rfl | ⟨m, hm, hq⟩
    · exact ⟨[], rounds_nil q⟩
    · obtain ⟨u, hu, hpm⟩ := hbody p m hm
      split at hq
      · rw [List.mem_singleton] at hq
        exact ⟨[u], hq ▸ .cons hu hpm (rounds_nil m)⟩
      · obtain ⟨us, hus⟩ := ih hq
        exact ⟨u :: us, .cons hu hpm hus⟩

theorem rounds_of_mem_upToEnds {greedy : Bool} {n : Nat} {p q : Cursor}
    (h : q ∈ upToEnds body greedy n p) : ∃ us, Rounds word p us q ∧ us.length ≤ n := by
  induction n generalizing p with
  | zero =>
    rw [upToEnds, List.mem_singleton] at h
    exact ⟨[], h ▸ rounds_nil q, Nat.le_refl 0⟩
  | succ n ih =>
    rcases mem_upToEnds.1 h with rfl | ⟨m, hm, hq⟩
    · exact ⟨[], rounds_nil q, Nat.zero_le _⟩
    · obtain ⟨u, hu, hpm⟩ := hbody p m hm
      obtain ⟨us, hus, hn⟩ := ih hq
      exact ⟨u :: us, .cons hu hpm hus, Nat.succ_le_succ hn⟩

theorem rounds_of_mem_timesEnds {n : Nat} {p q : Cursor} (h : q ∈ timesEnds body last n p) :
    ∃ us m, Rounds word p us m ∧ us.length = n ∧ q ∈ last m := by
  induction n generalizing p with
  | zero => exact ⟨[], p, rounds_nil p, rfl, h⟩
  | succ n ih =>
    obtain ⟨m, hm, hq⟩ := List.mem_flatMap.1 h
    obtain ⟨u, hu, hpm⟩ := hbody p m hm
    obtain ⟨us, m', hus, hn, hlast⟩ := ih hq
    exact ⟨u :: us, m', .cons hu hpm hus, by rw [List.length_cons, hn], hlast⟩

end

/-! ## words -/

namespace Regex

/-- the texts that a match can pass, conditions aside -/
def Spells : Regex → Text → Prop
  | .empty, s => s = []
  | .text t, s => s = t
  | .set cs, s => ∃ c, cs.contains c ∧ s = [c]
  | .look _, s => s = []
  | .seq a b, s => ∃ u v, a.Spells u ∧ b.Spells v ∧ s = u ++ v
  | .alt a b, s => a.Spells s ∨ b.Spells s
  | .rep least most _ a, s => ∃ us : List Text, (∀ u ∈ us, a.Spells u) ∧ least ≤ us.length
      ∧ (∀ n ∈ most, us.length ≤ max least n) ∧ s = us.flatten
  | .group _ a, s => a.Spells s

/-- a match passes a word -/
theorem spells_of_mem_ends (r : Regex) (p : Cursor) :
    ∀ q ∈ r.ends p, ∃ s, r.Spells s ∧ p.Passes s q := by
  induction r generalizing p with
  | empty =>
    intro q hq
    rw [ends, List.mem_singleton] at hq
    exact ⟨[], rfl, hq ▸ q.passes_refl⟩
  | text t => exact fun q hq => ⟨t, rfl, p.passes_of_mem_passAll t q hq⟩
  | set cs =>
    intro q hq
    rw [ends] at hq
    split at hq
    · cases hq
    · next c rest h =>
      split at hq
      · next hc =>
        rw [List.mem_singleton] at hq
        exact ⟨[c], ⟨c, hc, rfl⟩, hq ▸ Cursor.passes_pass h⟩
      · cases hq
  | look l =>
    intro q hq
    rw [ends] at hq
    split at hq
    · rw [List.mem_singleton] at hq
      exact ⟨[], rfl, hq ▸ q.passes_refl⟩
    · cases hq
  | seq a b iha ihb =>
    intro q hq
    obtain ⟨m, hm, hq⟩ := List.mem_flatMap.1 hq
    obtain ⟨u, hu, hpm⟩ := iha p m hm
    obtain ⟨v, hv, hmq⟩ := ihb m q hq
    exact ⟨u ++ v, ⟨u, v, hu, hv, rfl⟩, hpm.trans hmq⟩
  | alt a b iha ihb =>
    intro q hq
    rcases List.mem_append.1 hq with hq | hq
    · obtain ⟨s, hs, hp⟩ := iha p q hq
      exact ⟨s, Or.inl hs, hp⟩
    · obtain ⟨s, hs, hp⟩ := ihb p q hq
      exact ⟨s, Or.inr hs, hp⟩
  | rep least most greedy a ih =>
    intro q hq
    cases most with
    | none =>
      obtain ⟨us, m, hus, hn, hq⟩ := rounds_of_mem_timesEnds ih hq
      obtain ⟨vs, hvs⟩ := rounds_of_mem_starEnds ih hq
      refine ⟨_, ⟨us ++ vs, ?_, ?_, ?_, rfl⟩, ?_⟩
      · exact List.forall_mem_append.2 ⟨hus.1, hvs.1⟩
      · rw [List.length_append, hn]
        exact Nat.le_add_right least _
      · exact fun n hn => absurd hn (by simp)
      · rw [List.flatten_append]
        exact hus.2.trans hvs.2
    | some most =>
      obtain ⟨us, m, hus, hn, hq⟩ := rounds_of_mem_timesEnds ih hq
      obtain ⟨vs, hvs, hm⟩ := rounds_of_mem_upToEnds ih hq
      refine ⟨_, ⟨us ++ vs, ?_, ?_, ?_, rfl⟩, ?_⟩
      · exact List.forall_mem_append.2 ⟨hus.1, hvs.1⟩
      · rw [List.length_append, hn]
        exact Nat.le_add_right least _
      · intro n hn'
        rw [Option.mem_some] at hn'
        rw [List.length_append]
        omega
      · rw [List.flatten_append]
        exact hus.2.trans hvs.2
  | group index a ih => exact ih p

/-! ## how words begin -/

/-- whether the empty text is a word -/
def nullable : Regex → Bool
  | .empty | .look _ => true
  | .text t => t.isEmpty
  | .set _ => false
  | .seq a b => a.nullable && b.nullable
  | .alt a b => a.nullable || b.nullable
  | .rep least _ _ a => least == 0 || a.nullable
  | .group _ a => a.nullable

/-- whether a word can begin with a character -/
def begins (c : Char) : Regex → Bool
  | .empty | .look _ => false
  | .text t => t.head? == some c
  | .set s => s.contains c
  | .seq a b => a.begins c || a.nullable && b.begins c
  | .alt a b => a.begins c || b.begins c
  | .rep _ _ _ a => a.begins c
  | .group _ a => a.begins c

theorem nullable_of_spells {r : Regex} (h : r.Spells []) : r.nullable = true := by
  induction r with
  | empty | look l => rfl
  | text t =>
    have ht : [] = t := h
    rw [nullable, ← ht]
    rfl
  | set cs =>
    obtain ⟨c, _, hs⟩ := h
    cases hs
  | seq a b iha ihb =>
    obtain ⟨u, v, hu, hv, hs⟩ := h
    obtain ⟨rfl, rfl⟩ := List.append_eq_nil_iff.1 hs.symm
    rw [nullable, iha hu, ihb hv]
    rfl
  | alt a b iha ihb =>
    rw [nullable, Bool.or_eq_true]
    exact h.imp iha ihb
  | rep least most greedy a ih =>
    obtain ⟨us, hus, hleast, _, hs⟩ := h
    rw [nullable, Bool.or_eq_true]
    cases us with
    | nil =>
      left
      simpa using hleast
    | cons u us =>
      right
      have hu : u = [] := (List.append_eq_nil_iff.1 hs.symm).1
      exact ih (hu ▸ hus u List.mem_cons_self)
  | group index a ih => exact ih h

theorem begins_of_spells {r : Regex} {c : Char} {s : Text} (h : r.Spells (c :: s)) :
    r.begins c = true := by
  induction r generalizing s with
  | empty | look l => cases h
  | text t =>
    have ht : c :: s = t := h
    rw [begins, ← ht, List.head?_cons, beq_self_eq_true]
  | set cs =>
    obtain ⟨d, hd, hs⟩ := h
    rw [List.cons.injEq] at hs
    rw [begins, hs.1]
    exact hd
  | seq a b iha ihb =>
    obtain ⟨u, v, hu, hv, hs⟩ := h
    rw [begins, Bool.or_eq_true, Bool.and_eq_true]
    cases u with
    | nil =>
      have hs : c :: s = v := hs
      exact Or.inr ⟨nullable_of_spells hu, ihb (hs ▸ hv)⟩
    | cons d u =>
      rw [List.cons_append, List.cons.injEq] at hs
      exact Or.inl (iha (hs.1 ▸ hu))
  | alt a b iha ihb =>
    rw [begins, Bool.or_eq_true]
    exact h.imp iha ihb
  | rep least most greedy a ih =>
    obtain ⟨us, hus, -, -, hs⟩ := h
    -- the first round that passes a character passes `c`
    induction us with
    | nil => cases hs
    | cons u us ihus =>
      cases u with
      | nil => exact ihus (fun u hu => hus u (List.mem_cons_of_mem _ hu)) hs
      | cons d u =>
        rw [List.flatten_cons, List.cons_append, List.cons.injEq] at hs
        exact ih (hs.1 ▸ hus _ List.mem_cons_self)
  | group index a ih => exact ih h

/-- no match where the next character begins no word -/
theorem ends_eq_nil {r : Regex} {p : Cursor} {c : Char} {rest : Text} (hn : r.nullable = false)
    (hc : r.begins c = false) (hp : p.rest = c :: rest) : r.ends p = [] := by
  rw [List.eq_nil_iff_forall_not_mem]
  intro q hq
  obtain ⟨s, hs, hpass⟩ := r.spells_of_mem_ends p q hq
  cases s with
  | nil => rw [nullable_of_spells hs] at hn; cases hn
  | cons d s =>
    have hd : c :: rest = d :: (s ++ q.rest) := hp.symm.trans hpass.1
    rw [List.cons.injEq] at hd
    rw [hd.1, begins_of_spells hs] at hc
    cases hc

/-! ## characters that no word holds -/

/-- whether no word holds the character -/
def avoids (c : Char) : Regex → Bool
  | .empty | .look _ => true
  | .text t => !t.contains c
  | .set s => !s.contains c
  | .seq a b | .alt a b => a.avoids c && b.avoids c
  | .rep _ _ _ a | .group _ a => a.avoids c

theorem not_mem_of_spells {r : Regex} {c : Char} {s : Text} (hc : r.avoids c = true)
    (h : r.Spells s) : c ∉ s := by
  induction r generalizing s with
  | empty | look l =>
    have hs : s = [] := h
    rw [hs]
    exact List.not_mem_nil
  | text t =>
    have hs : s = t := h
    rw [avoids, Bool.not_eq_true', List.contains_eq_mem, decide_eq_false_iff_not] at hc
    rwa [hs]
  | set cs =>
    obtain ⟨d, hd, rfl⟩ := h
    rw [List.mem_singleton]
    rintro rfl
    rw [avoids, hd] at hc
    cases hc
  | seq a b iha ihb =>
    obtain ⟨u, v, hu, hv, rfl⟩ := h
    rw [avoids, Bool.and_eq_true] at hc
    rw [List.mem_append, not_or]
    exact ⟨iha hc.1 hu, ihb hc.2 hv⟩
  | alt a b iha ihb =>
    rw [avoids, Bool.and_eq_true] at hc
    exact h.elim (iha hc.1) (ihb hc.2)
  | rep least most greedy a ih =>
    obtain ⟨us, hus, _, _, rfl⟩ := h
    intro hmem
    obtain ⟨u, hu, hcu⟩ := List.mem_flatten.1 hmem
    exact ih hc (hus u hu) hcu
  | group index a ih => exact ih hc h

end Regex

end Workbench.Pattern
