import Mathlib.Data.List.Basic
import Workbench.Proofs.Pattern.Words

/-!
# How far a match looks

An expression whose words do not hold a character never looks beyond the next such character: its
matches stop in front of it, and conditions look at one character on either side.  So its matches
stay the same, in the same order, whatever is put behind a text that holds the character
(`ends_extend`).

Repetitions are bounded by what is left of the text, which the longer text lengthens.  That makes no
difference: no repetition comes to the end of its bound before the character.
-/

namespace Workbench.Pattern

namespace Cursor

/-- the same place with more text behind -/
def extend (p : Cursor) (t : Text) : Cursor := { p with rest := p.rest ++ t }

variable {p q : Cursor} {c : Char} {s : Text}

theorem Passes.mem_rest (h : p.Passes s q) (hs : c ∉ s) (hp : c ∈ p.rest) : c ∈ q.rest := by
  rw [h.1, List.mem_append] at hp
  exact hp.resolve_left hs

/-- what was passed is missing from the rest -/
theorem Passes.length_rest (h : p.Passes s q) :
    q.rest.length + (q.taken - p.taken) = p.rest.length := by
  rw [h.2, h.1, List.length_append]
  omega

theorem passAll_extend {s : Text} (hs : c ∉ s) (hp : c ∈ p.rest) (t : Text) :
    passAll s (p.extend t) = (passAll s p).map (·.extend t) := by
  induction s generalizing p with
  | nil => rfl
  | cons d s ih =>
    obtain ⟨taken, before, rest⟩ := p
    cases rest with
    | nil => cases hp
    | cons e rest =>
      show (if d = e then passAll s ((pass ⟨taken, before, e :: rest⟩ e rest).extend t) else [])
        = List.map (·.extend t) (if d = e then passAll s (pass ⟨taken, before, e :: rest⟩ e rest)
            else [])
      split
      · next hde =>
        rw [ih (fun h => hs (List.mem_cons_of_mem _ h))]
        rcases List.mem_cons.1 hp with hce | hp
        · exact absurd (List.mem_cons.2 (Or.inl (hce.trans hde.symm))) hs
        · exact hp
      · rfl

end Cursor

/-- a condition looks at the next character only -/
theorem Look.holds_extend (l : Look) {p : Cursor} (hp : p.rest ≠ []) (t : Text) :
    l.holds (p.extend t) = l.holds p := by
  obtain ⟨taken, before, rest⟩ := p
  cases rest with
  | nil => exact absurd rfl hp
  | cons d rest =>
    cases l with
    | textStart | textEnd | word unicode side => rfl
    | lineStart crlf | lineEnd crlf => cases crlf <;> rfl

/-! ## repetitions -/

section
variable {c : Char} {t : Text} {body : Cursor → List Cursor}

/-- the places that `body` reaches from a place in front of `c` are in front of it too, and more
text behind does not change them -/
def StopsBefore (c : Char) (t : Text) (body : Cursor → List Cursor) : Prop :=
  ∀ p, c ∈ p.rest → body (p.extend t) = (body p).map (·.extend t)
    ∧ ∀ q ∈ body p, c ∈ q.rest ∧ ∃ s, p.Passes s q

variable (h : StopsBefore c t body)
include h

theorem starEnds_extend (greedy : Bool) {fuel : Text} {p : Cursor} (hp : c ∈ p.rest)
    (hfuel : p.rest.length ≤ fuel.length) :
    starEnds body greedy (fuel ++ t) (p.extend t)
      = (starEnds body greedy fuel p).map (·.extend t) := by
  induction fuel generalizing p with
  | nil => exact absurd hp (List.length_eq_zero_iff.1 (Nat.le_zero.1 hfuel) ▸ List.not_mem_nil)
  | cons x fuel ih =>
    have more : (body (p.extend t)).flatMap (fun q =>
          if q.taken = (p.extend t).taken then [q] else starEnds body greedy (fuel ++ t) q)
        = ((body p).flatMap fun q =>
            if q.taken = p.taken then [q] else starEnds body greedy fuel q).map (·.extend t) := by
      rw [(h p hp).1, List.flatMap_map, List.map_flatMap]
      refine List.flatMap_congr fun q hq => ?_
      obtain ⟨hcq, s, hs⟩ := (h p hp).2 q hq
      show (if q.taken = p.taken then [q.extend t] else _) = _
      split
      · rfl
      · have := hs.length_rest
        have := hs.2
        exact ih hcq (by rw [List.length_cons] at hfuel; omega)
    rw [List.cons_append, starEnds, starEnds, more]
    cases greedy with
    | true => rw [if_pos rfl, if_pos rfl, List.map_append]; rfl
    | false => rw [if_neg Bool.false_ne_true, if_neg Bool.false_ne_true, List.map_cons]

theorem upToEnds_extend (greedy : Bool) (n : Nat) {p : Cursor} (hp : c ∈ p.rest) :
    upToEnds body greedy n (p.extend t) = (upToEnds body greedy n p).map (·.extend t) := by
  induction n generalizing p with
  | zero => rfl
  | succ n ih =>
    have more : (body (p.extend t)).flatMap (upToEnds body greedy n)
        = ((body p).flatMap (upToEnds body greedy n)).map (·.extend t) := by
      rw [(h p hp).1, List.flatMap_map, List.map_flatMap]
      exact List.flatMap_congr fun q hq => ih ((h p hp).2 q hq).1
    rw [upToEnds, upToEnds, more]
    cases greedy with
    | true => rw [if_pos rfl, if_pos rfl, List.map_append]; rfl
    | false => rw [if_neg Bool.false_ne_true, if_neg Bool.false_ne_true, List.map_cons]

theorem timesEnds_extend {last last' : Cursor → List Cursor}
    (hlast : ∀ p, c ∈ p.rest → last' (p.extend t) = (last p).map (·.extend t)) (n : Nat)
    {p : Cursor} (hp : c ∈ p.rest) :
    timesEnds body last' n (p.extend t) = (timesEnds body last n p).map (·.extend t) := by
  induction n generalizing p with
  | zero => exact hlast p hp
  | succ n ih =>
    rw [timesEnds, timesEnds, (h p hp).1, List.flatMap_map, List.map_flatMap]
    exact List.flatMap_congr fun q hq => ih ((h p hp).2 q hq).1

end

/-! ## expressions -/

namespace Regex

theorem mem_rest_of_mem_ends {r : Regex} {c : Char} (hr : r.avoids c = true) {p q : Cursor}
    (hp : c ∈ p.rest) (hq : q ∈ r.ends p) : c ∈ q.rest ∧ ∃ s, p.Passes s q := by
  obtain ⟨s, hs, hpass⟩ := r.spells_of_mem_ends p q hq
  exact ⟨hpass.mem_rest (not_mem_of_spells hr hs) hp, s, hpass⟩

/-- text behind a character that no word holds does not change the matches in front of it -/
theorem ends_extend {r : Regex} {c : Char} (hr : r.avoids c = true) {p : Cursor} (hp : c ∈ p.rest)
    (t : Text) : r.ends (p.extend t) = (r.ends p).map (·.extend t) := by
  induction r generalizing p with
  | empty => rfl
  | text s =>
    rw [avoids, Bool.not_eq_true', List.contains_eq_mem, decide_eq_false_iff_not] at hr
    exact Cursor.passAll_extend hr hp t
  | set s =>
    obtain ⟨taken, before, rest⟩ := p
    cases rest with
    | nil => cases hp
    | cons d rest =>
      show (if s.contains d then _ else _) = List.map _ (if s.contains d then _ else _)
      split <;> rfl
  | look l =>
    rw [ends, ends, l.holds_extend (List.ne_nil_of_mem hp)]
    split <;> rfl
  | seq a b iha ihb =>
    rw [avoids, Bool.and_eq_true] at hr
    rw [ends, ends, iha hr.1 hp, List.flatMap_map, List.map_flatMap]
    exact List.flatMap_congr fun q hq => ihb hr.2 (mem_rest_of_mem_ends hr.1 hp hq).1
  | alt a b iha ihb =>
    rw [avoids, Bool.and_eq_true] at hr
    rw [ends, ends, iha hr.1 hp, ihb hr.2 hp, List.map_append]
  | rep least most greedy a ih =>
    rw [avoids] at hr
    have stops : StopsBefore c t a.ends := fun p hp =>
      ⟨ih hr hp, fun q hq => mem_rest_of_mem_ends hr hp hq⟩
    cases most with
    | none =>
      have star (q : Cursor) (hq : c ∈ q.rest) :
          starEnds a.ends greedy (q.rest ++ t) (q.extend t)
            = (starEnds a.ends greedy q.rest q).map (·.extend t) :=
        starEnds_extend stops greedy hq (Nat.le_refl _)
      exact timesEnds_extend stops star least hp
    | some most =>
      exact timesEnds_extend stops (fun q hq => upToEnds_extend stops greedy _ hq) least hp
  | group index a ih => exact ih hr hp

end Regex

end Workbench.Pattern
