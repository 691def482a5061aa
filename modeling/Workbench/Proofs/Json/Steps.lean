import Workbench.Proofs.Json.Reading

/-!
# Readings

`Gives` says of a reading what it takes and what it leaves.  The lemmas here take it through what
readers are put together from: results that are widened and mapped, the next character that is not
blank (`Next`, `gives_next_iff`), and words.  A reader can then be said in one equivalence, without
the bounds that its results carry.
-/

namespace Workbench.Json

variable {α β : Type} {m n : Nat} {a : α} {b : β} {q r s t : Text}

/-! ## what a reading gives -/

namespace Gives

theorem shorter {reading : Except Refusal (Taken α n)} (h : Gives reading a r) : r.length < n := by
  obtain ⟨hr, -⟩ := h
  exact hr

theorem unique {reading : Except Refusal (Taken α n)} {a' : α} {r' : Text} (h : Gives reading a r)
    (h' : Gives reading a' r') : a = a' ∧ r = r' := by
  obtain ⟨_, rfl⟩ := h
  obtain ⟨_, h'⟩ := h'
  injection h' with h'
  injection h' with ha hr
  exact ⟨ha, hr⟩

end Gives

theorem not_gives_error {e : Refusal} : ¬ Gives (.error e : Except Refusal (Taken α n)) a r := by
  rintro ⟨_, h⟩
  cases h

theorem gives_ok_iff {a' : α} {hr : r.length < n} :
    Gives (.ok ⟨a, r, hr⟩) a' q ↔ a = a' ∧ r = q := by
  constructor
  · intro h
    exact Gives.unique ⟨hr, rfl⟩ h
  · rintro ⟨rfl, rfl⟩
    exact ⟨hr, rfl⟩

theorem gives_widen_iff {reading : Except Refusal (Taken α m)} {h : m ≤ n} :
    Gives (reading.map (·.widen h)) a r ↔ Gives reading a r := by
  cases reading with
  | error e => exact iff_of_false not_gives_error not_gives_error
  | ok t =>
    obtain ⟨a', r', hr'⟩ := t
    show Gives (.ok ⟨a', r', _⟩) a r ↔ Gives (.ok ⟨a', r', hr'⟩) a r
    rw [gives_ok_iff, gives_ok_iff]

theorem gives_map_iff {reading : Except Refusal (Taken α n)} {f : α → β} :
    Gives (reading.map (·.map f)) b r ↔ ∃ a, Gives reading a r ∧ f a = b := by
  cases reading with
  | error e =>
    constructor
    · intro h
      exact absurd h not_gives_error
    · rintro ⟨_, h, -⟩
      exact absurd h not_gives_error
  | ok t =>
    obtain ⟨a', r', hr'⟩ := t
    show Gives (.ok ⟨f a', r', hr'⟩) b r ↔ ∃ a, Gives (.ok ⟨a', r', hr'⟩) a r ∧ f a = b
    simp only [gives_ok_iff]
    constructor
    · rintro ⟨hf, hr⟩
      exact ⟨a', ⟨rfl, hr⟩, hf⟩
    · rintro ⟨_, ⟨rfl, hr⟩, hf⟩
      exact ⟨hf, hr⟩

theorem gives_map_widen_iff {reading : Except Refusal (Taken α m)} {f : α → β} {h : m ≤ n} :
    Gives (reading.map fun t => (t.map f).widen h) b r ↔ ∃ a, Gives reading a r ∧ f a = b := by
  have hmap : (reading.map fun t => (t.map f).widen h)
      = (reading.map (·.map f)).map (·.widen h) := by
    cases reading <;> rfl
  rw [hmap, gives_widen_iff, gives_map_iff]

/-! ## the next character -/

/-- the first character that is not blank, and what is behind it -/
def Next (s : Text) (c : Char) (r : Text) : Prop := skipBlank s = c :: r

namespace Next

variable {c d : Char}

theorem unique {r' : Text} (h : Next s c r) (h' : Next s d r') : c = d ∧ r = r' :=
  List.cons.inj (Eq.trans (Eq.symm h) h')

theorem shorter (h : Next s c r) : r.length < s.length := by
  have hle := length_skipBlank s
  rw [h] at hle
  exact hle

theorem not_blank (h : Next s c r) : isBlank c = false := by
  have hhead := List.head?_dropWhile_not isBlank s
  have hdrop : s.dropWhile isBlank = c :: r := h
  rw [hdrop] at hhead
  exact hhead

theorem of_cons (hc : isBlank c = false) (r : Text) : Next (c :: r) c r := by
  rw [Next, skipBlank, List.dropWhile_cons_of_neg (by rw [hc]; exact Bool.false_ne_true)]

/-- blanks in front make no difference -/
theorem of_blanks {b : Text} (hb : ∀ c ∈ b, isBlank c = true) (hc : isBlank c = false) (r : Text) :
    Next (b ++ c :: r) c r := by
  have hdrop : (b ++ c :: r).dropWhile isBlank = (c :: r).dropWhile isBlank :=
    List.dropWhile_append_of_pos hb
  rw [Next, skipBlank, hdrop]
  exact of_cons hc r

theorem next? (h : Next s c r) : ∃ hr, Json.next? s = some ⟨c, r, hr⟩ := by
  refine ⟨h.shorter, ?_⟩
  unfold Json.next?
  split
  · next hs =>
    rw [Next, hs] at h
    cases h
  · next d q hs =>
    obtain ⟨rfl, rfl⟩ := h.unique hs
    rfl

end Next

theorem next_of_next? {c : Char} {hr : r.length < s.length} (h : next? s = some ⟨c, r, hr⟩) :
    Next s c r := by
  unfold next? at h
  split at h
  · cases h
  · next d q hs =>
    cases h
    exact hs

theorem gives_next_iff {e : Refusal}
    {f : (c : Char) → (q : Text) → q.length < s.length → Except Refusal (Taken α n)} :
    Gives (match next? s with
        | none => .error e
        | some ⟨c, q, hq⟩ => f c q hq) a r
      ↔ ∃ c q, ∃ hnext : Next s c q, Gives (f c q hnext.shorter) a r := by
  constructor
  · intro h
    split at h
    · exact absurd h not_gives_error
    · next c q hq hnext => exact ⟨c, q, next_of_next? hnext, h⟩
  · rintro ⟨c, q, hnext, h⟩
    obtain ⟨_, heq⟩ := hnext.next?
    rw [heq]
    exact h

/-! ## words -/

theorem gives_readWord_iff {w : List Char} : Gives (readWord w s) () r ↔ s = w ++ r := by
  induction w generalizing s with
  | nil => rw [readWord, gives_ok_iff, List.nil_append, eq_self, true_and]
  | cons c w ih =>
    cases s with
    | nil => exact ⟨fun h => absurd h not_gives_error, fun h => by cases h⟩
    | cons d s =>
      rw [readWord, List.cons_append, List.cons.injEq]
      split
      · next hd => rw [gives_widen_iff, ih, and_iff_right hd]
      · next hd => exact ⟨fun h => absurd h not_gives_error, fun h => absurd h.1 hd⟩

end Workbench.Json
