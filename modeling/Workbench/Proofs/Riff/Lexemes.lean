import Workbench.Proofs.Riff.Moves

/-!
# Lexemes of code

What the rules of code can match, as far as it matters for what follows: closing brackets have a
rule of their own and are no other rule's lexeme (`isCloser_of_choose`), and plain text is made of
blanks unless it is the one character that no other rule takes (`isBlank_of_choose`).

The last rule matches any character.  That it never gets a closing bracket or a blank is because the
rules for these come before it.
-/

namespace Workbench.Riff

open Workbench.Pattern (CharSet Regex)

/-! ## sets of characters -/

theorem contains_oneOf (t : Text) (c : Char) : (Form.oneOf t).contains c = true ↔ c ∈ t := by
  have h : ∀ s : CharSet, (t.foldl (fun s d => s.union (.single d)) s).contains c = true
      ↔ s.contains c = true ∨ c ∈ t := by
    intro s
    induction t generalizing s with
    | nil => simp
    | cons d t ih =>
      have hunion : (s.union (.single d)).contains c = true ↔ s.contains c = true ∨ c = d := by
        rw [CharSet.contains, CharSet.holds_union, ← CharSet.contains, ← CharSet.contains,
          CharSet.contains_single, Bool.or_eq_true, decide_eq_true_eq]
      rw [List.foldl_cons, ih, hunion, List.mem_cons, or_assoc]
  have hnone : CharSet.none.contains c = false := rfl
  rw [Form.oneOf, h, hnone]
  simp

theorem holds_ofTable (table : List (Nat × Nat)) (h : ∀ r ∈ table, r.1 ≤ r.2) (n : Nat) :
    (CharSet.ofTable table).holds n = true ↔ ∃ r ∈ table, r.1 ≤ n ∧ n ≤ r.2 := by
  rw [CharSet.holds, CharSet.ofTable, List.any_map, List.any_eq_true]
  refine exists_congr fun r => and_congr_right fun hr => ?_
  have hle := h r hr
  rw [Function.comp_apply, Pattern.Range.holds_iff]
  show min r.1 r.2 ≤ n ∧ n ≤ max r.1 r.2 ↔ _
  rw [Nat.min_eq_left hle, Nat.max_eq_right hle]

theorem covers_cons_iff (r : Nat × Nat) (rs : List (Nat × Nat)) (n : Nat) :
    Text.covers (r :: rs) n = true ↔ r.1 ≤ n ∧ (n ≤ r.2 ∨ Text.covers rs n = true) := by
  obtain ⟨lo, hi⟩ := r
  rw [Text.covers]
  by_cases hlo : n < lo
  · simp only [hlo, if_true, Bool.false_eq_true, false_iff]
    omega
  · by_cases hhi : n ≤ hi
    · simp [hlo, hhi, Nat.le_of_not_lt hlo]
    · simp [hlo, hhi, Nat.le_of_not_lt hlo]

/-- the blanks are those of the pattern and the newline -/
theorem isBlank_iff (c : Char) :
    Text.isBlank c = true ↔ Form.blank.contains c = true ∨ c = '\n' := by
  have hc : c = '\n' ↔ c.toNat = 10 := Char.toNat_inj.symm
  rw [Text.isBlank, CharSet.contains, hc, Form.blank, holds_ofTable _ (by decide)]
  generalize c.toNat = n
  simp only [Text.blankTable, covers_cons_iff, List.exists_mem_cons_iff, List.not_mem_nil,
    false_and, exists_false, Text.covers_nil, Bool.false_eq_true, or_false]
  omega

/-! ## the rules of code -/

/-- the position in code behind a value and elsewhere -/
def position (value : Bool) : State := if value then .afterValue else .start

theorem exists_position {s : State} (h : s ∈ [State.start, .afterValue]) :
    ∃ value, s = position value := by
  simp only [List.mem_cons, List.not_mem_nil, or_false] at h
  rcases h with rfl | rfl
  · exact ⟨false, rfl⟩
  · exact ⟨true, rfl⟩

/-- the patterns of code but two have lexemes that begin with no closing bracket -/
theorem begins_no_closer : ∀ value, ∀ spec ∈ rulesOf (position value),
    spec.pattern = Pattern.closer ∨ spec.pattern = Pattern.anything
      ∨ (form spec.pattern).nullable = false ∧ (form spec.pattern).begins ')' = false
        ∧ (form spec.pattern).begins ']' = false := by
  decide +kernel

theorem plain_rules : ∀ value, ∀ spec ∈ rulesOf (position value), spec.kind = .plain →
    spec.pattern = Pattern.blanks ∨ spec.pattern = Pattern.newline
      ∨ spec.pattern = Pattern.anything := by
  decide +kernel

/-- the rules that keep closing brackets and blanks from the last one -/
theorem mem_dropLast_rulesOf : ∀ value,
    ⟨Pattern.closer, .operator, .goto .afterValue⟩ ∈ (rulesOf (position value)).dropLast
      ∧ ⟨Pattern.blanks, .plain, .stay⟩ ∈ (rulesOf (position value)).dropLast
      ∧ ⟨Pattern.newline, .plain, .stay⟩ ∈ (rulesOf (position value)).dropLast := by
  decide +kernel

/-! ## closing brackets -/

def isCloser (x : Text) : Bool := x == [')'] || x == [']']

theorem isCloser_iff (x : Text) : isCloser x = true ↔ x = [')'] ∨ x = [']'] := by
  rw [isCloser, Bool.or_eq_true, beq_iff_eq, beq_iff_eq]

theorem isCloser_singleton (c : Char) :
    isCloser [c] = true ↔ (Form.oneOf [')', ']']).contains c = true := by
  rw [isCloser_iff, contains_oneOf]
  simp

variable {value : Bool} {c : Char} {t : Text} {spec : Spec} {n : Nat}

/-- a lexeme of code is a closing bracket if its rule is the one of closing brackets -/
theorem isCloser_of_choose (h : choose (position value) (c :: t) = some (spec, n)) :
    isCloser ((c :: t).take (max 1 n)) = (spec.pattern == Pattern.closer) := by
  obtain ⟨hmem, hend⟩ := mem_of_choose h
  have hne : Pattern.anything ≠ Pattern.closer := by decide
  rcases begins_no_closer value spec hmem with hspec | hspec | ⟨hnull, hround, hsquare⟩
  · have hform : form spec.pattern = Form.closer := hspec ▸ rfl
    obtain ⟨hmax, hspells⟩ := spells_of_endOf? hend (hform ▸ rfl)
    rw [hform] at hspells
    obtain ⟨d, hd, htake⟩ := hspells
    rw [hmax, htake, hspec, beq_self_eq_true, isCloser_singleton]
    exact hd
  · -- the rule of closing brackets would have matched
    have hfail := others_fail h hspec _ (mem_dropLast_rulesOf value).1
    have hend' : (Form.closer).firstEnd? (c :: t) = none := hfail
    rw [Form.closer, Regex.firstEnd?_set] at hend'
    have hc : (Form.oneOf [')', ']']).contains c ≠ true := by
      intro hc
      rw [if_pos hc] at hend'
      cases hend'
    rw [max_of_anything hspec hend, hspec, beq_false_of_ne hne, List.take_succ_cons, List.take_zero]
    exact Bool.eq_false_iff.2 fun hcloser => hc ((isCloser_singleton c).1 hcloser)
  · obtain ⟨hmax, hspells⟩ := spells_of_endOf? hend hnull
    have hspec : spec.pattern ≠ Pattern.closer := by
      intro hspec
      rw [hspec] at hround
      cases hround
    rw [hmax, beq_false_of_ne hspec, Bool.eq_false_iff]
    intro hcloser
    rcases (isCloser_iff _).1 hcloser with hx | hx
    · rw [hx] at hspells
      rw [Regex.begins_of_spells hspells] at hround
      cases hround
    · rw [hx] at hspells
      rw [Regex.begins_of_spells hspells] at hsquare
      cases hsquare

/-! ## blanks -/

theorem contains_of_spells_plus {s : CharSet} {x : Text} (h : (Form.plus s).Spells x) :
    ∀ d ∈ x, s.contains d = true := by
  obtain ⟨us, hus, -, -, rfl⟩ := h
  intro d hd
  obtain ⟨u, hu, hdu⟩ := List.mem_flatten.1 hd
  obtain ⟨e, he, rfl⟩ := hus u hu
  rw [List.mem_singleton.1 hdu]
  exact he

/-- a blank is taken by a rule that comes before the last one -/
theorem not_isBlank_of_others_fail
    (h : ∀ x ∈ (rulesOf (position value)).dropLast, endOf? x (c :: t) = none) :
    Text.isBlank c = false := by
  obtain ⟨-, hblanks, hnewline⟩ := mem_dropLast_rulesOf value
  have hblank : (Form.plus Form.blank).firstEnd? (c :: t) = none := h _ hblanks
  have hline : (Regex.text ['\n']).firstEnd? (c :: t) = none := h _ hnewline
  rw [Form.plus, Regex.firstEnd?_plus] at hblank
  rw [Regex.firstEnd?_text] at hline
  rw [Bool.eq_false_iff]
  intro hc
  rcases (isBlank_iff c).1 hc with hc | rfl
  · rw [List.takeWhile_cons_of_pos hc, if_neg (List.cons_ne_nil _ _)] at hblank
    cases hblank
  · cases hline

/-- plain text is made of blanks unless it comes from the last rule -/
theorem isBlank_of_choose (h : choose (position value) (c :: t) = some (spec, n))
    (hkind : spec.kind = .plain) :
    ((c :: t).take (max 1 n)).all Text.isBlank = (spec.pattern != Pattern.anything) := by
  obtain ⟨hmem, hend⟩ := mem_of_choose h
  rcases plain_rules value spec hmem hkind with hspec | hspec | hspec
  · have hform : form spec.pattern = Form.plus Form.blank := hspec ▸ rfl
    obtain ⟨hmax, hspells⟩ := spells_of_endOf? hend (hform ▸ rfl)
    rw [hform] at hspells
    have hne : (spec.pattern != Pattern.anything) = true := by rw [hspec]; decide
    rw [hmax, hne, List.all_eq_true]
    exact fun d hd => (isBlank_iff d).2 (.inl (contains_of_spells_plus hspells d hd))
  · have hform : form spec.pattern = .text ['\n'] := hspec ▸ rfl
    obtain ⟨hmax, hspells⟩ := spells_of_endOf? hend (hform ▸ rfl)
    rw [hform] at hspells
    have htake : (c :: t).take n = ['\n'] := hspells
    have hne : (spec.pattern != Pattern.anything) = true := by rw [hspec]; decide
    rw [hmax, hne, htake]
    rfl
  · have hblank := not_isBlank_of_others_fail (others_fail h hspec)
    rw [max_of_anything hspec hend, hspec, List.take_succ_cons, List.take_zero, List.all_cons,
      hblank, bne_self_eq_false]
    rfl

end Workbench.Riff
