/-!
# Texts and their byte offsets

A text is a list of characters.  Offsets into a text count the bytes of its UTF-8 form, so a text
can be cut at an offset only where a character begins: `splitAtByte` refuses every other place, and
`slice` takes the characters between two such places.

`bytes` is additive (`bytes_append`), which is what lets offsets be shifted.
-/

namespace Workbench

abbrev Text := List Char

namespace Text

/-! ## length in bytes -/

/-- the number of bytes of the UTF-8 form -/
def bytes : Text → Nat
  | [] => 0
  | c :: t => c.utf8Size + bytes t

@[simp] theorem bytes_nil : bytes [] = 0 := rfl
@[simp] theorem bytes_cons (c : Char) (t : Text) : bytes (c :: t) = c.utf8Size + bytes t := rfl
@[simp] theorem bytes_append (s t : Text) : bytes (s ++ t) = bytes s + bytes t := by
  induction s with
  | nil => simp
  | cons c s ih =>
    rw [List.cons_append, bytes_cons, bytes_cons, ih, Nat.add_assoc]

theorem length_le_bytes (t : Text) : t.length ≤ bytes t := by
  induction t with
  | nil => exact Nat.le_refl 0
  | cons c t ih =>
    have h := c.utf8Size_pos
    rw [List.length_cons, bytes_cons]
    omega

/-! ## cutting at a byte offset -/

/-- the parts before and after a byte offset, if a character begins (or the text ends) there -/
def splitAtByte : Nat → Text → Option (Text × Text)
  | 0, t => some ([], t)
  | _ + 1, [] => none
  | n + 1, c :: t =>
    if c.utf8Size ≤ n + 1 then
      (splitAtByte (n + 1 - c.utf8Size) t).map fun parts => (c :: parts.1, parts.2)
    else none

/-- a cut loses nothing, and the first part ends at the offset -/
theorem splitAtByte_eq_some {n : Nat} {t a b : Text} (h : splitAtByte n t = some (a, b)) :
    t = a ++ b ∧ bytes a = n := by
  induction t generalizing n a b with
  | nil =>
    cases n with
    | zero =>
      simp only [splitAtByte, Option.some.injEq, Prod.mk.injEq] at h
      simp [← h.1, ← h.2]
    | succ n => simp [splitAtByte] at h
  | cons c t ih =>
    cases n with
    | zero =>
      simp only [splitAtByte, Option.some.injEq, Prod.mk.injEq] at h
      simp [← h.1, ← h.2]
    | succ n =>
      simp only [splitAtByte] at h
      split at h
      · next hc =>
        obtain ⟨⟨a', b'⟩, hs, hp⟩ := Option.map_eq_some_iff.1 h
        simp only [Prod.mk.injEq] at hp
        obtain ⟨rfl, rfl⟩ := hp
        obtain ⟨h1, h2⟩ := ih hs
        exact ⟨by rw [h1]; rfl, by rw [bytes_cons, h2]; omega⟩
      · simp at h

/-- every place between two characters can be cut -/
@[simp] theorem splitAtByte_bytes (a b : Text) : splitAtByte (bytes a) (a ++ b) = some (a, b) := by
  induction a with
  | nil => simp [splitAtByte]
  | cons c a ih =>
    have h := c.utf8Size_pos
    obtain ⟨k, hk⟩ : ∃ k, bytes (c :: a) = k + 1 :=
      ⟨bytes (c :: a) - 1, by rw [bytes_cons]; omega⟩
    have hb : k + 1 - c.utf8Size = bytes a := by rw [← hk, bytes_cons]; omega
    have hc : c.utf8Size ≤ k + 1 := by rw [← hk, bytes_cons]; omega
    rw [hk, List.cons_append, splitAtByte, if_pos hc, hb, ih]
    rfl

/-- the characters between two byte offsets; refused if one is off the text or inside a character -/
def slice (t : Text) (start stop : Nat) : Option Text :=
  if start ≤ stop then
    (splitAtByte start t).bind fun parts => (splitAtByte (stop - start) parts.2).map (·.1)
  else none

theorem slice_append (a b c : Text) :
    slice (a ++ b ++ c) (bytes a) (bytes a + bytes b) = some b := by
  unfold slice
  rw [if_pos (Nat.le_add_right _ _), List.append_assoc, splitAtByte_bytes]
  simp

end Text

end Workbench
