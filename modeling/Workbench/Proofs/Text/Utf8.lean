import Mathlib
import Workbench.Text.Utf8

/-!
# Lossy decoding around ASCII bytes

No byte below 0x80 continues a character or an ill-formed part, so decoding stops in front of such a
byte, whatever stands there, and begins anew behind it (`AsciiByte.decodeLossy_append_cons`).  And
no character below 0x80 comes of anything but its own byte: longer forms have larger values
(`bounds_of_leadShape?`), and what stands for an ill-formed part is larger, too.  So where the
decoded text is cut at such a character, the bytes can be cut at its byte
(`AsciiByte.exists_of_decodeLossy_eq`).
-/

namespace Workbench.Text

/-! ## what a reader leaves -/

theorem suffix_readTail (more lo hi value : Nat) (bs : Bytes) :
    (readTail more lo hi value bs).2 <:+ bs := by
  induction more generalizing lo hi value bs with
  | zero => exact List.suffix_refl bs
  | succ more ih =>
    cases bs with
    | nil => exact List.suffix_refl []
    | cons b bs =>
      rw [readTail]
      split
      · exact (ih 0x80 0xBF _ bs).trans (List.suffix_cons b bs)
      · exact List.suffix_refl _

theorem suffix_readChar (b : UInt8) (rest : Bytes) : (readChar b rest).2 <:+ rest := by
  unfold readChar
  split
  · exact List.suffix_refl rest
  · split
    · exact List.suffix_refl rest
    · exact suffix_readTail ..

/-! ## leading bytes -/

/-- What a leading byte promises: the bytes that follow are not below 0x80, and the value of the
whole form is not, either. -/
theorem bounds_of_leadShape? {b : UInt8} {more lo hi : Nat}
    (h : leadShape? b = some (more, lo, hi)) :
    0x80 ≤ lo ∧ hi ≤ 0xBF ∧ ∃ k, more = k + 1
      ∧ 0x80 ≤ (64 * leadBits more b + (lo - 0x80)) * 64 ^ k := by
  simp only [leadShape?, Bool.and_eq_true, decide_eq_true_eq] at h
  split_ifs at h <;> cases h
  · exact ⟨by decide, by decide, 0, rfl, show 0x80 ≤ (64 * (b.toNat % 0x20) + 0) * 1 by omega⟩
  -- the first byte that follows 0xE0 or 0xF0 makes up for the bits that these lack
  · exact ⟨by decide, by decide, 1, rfl, show 0x80 ≤ (64 * (b.toNat % 0x10) + 0x20) * 64 by omega⟩
  · exact ⟨by decide, by decide, 1, rfl, show 0x80 ≤ (64 * (b.toNat % 0x10) + 0) * 64 by omega⟩
  · exact ⟨by decide, by decide, 1, rfl, show 0x80 ≤ (64 * (b.toNat % 0x10) + 0) * 64 by omega⟩
  · exact ⟨by decide, by decide, 2, rfl, show 0x80 ≤ (64 * (b.toNat % 0x08) + 0x10) * 4096 by omega⟩
  · exact ⟨by decide, by decide, 2, rfl, show 0x80 ≤ (64 * (b.toNat % 0x08) + 0) * 4096 by omega⟩
  · exact ⟨by decide, by decide, 2, rfl, show 0x80 ≤ (64 * (b.toNat % 0x08) + 0) * 4096 by omega⟩

/-! ## bytes below 0x80 -/

/-- the byte of a character below 0x80, other than the character 0 -/
structure AsciiByte (b : UInt8) (c : Char) : Prop where
  value : b.toNat = c.toNat
  pos : 0 < c.toNat
  lt : c.toNat < 0x80

theorem asciiByte_newline : AsciiByte 10 '\n' := ⟨rfl, by decide, by decide⟩

theorem asciiByte_return : AsciiByte 13 '\r' := ⟨rfl, by decide, by decide⟩

namespace AsciiByte

variable {b : UInt8} {c : Char} (h : AsciiByte b c)
include h

/-- a form is not read beyond such a byte -/
theorem readTail_append {more lo hi value : Nat} (hlo : 0x80 ≤ lo) (xs ys : Bytes) :
    readTail more lo hi value (xs ++ b :: ys)
      = ((readTail more lo hi value xs).1, (readTail more lo hi value xs).2 ++ b :: ys) := by
  induction more generalizing lo hi value xs with
  | zero => rfl
  | succ more ih =>
    cases xs with
    | nil =>
      have hout : ¬ (decide (lo ≤ b.toNat) && decide (b.toNat ≤ hi)) = true := by
        have := h.lt
        rw [h.value, Bool.and_eq_true, decide_eq_true_eq]
        omega
      show readTail (more + 1) lo hi value (b :: ys) = (none, b :: ys)
      rw [readTail, if_neg hout]
    | cons x xs =>
      rw [List.cons_append, readTail, readTail]
      split
      · exact ih (Nat.le_refl _) xs
      · rfl

theorem readChar_append (x : UInt8) (xs ys : Bytes) :
    readChar x (xs ++ b :: ys) = ((readChar x xs).1, (readChar x xs).2 ++ b :: ys) := by
  unfold readChar
  split
  · rfl
  · split
    · rfl
    · next hlead => exact h.readTail_append (bounds_of_leadShape? hlead).1 xs ys

theorem readChar_self (ys : Bytes) : readChar b ys = (some c, ys) := by
  rw [readChar, if_pos (by rw [h.value]; exact h.lt), h.value, Char.ofNat_toNat]

end AsciiByte

@[simp] theorem decodeLossy_nil : decodeLossy [] = [] := by
  rw [decodeLossy, decodeParts]
  rfl

theorem decodeLossy_cons (b : UInt8) (rest : Bytes) :
    decodeLossy (b :: rest)
      = (readChar b rest).1.getD replacement :: decodeLossy (readChar b rest).2 := by
  rw [decodeLossy, decodeParts]
  rfl

theorem decodeLossy_ne_nil {bs : Bytes} (h : bs ≠ []) : decodeLossy bs ≠ [] := by
  obtain ⟨b, rest, rfl⟩ := List.exists_cons_of_ne_nil h
  rw [decodeLossy_cons]
  exact List.cons_ne_nil _ _

/-- decoding begins anew at a byte below 0x80 -/
theorem AsciiByte.decodeLossy_append_cons {b : UInt8} {c : Char} (h : AsciiByte b c)
    (xs ys : Bytes) : decodeLossy (xs ++ b :: ys) = decodeLossy xs ++ c :: decodeLossy ys := by
  induction xs using decodeParts.induct with
  | case1 =>
    rw [List.nil_append, decodeLossy_cons, h.readChar_self, decodeLossy_nil]
    rfl
  | case2 x xs ih =>
    rw [List.cons_append, decodeLossy_cons, h.readChar_append, ih, decodeLossy_cons]
    rfl

/-! ## characters below 0x80 -/

/-- the values of the bytes that follow only add to the value of a form -/
theorem le_of_readTail {more lo hi value : Nat} {bs : Bytes} {c : Char}
    (h : (readTail more lo hi value bs).1 = some c) :
    ∃ v, c = Char.ofNat v ∧ value * 64 ^ more ≤ v := by
  induction more generalizing lo hi value bs with
  | zero =>
    have hc : some (Char.ofNat value) = some c := h
    exact ⟨value, (Option.some.inj hc).symm, Nat.le_of_eq (Nat.mul_one value)⟩
  | succ more ih =>
    cases bs with
    | nil => cases h
    | cons b bs =>
      rw [readTail] at h
      split at h
      · obtain ⟨v, hc, hv⟩ := ih h
        refine ⟨v, hc, Nat.le_trans ?_ hv⟩
        rw [Nat.pow_succ, Nat.mul_comm (64 ^ more), ← Nat.mul_assoc, Nat.mul_comm value]
        exact Nat.mul_le_mul_right _ (Nat.le_add_right _ _)
      · cases h

/-- a form of several bytes is no character below 0x80 -/
theorem le_of_leadShape? {b : UInt8} {more lo hi : Nat} {rest : Bytes} {c : Char}
    (hlead : leadShape? b = some (more, lo, hi))
    (h : (readTail more lo hi (leadBits more b) rest).1 = some c) :
    ∃ v, c = Char.ofNat v ∧ 0x80 ≤ v := by
  obtain ⟨hlo, hhi, k, rfl, hbits⟩ := bounds_of_leadShape? hlead
  cases rest with
  | nil => cases h
  | cons x rest =>
    rw [readTail] at h
    split at h
    · next hx =>
      rw [Bool.and_eq_true, decide_eq_true_eq, decide_eq_true_eq] at hx
      obtain ⟨v, hc, hv⟩ := le_of_readTail h
      refine ⟨v, hc, Nat.le_trans hbits (Nat.le_trans (Nat.mul_le_mul_right _ ?_) hv)⟩
      omega
    · cases h

/-- what is no code point is made the character 0 -/
theorem eq_of_ofNat_eq {n : Nat} {c : Char} (hpos : 0 < c.toNat) (h : Char.ofNat n = c) :
    n = c.toNat := by
  rw [← h, Char.toNat_ofNat] at hpos ⊢
  split at hpos
  · next hn => exact (if_pos hn).symm
  · exact absurd hpos (Nat.lt_irrefl 0)

namespace AsciiByte

variable {b : UInt8} {c : Char} (h : AsciiByte b c)
include h

/-- a character below 0x80 is read of its own byte only -/
theorem eq_of_readChar {x : UInt8} {rest : Bytes}
    (hread : (readChar x rest).1.getD replacement = c) : x = b ∧ (readChar x rest).2 = rest := by
  have hreplacement : replacement ≠ c := by
    rintro rfl
    exact absurd h.lt (by decide)
  unfold readChar at hread ⊢
  split at hread
  · next hx =>
    have hvalue : x.toNat = b.toNat := (eq_of_ofNat_eq h.pos hread).trans h.value.symm
    rw [if_pos hx]
    exact ⟨UInt8.toNat_inj.1 hvalue, rfl⟩
  · split at hread
    · exact absurd hread hreplacement
    · next more lo hi hlead =>
      cases htail : (readTail more lo hi (leadBits more x) rest).1 with
      | none =>
        rw [htail] at hread
        exact absurd hread hreplacement
      | some d =>
        rw [htail] at hread
        obtain ⟨v, hd, hv⟩ := le_of_leadShape? hlead htail
        have := eq_of_ofNat_eq h.pos (hd.symm.trans hread)
        have := h.lt
        omega

/-- Where the decoded text holds a character below 0x80, the bytes hold its byte, between what
decodes to the text in front of it and what decodes to the text behind it. -/
theorem exists_of_decodeLossy_eq {bs : Bytes} {s t : Text} (heq : decodeLossy bs = s ++ c :: t) :
    ∃ xs ys, bs = xs ++ b :: ys ∧ decodeLossy xs = s ∧ decodeLossy ys = t := by
  induction bs using decodeParts.induct generalizing s with
  | case1 =>
    rw [decodeLossy_nil] at heq
    exact absurd heq.symm (List.append_ne_nil_of_right_ne_nil s (List.cons_ne_nil c t))
  | case2 x rest ih =>
    rw [decodeLossy_cons] at heq
    cases s with
    | nil =>
      obtain ⟨hread, ht⟩ := List.cons.inj heq
      obtain ⟨rfl, hrest⟩ := h.eq_of_readChar hread
      exact ⟨[], rest, rfl, decodeLossy_nil, hrest ▸ ht⟩
    | cons d s =>
      obtain ⟨hd, hs⟩ := List.cons.inj heq
      obtain ⟨xs, ys, hrest, rfl, ht⟩ := ih hs
      obtain ⟨m, hm⟩ := suffix_readChar x rest
      rw [hrest, ← List.append_assoc] at hm
      -- the first character is read the same without what stands behind the byte
      have hread := h.readChar_append x (m ++ xs) ys
      rw [hm] at hread
      rw [hread] at hd hrest
      have hxs : (readChar x (m ++ xs)).2 = xs := List.append_cancel_right hrest
      refine ⟨x :: (m ++ xs), ys, by rw [← hm]; rfl, ?_, ht⟩
      rw [decodeLossy_cons, hxs]
      exact congrArg (· :: decodeLossy xs) hd

theorem not_mem_decodeLossy {bs : Bytes} (hb : b ∉ bs) : c ∉ decodeLossy bs := by
  intro hc
  obtain ⟨s, t, hst⟩ := List.append_of_mem hc
  obtain ⟨xs, ys, rfl, -⟩ := h.exists_of_decodeLossy_eq hst
  exact hb (List.mem_append_right xs List.mem_cons_self)

theorem getLast?_decodeLossy_ne {bs : Bytes} (hb : bs.getLast? ≠ some b) :
    (decodeLossy bs).getLast? ≠ some c := by
  intro hc
  obtain ⟨s, hs⟩ := List.getLast?_eq_some_iff.1 hc
  obtain ⟨xs, ys, rfl, -, hys⟩ := h.exists_of_decodeLossy_eq hs
  have hnil : ys = [] := by_contra fun hne => decodeLossy_ne_nil hne hys
  rw [hnil] at hb
  exact hb List.getLast?_concat

end AsciiByte

end Workbench.Text
