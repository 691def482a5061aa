import Workbench.Proofs.Riff.Lexemes
import Workbench.Proofs.Riff.Numerals

/-!
# The sets of the patterns

The sets that the patterns of numbers and words are made of, as tests of a character.
-/

namespace Workbench.Riff

open Workbench.Pattern (CharSet)

theorem contains_ofTable (table : List (Nat × Nat)) (h : ∀ r ∈ table, r.1 ≤ r.2) (c : Char) :
    (CharSet.ofTable table).contains c = true ↔ ∃ r ∈ table, r.1 ≤ c.toNat ∧ c.toNat ≤ r.2 :=
  holds_ofTable table h c.toNat

/-! ## tests by code point -/

theorem le_iff_toNat_le (c d : Char) : c ≤ d ↔ c.toNat ≤ d.toNat := by
  rw [Char.le_def, UInt32.le_iff_toNat_le]
  rfl

theorem isDigit_iff (c : Char) : c.isDigit = true ↔ 0x30 ≤ c.toNat ∧ c.toNat ≤ 0x39 := by
  simp [Char.isDigit, UInt32.le_iff_toNat_le]

theorem isHexDigit_iff (c : Char) : isHexDigit c = true ↔ 0x30 ≤ c.toNat ∧ c.toNat ≤ 0x39
    ∨ 0x41 ≤ c.toNat ∧ c.toNat ≤ 0x46 ∨ 0x61 ≤ c.toNat ∧ c.toNat ≤ 0x66 := by
  simp only [isHexDigit, Bool.or_eq_true, Bool.and_eq_true, decide_eq_true_eq, isDigit_iff,
    le_iff_toNat_le]
  show (_ ∨ 0x61 ≤ _ ∧ _ ≤ 0x66) ∨ 0x41 ≤ _ ∧ _ ≤ 0x46 ↔ _
  omega

theorem isAsciiLetter_iff (c : Char) : Text.isAsciiLetter c = true
    ↔ 0x41 ≤ c.toNat ∧ c.toNat ≤ 0x5A ∨ 0x61 ≤ c.toNat ∧ c.toNat ≤ 0x7A := by
  simp only [Text.isAsciiLetter, Bool.or_eq_true, Bool.and_eq_true, decide_eq_true_eq,
    le_iff_toNat_le]
  exact or_comm

theorem eq_score_iff (c : Char) : c = '_' ↔ c.toNat = 0x5F := Char.toNat_inj.symm

theorem scored_iff (digit : Char → Bool) (c : Char) :
    scored digit c = true ↔ digit c = true ∨ c.toNat = 0x5F := by
  rw [scored, Bool.or_eq_true, beq_iff_eq, eq_score_iff]

/-! ## names -/

/-- whether a name can begin with a character -/
def isNameStart (c : Char) : Bool := Text.isAsciiLetter c || c == '_'

/-- whether a name can go on with a character -/
def isNameChar (c : Char) : Bool := Text.isAsciiLetter c || c.isDigit || c == '_'

theorem isNameChar_of_isNameStart {c : Char} (h : isNameStart c = true) : isNameChar c = true := by
  rw [isNameStart, Bool.or_eq_true] at h
  rw [isNameChar, Bool.or_eq_true, Bool.or_eq_true]
  exact h.imp_left .inl

theorem isNameChar_of_isDigit {c : Char} (h : c.isDigit = true) : isNameChar c = true := by
  rw [isNameChar, h, Bool.or_true, Bool.true_or]

/-- the characters of names are the ASCII characters of words -/
theorem isWord_eq_isNameChar {c : Char} (hc : c.toNat < 0x80) : Text.isWord c = isNameChar c := by
  rw [Text.isWord, if_pos hc]
  rfl

theorem isWord_of_isNameChar {c : Char} (h : isNameChar c = true) : Text.isWord c = true := by
  have hascii : c.toNat < 0x80 := by
    have hc := h
    simp only [isNameChar, Bool.or_eq_true, isAsciiLetter_iff, isDigit_iff, beq_iff_eq,
      eq_score_iff] at hc
    omega
  rw [isWord_eq_isNameChar hascii, h]

/-! ## sets -/

theorem contains_digit : Form.digit.contains = Char.isDigit := by
  funext c
  rw [Bool.eq_iff_iff, Form.digit, contains_ofTable _ (by decide), isDigit_iff]
  simp

theorem contains_digitOrScore : Form.digitOrScore.contains = scored Char.isDigit := by
  funext c
  rw [Bool.eq_iff_iff, Form.digitOrScore, contains_ofTable _ (by decide), scored_iff, isDigit_iff]
  simp only [List.exists_mem_cons_iff, List.not_mem_nil, false_and, exists_false, or_false]
  omega

theorem contains_hexDigit : Form.hexDigit.contains = isHexDigit := by
  funext c
  rw [Bool.eq_iff_iff, Form.hexDigit, contains_ofTable _ (by decide), isHexDigit_iff]
  simp only [List.exists_mem_cons_iff, List.not_mem_nil, false_and, exists_false, or_false]

theorem contains_hexDigitOrScore : Form.hexDigitOrScore.contains = scored isHexDigit := by
  funext c
  rw [Bool.eq_iff_iff, Form.hexDigitOrScore, contains_ofTable _ (by decide), scored_iff,
    isHexDigit_iff]
  simp only [List.exists_mem_cons_iff, List.not_mem_nil, false_and, exists_false, or_false]
  omega

theorem contains_letter : Form.letter.contains = Text.isAsciiLetter := by
  funext c
  rw [Bool.eq_iff_iff, Form.letter, contains_ofTable _ (by decide), isAsciiLetter_iff]
  simp only [List.exists_mem_cons_iff, List.not_mem_nil, false_and, exists_false, or_false]

theorem contains_letterOrScore : Form.letterOrScore.contains = isNameStart := by
  funext c
  rw [Bool.eq_iff_iff, Form.letterOrScore, contains_ofTable _ (by decide), isNameStart,
    Bool.or_eq_true, beq_iff_eq, eq_score_iff, isAsciiLetter_iff]
  simp only [List.exists_mem_cons_iff, List.not_mem_nil, false_and, exists_false, or_false]
  omega

theorem contains_wordChar : Form.wordChar.contains = isNameChar := by
  funext c
  rw [Bool.eq_iff_iff, Form.wordChar, contains_ofTable _ (by decide), isNameChar, Bool.or_eq_true,
    Bool.or_eq_true, beq_iff_eq, eq_score_iff, isAsciiLetter_iff, isDigit_iff]
  simp only [List.exists_mem_cons_iff, List.not_mem_nil, false_and, exists_false, or_false]
  omega

theorem contains_notNewline (c : Char) : Form.notNewline.contains c = true ↔ c ≠ '\n' := by
  have hvalid : c.toNat < 0xD800 ∨ 0xDFFF < c.toNat ∧ c.toNat < 0x110000 := c.valid
  have hnewline : c = '\n' ↔ c.toNat = 10 := Char.toNat_inj.symm
  rw [Form.notNewline, contains_ofTable _ (by decide), ne_eq, hnewline]
  simp only [List.exists_mem_cons_iff, List.not_mem_nil, false_and, exists_false, or_false]
  omega

theorem contains_noneOf (t : Text) (c : Char) : (Form.noneOf t).contains c = true ↔ c ∉ t := by
  have hvalid : c.toNat < 0xD800 ∨ 0xDFFF < c.toNat ∧ c.toNat < 0x110000 := c.valid
  rw [Form.noneOf, CharSet.contains, CharSet.holds_compl _ _ (by omega), ← CharSet.contains,
    Bool.not_eq_true', ← Bool.not_eq_true, contains_oneOf]

theorem contains_oneOf_eq (t : Text) : (Form.oneOf t).contains = t.contains := by
  funext c
  rw [Bool.eq_iff_iff, contains_oneOf, List.contains_iff_mem]

end Workbench.Riff
