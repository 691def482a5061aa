import Mathlib.Data.List.Basic
import Workbench.Text.Quoted

/-!
# Quoted text is read back

A character of quoted text says by itself where it ends: a backslash is followed by one letter, or
by `u` and a code point between braces, and every other character stands alone.  So it is read back
whatever follows (`readQuoted?_append`), reading stops at the quote that ends the text, and nothing
of a text is lost by quoting it (`unquote_quote`).  Quoted text has no newline in it
(`newline_not_mem_quote`).
-/

namespace Workbench.Text

/-! ## hexadecimal digits -/

/-- the value of a hexadecimal digit, 0 for every other character -/
def hexDigitValue (c : Char) : Nat := (hexValue? c).getD 0

/-- the number that is written in hexadecimal digits -/
def ofHexDigits (t : Text) : Nat := t.foldl (fun n c => 16 * n + hexDigitValue c) 0

theorem hexDigitValue_hexDigit : ∀ n < 16, hexDigitValue (hexDigit n) = n := by decide

theorem ofHexDigits_concat (t : Text) (c : Char) :
    ofHexDigits (t ++ [c]) = 16 * ofHexDigits t + hexDigitValue c := List.foldl_concat ..

theorem ofHexDigits_singleton (c : Char) : ofHexDigits [c] = hexDigitValue c :=
  Nat.zero_add _

theorem ofHexDigits_hexDigits {fuel n : Nat} (h : n < Nat.pow 16 fuel) :
    ofHexDigits (hexDigits fuel n) = n := by
  induction fuel generalizing n with
  | zero => rw [Nat.lt_one_iff.1 h]; rfl
  | succ fuel ih =>
    rw [hexDigits]
    split
    · next hn => rw [ofHexDigits_singleton, hexDigitValue_hexDigit n hn]
    · have hdiv : n / 16 < Nat.pow 16 fuel :=
        Nat.div_lt_of_lt_mul (by rw [Nat.mul_comm]; exact h)
      rw [ofHexDigits_concat, ih hdiv, hexDigitValue_hexDigit _ (Nat.mod_lt n (by decide))]
      exact Nat.div_add_mod n 16

theorem forall_mem_hexDigits {p : Char → Prop} (h : ∀ n < 16, p (hexDigit n)) (fuel n : Nat) :
    ∀ c ∈ hexDigits fuel n, p c := by
  induction fuel generalizing n with
  | zero => exact fun c hc => absurd hc List.not_mem_nil
  | succ fuel ih =>
    rw [hexDigits]
    split
    · next hn => exact List.forall_mem_singleton.2 (h n hn)
    · exact List.forall_mem_append.2
        ⟨ih (n / 16), List.forall_mem_singleton.2 (h _ (Nat.mod_lt n (by decide)))⟩

/-- six digits are enough for every code point -/
theorem toNat_lt_pow (c : Char) : c.toNat < Nat.pow 16 6 := by
  have hc : c.toNat < 0xD800 ∨ 0xDFFF < c.toNat ∧ c.toNat < 0x110000 := c.valid
  show c.toNat < 0x1000000
  omega

/-! ## reading back -/

/-- the character that stands behind a backslash in quoted text, and the rest -/
def readEscape? : Text → Option (Char × Text)
  | '"' :: t => some ('"', t)
  | '\\' :: t => some ('\\', t)
  | 'n' :: t => some ('\n', t)
  | 'r' :: t => some ('\r', t)
  | 't' :: t => some ('\t', t)
  | '0' :: t => some ('\x00', t)
  | 'u' :: '\x7b' :: t =>
    some (Char.ofNat (ofHexDigits (t.takeWhile (· ≠ '\x7d'))), (t.dropWhile (· ≠ '\x7d')).tail)
  | _ => none

/-- the first character of quoted text, without its opening quote, and the rest; there is none at
the quote that ends it -/
def readQuoted? : Text → Option (Char × Text)
  | [] => none
  | c :: t => if c = '"' then none else if c = '\\' then readEscape? t else some (c, t)

theorem readEscape?_hexDigits (c : Char) (rest : Text) :
    readEscape? ('u' :: '\x7b' :: (hexDigits 6 c.toNat ++ '\x7d' :: rest)) = some (c, rest) := by
  have hdigits : ∀ d ∈ hexDigits 6 c.toNat, decide (d ≠ '\x7d') = true :=
    forall_mem_hexDigits (by decide) 6 c.toNat
  rw [readEscape?, List.takeWhile_append_of_pos hdigits, List.dropWhile_append_of_pos hdigits,
    List.takeWhile_cons_of_neg (by decide), List.dropWhile_cons_of_neg (by decide),
    List.append_nil, ofHexDigits_hexDigits (toNat_lt_pow c), Char.ofNat_toNat]
  rfl

/-- a character is quoted by a letter behind a backslash, as itself or by its code point -/
theorem quoteChar_cases (c : Char) :
    (∃ e, quoteChar c = ['\\', e] ∧ e ≠ '\n' ∧ ∀ rest, readEscape? (e :: rest) = some (c, rest))
      ∨ (quoteChar c = [c] ∧ c ≠ '"' ∧ c ≠ '\\' ∧ c ≠ '\n')
      ∨ quoteChar c = '\\' :: 'u' :: '\x7b' :: (hexDigits 6 c.toNat ++ ['\x7d']) := by
  unfold quoteChar
  split
  case h_7 hquote hbackslash hnewline _ _ _ =>
    split
    · exact .inr (.inl ⟨rfl, hquote, hbackslash, hnewline⟩)
    · exact .inr (.inr (by rw [List.append_assoc]; rfl))
  all_goals exact .inl ⟨_, rfl, by decide, fun _ => rfl⟩

/-- a quoted character is read back, whatever follows it -/
theorem readQuoted?_append (c : Char) (rest : Text) :
    readQuoted? (quoteChar c ++ rest) = some (c, rest) := by
  rcases quoteChar_cases c with ⟨e, hquoted, -, hread⟩ | ⟨hquoted, hquote, hbackslash, -⟩ | hquoted
  · rw [hquoted]
    exact hread rest
  · rw [hquoted]
    exact (if_neg hquote).trans (if_neg hbackslash)
  · rw [hquoted, List.cons_append, List.cons_append, List.cons_append, List.append_assoc]
    exact readEscape?_hexDigits c rest

theorem length_readEscape? {t rest : Text} {c : Char} (h : readEscape? t = some (c, rest)) :
    rest.length < t.length := by
  unfold readEscape? at h
  split at h
  case h_7 t =>
    have hdrop := (List.dropWhile_suffix (l := t) (· ≠ '\x7d')).length_le
    rw [← (Prod.mk.inj (Option.some.inj h)).2, List.length_tail, List.length_cons,
      List.length_cons]
    omega
  case h_8 => cases h
  all_goals
    rw [← (Prod.mk.inj (Option.some.inj h)).2]
    exact Nat.lt_succ_self _

theorem length_readQuoted? {t rest : Text} {c : Char} (h : readQuoted? t = some (c, rest)) :
    rest.length < t.length := by
  cases t with
  | nil => cases h
  | cons d t =>
    rw [readQuoted?] at h
    split at h
    · cases h
    · split at h
      · exact Nat.lt_succ_of_lt (length_readEscape? h)
      · rw [← (Prod.mk.inj (Option.some.inj h)).2]
        exact Nat.lt_succ_self _

/-- the text that is quoted, read from behind the opening quote -/
def unquote (t : Text) : Text :=
  match _ : readQuoted? t with
  | none => []
  | some (c, rest) => c :: unquote rest
termination_by t.length
decreasing_by exact length_readQuoted? ‹_›

theorem unquote_of_none {t : Text} (h : readQuoted? t = none) : unquote t = [] := by
  rw [unquote]
  split
  · rfl
  · next hsome => rw [h] at hsome; cases hsome

theorem unquote_of_some {t rest : Text} {c : Char} (h : readQuoted? t = some (c, rest)) :
    unquote t = c :: unquote rest := by
  rw [unquote]
  split
  · next hnone => rw [h] at hnone; cases hnone
  · next hsome =>
    rw [h] at hsome
    cases hsome
    rfl

theorem unquote_append (t rest : Text) : unquote (t.flatMap quoteChar ++ '"' :: rest) = t := by
  induction t with
  | nil => exact unquote_of_none rfl
  | cons c t ih =>
    rw [List.flatMap_cons, List.append_assoc, unquote_of_some (readQuoted?_append c _), ih]

/-- a text is read back from its quoted form, whatever follows that -/
theorem unquote_quote (t rest : Text) : unquote (quote t ++ rest).tail = t := by
  have htail : (quote t ++ rest).tail = t.flatMap quoteChar ++ '"' :: rest := by
    rw [quote, List.cons_append, List.cons_append, List.tail_cons, List.append_assoc]
    rfl
  rw [htail, unquote_append]

example : unquote "a\\\"\\n\\u\x7b200d\x7dé\" \"b".toList = "a\"\n\u200dé".toList := by
  cbv

/-! ## one line -/

theorem newline_not_mem_quoteChar (c : Char) : '\n' ∉ quoteChar c := by
  rcases quoteChar_cases c with ⟨e, hquoted, he, -⟩ | ⟨hquoted, -, -, hc⟩ | hquoted
  · rw [hquoted]
    simp [he.symm]
  · rw [hquoted]
    simp [hc.symm]
  · have hdigits : ∀ d ∈ hexDigits 6 c.toNat, d ≠ '\n' :=
      forall_mem_hexDigits (by decide) 6 c.toNat
    have hnewline : '\n' ∉ hexDigits 6 c.toNat := fun hmem => hdigits _ hmem rfl
    rw [hquoted]
    simp [hnewline]

theorem newline_not_mem_quote (t : Text) : '\n' ∉ quote t := by
  intro hmem
  rcases List.mem_append.1 hmem with hmem | hmem
  · rcases List.mem_cons.1 hmem with hquote | hmem
    · exact absurd hquote (by decide)
    · obtain ⟨c, -, hc⟩ := List.mem_flatMap.1 hmem
      exact newline_not_mem_quoteChar c hc
  · exact absurd (List.mem_singleton.1 hmem) (by decide)

end Workbench.Text
