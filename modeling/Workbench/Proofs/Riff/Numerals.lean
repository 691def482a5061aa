import Workbench.Proofs.Text.Longest

/-!
# Numerals

Which texts are numbers, and how long the longest of them is at the front of a text.

A numeral is made of digits, a fraction and an exponent.  Hexadecimal and decimal numerals have the
same shape behind their first characters, that of a `Mantissa`, and differ in their digits and in
the letters that mark an exponent.
-/

namespace Workbench.Riff

open Text (AllOf Behind Longest Optional Reads Then behindLength behindLength_cons
  behindLength_eq_zero runLength reads_allOf)

/-! ## the parts of a numeral -/

/-- digits may have underscores among them, but not in front -/
def scored (digit : Char → Bool) (c : Char) : Bool := digit c || c == '_'

def Digits (digit : Char → Bool) (x : Text) : Prop :=
  ∃ c w, x = c :: w ∧ digit c = true ∧ AllOf (scored digit) w

def Fraction (digit : Char → Bool) : Text → Prop := Behind (· == '.') (Digits digit)

def isSign (c : Char) : Bool := c == '+' || c == '-'

/-- decimal digits with or without a sign -/
def Signed (x : Text) : Prop := Behind isSign (Digits Char.isDigit) x ∨ Digits Char.isDigit x

/-- an exponent behind one of the given letters -/
def Exponent (marks : List Char) : Text → Prop := Behind marks.contains Signed

def digitsLength (digit : Char → Bool) : Text → Nat
  | [] => 0
  | c :: t => if digit c then runLength (scored digit) t + 1 else 0

def fractionLength (digit : Char → Bool) : Text → Nat :=
  behindLength (· == '.') (digitsLength digit)

def signedLength (t : Text) : Nat :=
  max (behindLength isSign (digitsLength Char.isDigit) t) (digitsLength Char.isDigit t)

def exponentLength (marks : List Char) : Text → Nat := behindLength marks.contains signedLength

@[simp] theorem not_digits_nil (digit : Char → Bool) : ¬ Digits digit [] := by
  rintro ⟨c, w, h, -⟩
  cases h

@[simp] theorem not_signed_nil : ¬ Signed [] := by
  rintro (⟨c, y, h, -⟩ | h)
  · cases h
  · exact not_digits_nil _ h

theorem scored_of_digit {digit : Char → Bool} {c : Char} (h : digit c = true) :
    scored digit c = true := by
  rw [scored, h, Bool.true_or]

theorem digitsLength_ne_zero {digit : Char → Bool} {c : Char} (hc : digit c = true) (t : Text) :
    digitsLength digit (c :: t) ≠ 0 := by
  rw [digitsLength, if_pos hc]
  exact Nat.succ_ne_zero _

theorem reads_digits (digit : Char → Bool) :
    Reads (Optional (Digits digit)) (scored digit · = true) (digitsLength digit) := by
  have h := reads_allOf (scored digit)
  refine ⟨?_, ?_, ?_, ?_⟩
  · intro t
    cases t with
    | nil => exact Nat.le_refl 0
    | cons c t =>
      have := h.le t
      rw [digitsLength, List.length_cons]
      split <;> omega
  · intro t
    cases t with
    | nil => exact .inl rfl
    | cons c t =>
      rw [digitsLength]
      split
      · next hc => exact .inr ⟨c, _, rfl, hc, h.word_take t⟩
      · exact .inl rfl
  · rintro x u (rfl | ⟨c, w, rfl, hc, hw⟩)
    · exact Nat.zero_le _
    · rw [List.cons_append, digitsLength, if_pos hc, List.length_cons]
      exact Nat.succ_le_succ (h.length_le u hw)
  · rintro x u (rfl | ⟨c, w, rfl, hc, hw⟩) hlt
    · cases u with
      | nil => exact absurd hlt (Nat.lt_irrefl 0)
      | cons c u =>
        rw [List.nil_append, digitsLength] at hlt
        split at hlt
        · next hc => exact ⟨c, rfl, scored_of_digit hc⟩
        · exact absurd hlt (Nat.lt_irrefl 0)
    · rw [List.cons_append, digitsLength, if_pos hc, List.length_cons] at hlt
      exact h.goes_on hw (Nat.lt_of_succ_lt_succ hlt)

theorem reads_fraction (digit : Char → Bool) :
    Reads (Optional (Fraction digit)) (fun c => (c == '.') = true ∨ scored digit c = true)
      (fractionLength digit) :=
  (reads_digits digit).behind (not_digits_nil digit) _

theorem reads_exponent (marks : List Char) :
    Reads (Optional (Exponent marks)) (fun c => marks.contains c = true ∨ True)
      (exponentLength marks) :=
  (((reads_digits _).behind (not_digits_nil _) _).or (reads_digits _)).behind not_signed_nil _

/-! ## mantissas -/

/-- Digits and underscores, then a fraction and an exponent, both of which may be missing.  Without a
fraction there is a digit among the first. -/
def Mantissa (digit : Char → Bool) (marks : List Char) (x : Text) : Prop :=
  ∃ h f e, x = h ++ (f ++ e) ∧ AllOf (scored digit) h ∧ Optional (Fraction digit) f
    ∧ Optional (Exponent marks) e ∧ (f = [] → ∃ c ∈ h, digit c = true)

def mantissaLength (digit : Char → Bool) (marks : List Char) (t : Text) : Nat :=
  let behind := t.drop (runLength (scored digit) t)
  runLength (scored digit) t
    + (fractionLength digit behind
      + exponentLength marks (behind.drop (fractionLength digit behind)))

/-- whether a text begins with a mantissa -/
def HasDigit (digit : Char → Bool) (t : Text) : Prop :=
  fractionLength digit (t.drop (runLength (scored digit) t)) ≠ 0
    ∨ ∃ c ∈ t.takeWhile (scored digit), digit c = true

/-- neither a point nor a mark of an exponent can be taken for a digit, nor one for the other -/
structure Apart (digit : Char → Bool) (marks : List Char) : Prop where
  point : scored digit '.' = false
  mark : ∀ m ∈ marks, scored digit m = false
  point_marks : '.' ∉ marks

section
variable {digit : Char → Bool} {marks : List Char}

theorem point_of_fraction {c : Char} {y : Text} (h : Optional (Fraction digit) (c :: y)) :
    c = '.' := by
  rcases h with h | ⟨d, z, h, hd, -⟩
  · cases h
  · rw [(List.cons.inj h).1]
    exact eq_of_beq hd

theorem mem_of_exponent {c : Char} {y : Text} (h : Optional (Exponent marks) (c :: y)) :
    c ∈ marks := by
  rcases h with h | ⟨d, z, h, hd, -⟩
  · cases h
  · rw [(List.cons.inj h).1]
    exact List.contains_iff_mem.1 hd

variable (h : Apart digit marks)
include h

/-- what follows the first digits does not go on with them -/
theorem Apart.scored_eq_false {c : Char} {y : Text}
    (hy : Then (Optional (Fraction digit)) (Optional (Exponent marks)) (c :: y)) :
    ¬ scored digit c = true := by
  obtain ⟨f, e, hfe, hf, he⟩ := hy
  rw [Bool.not_eq_true]
  cases f with
  | cons d f =>
    rw [List.cons_append] at hfe
    rw [(List.cons.inj hfe).1, point_of_fraction hf]
    exact h.point
  | nil =>
    rw [List.nil_append] at hfe
    exact h.mark c (mem_of_exponent (hfe ▸ he))

theorem Apart.reads_tail :
    Reads (Then (Optional (Fraction digit)) (Optional (Exponent marks)))
      (fun c => ((c == '.') = true ∨ scored digit c = true) ∨ marks.contains c = true ∨ True)
      (fun t => fractionLength digit t
        + exponentLength marks (t.drop (fractionLength digit t))) := by
  refine (reads_fraction digit).append (reads_exponent marks) fun c y hy => ?_
  have hc := mem_of_exponent hy
  rintro (hpoint | hscored)
  · exact h.point_marks (eq_of_beq hpoint ▸ hc)
  · rw [h.mark c hc] at hscored
    cases hscored

theorem Apart.reads_mantissa :
    Reads (Then (AllOf (scored digit))
        (Then (Optional (Fraction digit)) (Optional (Exponent marks))))
      (fun c => scored digit c = true
        ∨ ((c == '.') = true ∨ scored digit c = true) ∨ marks.contains c = true ∨ True)
      (mantissaLength digit marks) :=
  (reads_allOf _).append h.reads_tail fun _ _ => h.scored_eq_false

theorem Apart.length_le_mantissaLength {t x : Text} (hx : Mantissa digit marks x) (hxt : x <+: t) :
    x.length ≤ mantissaLength digit marks t := by
  obtain ⟨i, f, e, rfl, hi, hf, he, -⟩ := hx
  exact h.reads_mantissa.length_le_of_front ⟨i, f ++ e, rfl, hi, f, e, rfl, hf, he⟩ hxt

theorem Apart.hasDigit_of_mantissa {t x : Text} (hx : Mantissa digit marks x) (hxt : x <+: t) :
    HasDigit digit t := by
  obtain ⟨i, f, e, rfl, hi, hf, he, hdigit⟩ := hx
  obtain ⟨u, rfl⟩ := hxt
  cases f with
  | nil =>
    obtain ⟨c, hc, hcd⟩ := hdigit rfl
    refine .inr ⟨c, ?_, hcd⟩
    rw [List.append_assoc, List.takeWhile_append_of_pos hi]
    exact List.mem_append_left _ hc
  | cons d f =>
    -- the digits end at the point, so the fraction is read from there
    have hstop := (reads_allOf (scored digit)).eq_or_eq_nil (fun _ _ => h.scored_eq_false) hi
      (show Then (Optional (Fraction digit)) (Optional (Exponent marks)) (d :: f ++ e) from
        ⟨d :: f, e, rfl, hf, he⟩) u
    rcases hstop with heq | ⟨hnil, -⟩
    · have hle := (reads_fraction digit).length_le (e ++ u) hf
      rw [HasDigit, List.append_assoc, heq, List.drop_left, List.append_assoc]
      rw [List.length_cons] at hle
      exact .inl (by omega)
    · cases hnil

/-- a text that begins with a mantissa begins with the one that is read -/
theorem Apart.longest_mantissa {t : Text} (hdigit : HasDigit digit t) :
    Longest (Mantissa digit marks) t (t.take (mantissaLength digit marks t)) := by
  refine ⟨⟨_, _, _, List.take_add.trans (congrArg _ List.take_add), (reads_allOf _).word_take t,
    (reads_fraction digit).word_take _, (reads_exponent marks).word_take _, ?_⟩,
    List.take_prefix _ _, ?_⟩
  · intro hf
    rcases hdigit with hfraction | ⟨c, hc, hcd⟩
    · exact absurd hf ((reads_fraction digit).take_ne_nil hfraction)
    · refine ⟨c, ?_, hcd⟩
      rw [runLength, ← List.prefix_iff_eq_take.1 (List.takeWhile_prefix _)]
      exact hc
  · intro y hy hyt
    rw [List.length_take, Nat.min_eq_left (h.reads_mantissa.le t)]
    exact h.length_le_mantissaLength hy hyt

end

/-! ## what is left of the first digits of a mantissa -/

/-- a fraction, or digits -/
def tailLength (digit : Char → Bool) (t : Text) : Nat :=
  max (fractionLength digit t) (digitsLength digit t)

section
variable {digit : Char → Bool} {t : Text} {i : Nat}

/-- within the first digits no fraction begins; where a digit stands, digits go on to their end -/
theorem tailLength_drop (hpoint : scored digit '.' = false) (hi : i < runLength (scored digit) t) :
    ∃ c ∈ t.takeWhile (scored digit),
      if digit c = true then i + tailLength digit (t.drop i) = runLength (scored digit) t
      else tailLength digit (t.drop i) = 0 := by
  obtain ⟨c, hc, v, hv, hlen⟩ := Text.exists_drop_of_lt_runLength hi
  have hfraction : fractionLength digit (c :: v) = 0 := by
    refine behindLength_eq_zero fun h => ?_
    have hscored := List.mem_takeWhile_imp hc
    rw [eq_of_beq h, hpoint] at hscored
    cases hscored
  refine ⟨c, hc, ?_⟩
  rw [hv, tailLength, hfraction, Nat.zero_max, digitsLength]
  split
  · exact hlen
  · rfl

theorem add_tailLength_drop (hpoint : scored digit '.' = false) (hi : i < runLength (scored digit) t)
    (hne : tailLength digit (t.drop i) ≠ 0) :
    i + tailLength digit (t.drop i) = runLength (scored digit) t := by
  obtain ⟨c, -, hc⟩ := tailLength_drop hpoint hi
  split at hc
  · exact hc
  · exact absurd hc hne

/-- behind them there are no digits -/
theorem tailLength_drop_runLength :
    tailLength digit (t.drop (runLength (scored digit) t))
      = fractionLength digit (t.drop (runLength (scored digit) t)) := by
  have hdigits : digitsLength digit (t.drop (runLength (scored digit) t)) = 0 := by
    cases h : t.drop (runLength (scored digit) t) with
    | nil => rfl
    | cons c v =>
      have hc := Text.head?_drop_runLength (c := c) (congrArg List.head? h)
      rw [digitsLength, if_neg fun hd => hc (scored_of_digit hd)]
  rw [tailLength, hdigits, Nat.max_zero]

/-- a digit among them is a place from which digits can be read -/
theorem exists_tailLength_ne_zero (h : ∃ c ∈ t.takeWhile (scored digit), digit c = true) :
    ∃ i < runLength (scored digit) t, tailLength digit (t.drop i) ≠ 0 := by
  obtain ⟨c, hc, hd⟩ := h
  obtain ⟨a, b, hab⟩ := List.append_of_mem hc
  have hdrop : t.drop a.length = c :: (b ++ t.dropWhile (scored digit)) := by
    conv => lhs; rw [← List.takeWhile_append_dropWhile (p := scored digit) (l := t), hab]
    rw [List.append_assoc, List.drop_left, List.cons_append]
  have hne := digitsLength_ne_zero hd (b ++ t.dropWhile (scored digit))
  refine ⟨a.length, ?_, ?_⟩
  · rw [runLength, hab, List.length_append, List.length_cons]
    omega
  · rw [hdrop, tailLength]
    omega

end

/-! ## numerals -/

def isBit (c : Char) : Bool := c == '0' || c == '1' || c == '_'

def isHexDigit (c : Char) : Bool :=
  c.isDigit || ('a' ≤ c && c ≤ 'f') || ('A' ≤ c && c ≤ 'F')

def hexMarks : List Char := ['p', 'P']
def decimalMarks : List Char := ['e', 'E']

/-- the texts that are numbers -/
inductive Numeral : Text → Prop
  | binary {b : Char} {w : Text} (hb : b = 'b' ∨ b = 'B') (hw : AllOf isBit w) :
      Numeral ('0' :: b :: w)
  | hexadecimal {x : Char} {m : Text} (hx : x = 'x' ∨ x = 'X')
      (hm : Mantissa isHexDigit hexMarks m) : Numeral ('0' :: x :: m)
  | decimal {i f e : Text} (hi : Digits Char.isDigit i) (hf : Optional (Fraction Char.isDigit) f)
      (he : Optional (Exponent decimalMarks) e) : Numeral (i ++ (f ++ e))
  | fraction {f e : Text} (hf : Fraction Char.isDigit f) (he : Optional (Exponent decimalMarks) e) :
      Numeral (f ++ e)

@[simp] theorem not_numeral_nil : ¬ Numeral [] := by
  have h : ∀ x, Numeral x → x ≠ [] := by
    rintro x (⟨-, -⟩ | ⟨-, -⟩ | ⟨⟨c, w, rfl, -, -⟩, -, -⟩ | ⟨⟨c, w, rfl, -, -⟩, -⟩) <;>
      exact List.cons_ne_nil _ _
  exact fun hnil => h [] hnil rfl

theorem apart_hex : Apart isHexDigit hexMarks := by
  refine ⟨by decide, ?_, by decide⟩
  rw [hexMarks, List.forall_mem_cons, List.forall_mem_singleton]
  decide

theorem apart_decimal : Apart Char.isDigit decimalMarks := by
  refine ⟨by decide, ?_, by decide⟩
  rw [decimalMarks, List.forall_mem_cons, List.forall_mem_singleton]
  decide

/-- a decimal numeral is a mantissa that begins with a digit -/
theorem mantissa_of_digits {i f e : Text} (hi : Digits Char.isDigit i)
    (hf : Optional (Fraction Char.isDigit) f) (he : Optional (Exponent decimalMarks) e) :
    Mantissa Char.isDigit decimalMarks (i ++ (f ++ e)) := by
  obtain ⟨c, w, rfl, hc, hw⟩ := hi
  exact ⟨c :: w, f, e, rfl, List.forall_mem_cons.2 ⟨scored_of_digit hc, hw⟩, hf, he,
    fun _ => ⟨c, List.mem_cons_self, hc⟩⟩

theorem numeral_of_mantissa {c : Char} {x u : Text} (hc : c.isDigit = true)
    (hx : Mantissa Char.isDigit decimalMarks x) (hxu : x <+: c :: u) : Numeral x := by
  obtain ⟨i, f, e, rfl, hi, hf, he, hdigit⟩ := hx
  cases i with
  | cons d i =>
    have hd : d = c := (List.cons_prefix_cons.1 hxu).1
    exact .decimal ⟨d, i, rfl, hd ▸ hc, fun x hx => hi x (List.mem_cons_of_mem _ hx)⟩ hf he
  | nil =>
    -- a point would come first
    cases f with
    | nil =>
      obtain ⟨d, hd, -⟩ := hdigit rfl
      cases hd
    | cons d f =>
      have hd : d = c := (List.cons_prefix_cons.1 hxu).1
      rw [← hd, point_of_fraction hf] at hc
      cases hc

/-! ## the longest numeral -/

/-- the ways in which a text begins with a numeral, and how many characters the longest one has -/
inductive NumeralFront : Text → Nat → Prop
  | binary {b : Char} (hb : b = 'b' ∨ b = 'B') (u : Text) :
      NumeralFront ('0' :: b :: u) (runLength isBit u + 2)
  | hexadecimal {x : Char} {u : Text} (hx : x = 'x' ∨ x = 'X') (hu : HasDigit isHexDigit u) :
      NumeralFront ('0' :: x :: u) (mantissaLength isHexDigit hexMarks u + 2)
  | decimal {c : Char} {u : Text} (hc : c.isDigit = true)
      (hbinary : ∀ b v, c :: u = '0' :: b :: v → ¬ (b = 'b' ∨ b = 'B'))
      (hhex : ∀ x v, c :: u = '0' :: x :: v → x = 'x' ∨ x = 'X' → ¬ HasDigit isHexDigit v) :
      NumeralFront (c :: u) (mantissaLength Char.isDigit decimalMarks (c :: u))
  | fraction {u : Text} (hu : digitsLength Char.isDigit u ≠ 0) :
      NumeralFront ('.' :: u) (fractionLength Char.isDigit ('.' :: u)
        + exponentLength decimalMarks (('.' :: u).drop (fractionLength Char.isDigit ('.' :: u))))

/-- whether a text begins with a digit, or with a point and a digit -/
def beginsNumeral : Text → Bool
  | [] => false
  | c :: t => c.isDigit || c == '.' && t.head?.any Char.isDigit

theorem exists_numeralFront {t : Text} (h : beginsNumeral t = true) : ∃ n, NumeralFront t n := by
  cases t with
  | nil => cases h
  | cons c u =>
    rw [beginsNumeral, Bool.or_eq_true, Bool.and_eq_true, beq_iff_eq] at h
    rcases h with hc | ⟨rfl, hu⟩
    · by_cases hbinary : ∃ b v, c :: u = '0' :: b :: v ∧ (b = 'b' ∨ b = 'B')
      · obtain ⟨b, v, ht, hb⟩ := hbinary
        rw [ht]
        exact ⟨_, .binary hb v⟩
      · by_cases hhex : ∃ x v, c :: u = '0' :: x :: v ∧ (x = 'x' ∨ x = 'X') ∧ HasDigit isHexDigit v
        · obtain ⟨x, v, ht, hx, hv⟩ := hhex
          rw [ht]
          exact ⟨_, .hexadecimal hx hv⟩
        · exact ⟨_, .decimal hc (fun b v ht hb => hbinary ⟨b, v, ht, hb⟩)
            fun x v ht hx hv => hhex ⟨x, v, ht, hx, hv⟩⟩
    · cases u with
      | nil => cases hu
      | cons d u => exact ⟨_, .fraction (digitsLength_ne_zero hu u)⟩

/-- behind a zero, a letter that marks no exponent ends a decimal numeral -/
theorem mantissaLength_letter {l : Char} (hdigit : scored Char.isDigit l = false) (hpoint : l ≠ '.')
    (hmark : l ∉ decimalMarks) (u : Text) :
    mantissaLength Char.isDigit decimalMarks ('0' :: l :: u) = 1 := by
  have hrun : runLength (scored Char.isDigit) ('0' :: l :: u) = 1 := by
    rw [runLength, List.takeWhile_cons_of_pos (by decide),
      List.takeWhile_cons_of_neg (by simp [hdigit])]
    rfl
  have hfraction : fractionLength Char.isDigit (l :: u) = 0 :=
    behindLength_eq_zero fun h => absurd (eq_of_beq h) hpoint
  have hexponent : exponentLength decimalMarks (l :: u) = 0 :=
    behindLength_eq_zero fun h => absurd (List.contains_iff_mem.1 h) hmark
  rw [mantissaLength, hrun, List.drop_succ_cons, List.drop_zero, hfraction, List.drop_zero,
    hexponent]

/-- the marks of binary and hexadecimal numerals are not the same -/
theorem binary_ne_hex {l : Char} (hb : l = 'b' ∨ l = 'B') (hx : l = 'x' ∨ l = 'X') : False := by
  rcases hb with rfl | rfl <;> revert hx <;> decide

theorem mantissaLength_binary {b : Char} (hb : b = 'b' ∨ b = 'B') (u : Text) :
    mantissaLength Char.isDigit decimalMarks ('0' :: b :: u) = 1 := by
  rcases hb with rfl | rfl <;> exact mantissaLength_letter (by decide) (by decide) (by decide) u

theorem mantissaLength_hex {x : Char} (hx : x = 'x' ∨ x = 'X') (u : Text) :
    mantissaLength Char.isDigit decimalMarks ('0' :: x :: u) = 1 := by
  rcases hx with rfl | rfl <;> exact mantissaLength_letter (by decide) (by decide) (by decide) u

/-- a numeral at the front of a text is no longer than the longest one there -/
theorem Numeral.length_le {t y : Text} {n : Nat} (hy : Numeral y) (h : NumeralFront t n)
    (hyt : y <+: t) : y.length ≤ n := by
  -- a numeral of another form than the front is a single zero, or contradicts how the text begins
  cases hy with
  | binary hb hw =>
    obtain ⟨v, rfl⟩ := hyt
    cases h with
    | binary _ _ => exact Nat.add_le_add_right ((reads_allOf isBit).length_le v hw) 2
    | hexadecimal hx _ => exact (binary_ne_hex hb hx).elim
    | decimal _ hbinary _ => exact absurd hb (hbinary _ _ rfl)
  | @hexadecimal _ m hx hm =>
    obtain ⟨v, rfl⟩ := hyt
    have hmv := List.prefix_append m v
    cases h with
    | binary hb _ => exact (binary_ne_hex hb hx).elim
    | hexadecimal _ _ => exact Nat.add_le_add_right (apart_hex.length_le_mantissaLength hm hmv) 2
    | decimal _ _ hhex => exact absurd (apart_hex.hasDigit_of_mantissa hm hmv) (hhex _ _ rfl hx)
  | decimal hi hf he =>
    have hle := apart_decimal.length_le_mantissaLength (mantissa_of_digits hi hf he) hyt
    cases h with
    | binary hb u =>
      rw [mantissaLength_binary hb] at hle
      omega
    | hexadecimal hx _ =>
      rw [mantissaLength_hex hx] at hle
      omega
    | decimal _ _ _ => exact hle
    | fraction _ =>
      obtain ⟨c, w, rfl, hc, -⟩ := hi
      rw [(List.cons_prefix_cons.1 hyt).1] at hc
      cases hc
  | fraction hf he =>
    have hle := apart_decimal.reads_tail.length_le_of_front ⟨_, _, rfl, .inr hf, he⟩ hyt
    obtain ⟨c, w, rfl, hc, -⟩ := hf
    have hc : c = '.' := eq_of_beq hc
    rw [hc] at hyt
    cases h with
    | binary _ _ | hexadecimal _ _ => cases (List.cons_prefix_cons.1 hyt).1
    | decimal hdigit _ _ =>
      rw [← (List.cons_prefix_cons.1 hyt).1] at hdigit
      cases hdigit
    | fraction _ => exact hle

theorem NumeralFront.longest {t : Text} {n : Nat} (h : NumeralFront t n) :
    Longest Numeral t (t.take n) := by
  have hword : n ≤ t.length ∧ Numeral (t.take n) := by
    cases h with
    | binary hb u =>
      have hreads := reads_allOf isBit
      exact ⟨Nat.add_le_add_right (hreads.le u) 2, .binary hb (hreads.word_take u)⟩
    | @hexadecimal x u hx hu =>
      have hlongest := apart_hex.longest_mantissa hu
      exact ⟨Nat.add_le_add_right (apart_hex.reads_mantissa.le u) 2, .hexadecimal hx hlongest.isWord⟩
    | @decimal c u hc _ _ =>
      have hdigit : HasDigit Char.isDigit (c :: u) := by
        refine .inr ⟨c, ?_, hc⟩
        rw [List.takeWhile_cons_of_pos (scored_of_digit hc)]
        exact List.mem_cons_self
      have hlongest := apart_decimal.longest_mantissa hdigit
      exact ⟨apart_decimal.reads_mantissa.le _,
        numeral_of_mantissa hc hlongest.isWord hlongest.front⟩
    | @fraction u hu =>
      have hne : fractionLength Char.isDigit ('.' :: u) ≠ 0 := by
        rw [fractionLength, behindLength_cons rfl hu]
        exact Nat.succ_ne_zero _
      have hfraction := ((reads_fraction Char.isDigit).word_take ('.' :: u)).resolve_left
        ((reads_fraction Char.isDigit).take_ne_nil hne)
      refine ⟨apart_decimal.reads_tail.le _, ?_⟩
      rw [List.take_add]
      exact .fraction hfraction ((reads_exponent decimalMarks).word_take _)
  refine ⟨hword.2, List.take_prefix _ _, fun y hy hyt => ?_⟩
  rw [List.length_take, Nat.min_eq_left hword.1]
  exact hy.length_le h hyt

end Workbench.Riff
