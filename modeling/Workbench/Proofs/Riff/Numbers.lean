import Workbench.Proofs.Pattern.Preferred
import Workbench.Proofs.Riff.Alphabet

/-!
# Numbers of Riff

The patterns of numbers are tried in order, and two of them come to their match by giving characters
back.  Still the first that matches takes the longest numeral: the equations of this module say how
far each part of a pattern goes, in the lengths by which numerals are read.

The run of digits and underscores with which a mantissa begins is the only part that gives
characters back, when no fraction follows.  It then has to leave one digit to the rest, and whichever
digit it leaves, the rest goes on to the end of the run: so the order in which the ways are tried
does not matter (`run_mantissa_of_hasDigit`).
-/

namespace Workbench.Riff

open Text (Longest behindLength behindLength_cons behindLength_eq_zero runLength)
open Workbench.Pattern (CharSet Cursor Regex)
open Workbench.Pattern.Regex (atEnd)

/-! ## how far a part goes -/

/-- a part of an expression goes on to `next` behind the characters that `len` counts, and fails if
there are none -/
def Takes (part next : Cursor → Option Nat) (len : Text → Nat) : Prop :=
  ∀ p, part p = if len p.rest = 0 then none else next (p.skip (len p.rest))

section
variable {part part' next : Cursor → Option Nat} {len len' : Text → Nat}

theorem Takes.behind (h : Takes part next len) (s : CharSet) :
    Takes ((Regex.set s).run part) next (behindLength s.contains len) := by
  intro p
  cases hp : p.rest with
  | nil => exact Regex.run_set_of_nil s hp
  | cons c u =>
    have hrest := Cursor.rest_skip_one hp
    rw [Regex.run_set_of_cons s hp]
    by_cases hc : s.contains c = true
    · rw [if_pos hc, h, hrest]
      by_cases hu : len u = 0
      · rw [if_pos hu, behindLength_eq_zero fun _ => hu, if_pos rfl]
      · rw [if_neg hu, behindLength_cons hc hu, if_neg (Nat.succ_ne_zero _), Cursor.skip_skip,
          Nat.add_comm 1]
    · rw [if_neg hc, behindLength_eq_zero fun h => absurd h hc, if_pos rfl]

/-- two parts of which at most one succeeds -/
theorem Takes.or (h : Takes part next len) (h' : Takes part' next len')
    (hzero : ∀ t, len t = 0 ∨ len' t = 0) :
    Takes (fun p => (part p).or (part' p)) next (fun t => max (len t) (len' t)) := by
  intro p
  show (part p).or (part' p) = if max (len p.rest) (len' p.rest) = 0 then none
    else next (p.skip (max (len p.rest) (len' p.rest)))
  rw [h, h']
  rcases hzero p.rest with hp | hp
  · rw [hp, if_pos rfl, Option.none_or, Nat.zero_max]
  · rw [hp, if_pos rfl, Option.or_none, Nat.max_zero]

variable (hnext : ∀ q, ∃ x, next q = some x)
include hnext

/-- a part that may be left out -/
theorem Takes.or_next (h : Takes part next len) (p : Cursor) :
    (part p).or (next p) = next (p.skip (len p.rest)) := by
  rw [h]
  by_cases hp : len p.rest = 0
  · rw [hp, if_pos rfl, Option.none_or, Cursor.skip_zero]
  · obtain ⟨x, hx⟩ := hnext (p.skip (len p.rest))
    rw [if_neg hp, hx, Option.some_or]

theorem takes_digits {digit : Char → Bool} {first more : CharSet} (hfirst : first.contains = digit)
    (hmore : more.contains = scored digit) :
    Takes ((Regex.set first).run ((Form.star more).run next)) next (digitsLength digit) := by
  intro p
  cases hp : p.rest with
  | nil => exact Regex.run_set_of_nil first hp
  | cons c u =>
    rw [Regex.run_set_of_cons first hp, hfirst, digitsLength]
    by_cases hc : digit c = true
    · have hrest := Cursor.rest_skip_one hp
      obtain ⟨x, hx⟩ := hnext ((p.skip 1).skip (runLength more.contains (p.skip 1).rest))
      rw [if_pos hc, if_pos hc, if_neg (Nat.succ_ne_zero _), Form.star, Regex.run_star_of_some hx,
        ← hx, hrest, hmore, Cursor.skip_skip, Nat.add_comm 1]
    · rw [if_neg hc, if_neg hc, if_pos rfl]

end

/-! ## exponents and fractions -/

section
variable {next : Cursor → Option Nat} (hnext : ∀ q, ∃ x, next q = some x)
include hnext

theorem takes_signed :
    Takes ((Form.optional (.set (Form.oneOf ['+', '-']))).run
      ((Regex.set Form.digit).run ((Form.star Form.digitOrScore).run next))) next signedLength := by
  have hdigits := takes_digits hnext contains_digit contains_digitOrScore
  have hsign : (Form.oneOf ['+', '-']).contains = isSign := by
    rw [contains_oneOf_eq]
    funext c
    rw [Bool.eq_iff_iff, List.contains_iff_mem, isSign]
    simp
  have hzero (t : Text) : behindLength isSign (digitsLength Char.isDigit) t = 0
      ∨ digitsLength Char.isDigit t = 0 := by
    cases t with
    | nil => exact .inl rfl
    | cons c t =>
      by_cases hc : isSign c = true
      · refine .inr (if_neg ?_)
        rw [isSign, Bool.or_eq_true, beq_iff_eq, beq_iff_eq] at hc
        rcases hc with rfl | rfl <;> decide
      · exact .inl (behindLength_eq_zero fun h => absurd h hc)
  intro p
  rw [Form.optional, Regex.run_optional]
  exact ((hsign ▸ hdigits.behind (Form.oneOf ['+', '-'])).or hdigits) hzero p

theorem run_exponent {marks : CharSet} {letters : List Char}
    (hmarks : marks.contains = letters.contains) (p : Cursor) :
    (Form.exponent marks).run next p = next (p.skip (exponentLength letters p.rest)) := by
  have hsigned := (takes_signed hnext).behind marks
  rw [hmarks] at hsigned
  rw [Form.exponent, Form.optional, Regex.run_optional]
  exact hsigned.or_next hnext p

section
variable {digit : Char → Bool} {first more : CharSet} (hfirst : first.contains = digit)
  (hmore : more.contains = scored digit)
include hfirst hmore

theorem takes_point :
    Takes ((Regex.text ['.']).run ((Regex.set first).run ((Form.star more).run next))) next
      (fractionLength digit) := by
  have hpoint : (CharSet.single '.').contains = (· == '.') := by
    funext c
    exact CharSet.contains_single '.' c
  intro p
  rw [Regex.run_text_singleton]
  exact (hpoint ▸ (takes_digits hnext hfirst hmore).behind (.single '.')) p

/-- a fraction, or digits -/
theorem takes_fraction (hpoint : digit '.' = false) :
    Takes ((Form.optional (.text ['.'])).run ((Regex.set first).run ((Form.star more).run next)))
      next (tailLength digit) := by
  have hzero (t : Text) : fractionLength digit t = 0 ∨ digitsLength digit t = 0 := by
    cases t with
    | nil => exact .inl rfl
    | cons c t =>
      by_cases hc : c = '.'
      · exact .inr (if_neg (by rw [hc, hpoint]; exact Bool.false_ne_true))
      · exact .inl (behindLength_eq_zero fun h => absurd (eq_of_beq h) hc)
  intro p
  rw [Form.optional, Regex.run_optional]
  exact ((takes_point hnext hfirst hmore).or (takes_digits hnext hfirst hmore)) hzero p

end

end

/-! ## mantissas -/

theorem exists_atEnd (q : Cursor) : ∃ x, atEnd q = some x := ⟨_, rfl⟩

/-- a fraction or digits, then an exponent -/
def tailForm (first more marks : CharSet) : Regex :=
  .chain [Form.optional (.text ['.']), .set first, Form.star more, Form.exponent marks]

/-- digits and underscores with what can follow them -/
def mantissaForm (first more marks : CharSet) : Regex :=
  .seq (Form.star more) (tailForm first more marks)

section
variable {digit : Char → Bool} {first more marks : CharSet} {letters : List Char}
  (hfirst : first.contains = digit) (hmore : more.contains = scored digit)
  (hmarks : marks.contains = letters.contains) (hpoint : scored digit '.' = false)
include hfirst hmore hmarks hpoint

/-- what follows the first digits of a mantissa, tried at a place within them -/
theorem run_behind_digits (p : Cursor) (i : Nat) :
    (tailForm first more marks).run atEnd (p.skip i)
      = if tailLength digit (p.rest.drop i) = 0 then none
        else some (p.taken + (i + tailLength digit (p.rest.drop i)
          + exponentLength letters (p.rest.drop (i + tailLength digit (p.rest.drop i))))) := by
  have hexponent := run_exponent exists_atEnd hmarks
  have hnext : ∀ q, ∃ x, (Form.exponent marks).run atEnd q = some x :=
    fun q => ⟨_, hexponent q⟩
  have hdot : digit '.' = false := by
    rw [scored, Bool.or_eq_false_iff] at hpoint
    exact hpoint.1
  refine (takes_fraction hnext hfirst hmore hdot _).trans ?_
  rw [Cursor.rest_skip]
  split
  · rfl
  · rw [Cursor.skip_skip, hexponent, atEnd, Cursor.taken_skip, Cursor.taken_skip, Cursor.rest_skip,
      Nat.add_assoc]

theorem run_mantissa_of_hasDigit {p : Cursor} (hdigit : HasDigit digit p.rest) :
    (mantissaForm first more marks).run atEnd p
      = some (p.taken + mantissaLength digit letters p.rest) := by
  have hbehind := run_behind_digits hfirst hmore hmarks hpoint p
  have hlength : runLength more.contains p.rest = runLength (scored digit) p.rest := by rw [hmore]
  have htail : tailLength digit (p.rest.drop (runLength (scored digit) p.rest)) = _ :=
    tailLength_drop_runLength
  rw [mantissaForm, Regex.run_seq, mantissaLength, List.drop_drop, ← htail,
    ← Nat.add_assoc (runLength _ _)]
  by_cases hfraction : tailLength digit (p.rest.drop (runLength (scored digit) p.rest)) = 0
  · -- without a fraction, the digits are tried from all places where one stands
    obtain ⟨i, hi, hne⟩ :=
      exists_tailLength_ne_zero (hdigit.resolve_left (by rw [← htail, hfraction]; simp))
    rw [hfraction, Nat.add_zero]
    refine Regex.run_star_of_agree (i := i) (fun j hj => ?_) ?_ ?_
    · rw [hbehind]
      by_cases hjne : tailLength digit (p.rest.drop j) = 0
      · exact .inl (if_pos hjne)
      · have hjlt : j < runLength (scored digit) p.rest := by
          rcases Nat.eq_or_lt_of_le (hlength ▸ hj) with rfl | hlt
          · exact absurd hfraction hjne
          · exact hlt
        rw [if_neg hjne, add_tailLength_drop hpoint hjlt hjne]
        exact .inr rfl
    · rw [hlength]
      exact Nat.le_of_lt hi
    · rw [hbehind, if_neg hne, add_tailLength_drop hpoint hi hne]
  · refine Regex.run_star_of_some ?_
    rw [hlength, hbehind, if_neg hfraction]

theorem run_mantissa_eq_none {p : Cursor} (hdigit : ¬ HasDigit digit p.rest) :
    (mantissaForm first more marks).run atEnd p = none := by
  have hbehind := run_behind_digits hfirst hmore hmarks hpoint p
  have hlength : runLength more.contains p.rest = runLength (scored digit) p.rest := by rw [hmore]
  rw [HasDigit, not_or, not_not, ← tailLength_drop_runLength] at hdigit
  rw [mantissaForm, Regex.run_seq]
  refine Regex.run_star_eq_none fun i hi => ?_
  rw [hbehind]
  refine if_pos ?_
  rcases Nat.eq_or_lt_of_le (hlength ▸ hi) with rfl | hlt
  · exact hdigit.1
  · obtain ⟨c, hc, htail⟩ := tailLength_drop hpoint hlt
    rwa [if_neg fun hd => hdigit.2 ⟨c, hc, hd⟩] at htail

end

/-! ## the patterns of numbers -/

/-- what stands behind a zero and one of the given letters -/
def marked (marks : CharSet) (r : Regex) : Regex :=
  .seq Form.boundary (.seq (.text ['0']) (.seq (.set marks) r))

theorem binary_eq :
    Form.binary = marked (Form.oneOf ['B', 'b']) (Form.star (Form.oneOf ['0', '1', '_'])) := rfl

theorem hexFloat_eq : Form.hexFloat = marked (Form.oneOf ['X', 'x'])
    (mantissaForm Form.hexDigit Form.hexDigitOrScore (Form.oneOf ['P', 'p'])) := rfl

/-- a boundary at the start of a text asks for a word behind it -/
theorem run_boundary_start (next : Cursor → Option Nat) (t : Text) :
    Form.boundary.run next (Cursor.start t)
      = if Pattern.wordAt true t.head? then next (Cursor.start t) else none := by
  show (if (false != Pattern.wordAt true t.head?) = true then _ else _) = _
  rw [Bool.false_bne]

theorem firstEnd?_boundary_eq_none {c : Char} (hc : Text.isWord c = false) (r : Regex) (t : Text) :
    (Regex.seq Form.boundary r).firstEnd? (c :: t) = none := by
  rw [Regex.firstEnd?_eq_run, Regex.run_seq, run_boundary_start]
  exact if_neg (by rw [List.head?_cons, Pattern.wordAt, if_pos rfl, hc]; exact Bool.false_ne_true)

theorem firstEnd?_boundary {c : Char} (hc : Text.isWord c = true) (r : Regex) (t : Text) :
    (Regex.seq Form.boundary r).firstEnd? (c :: t) = r.run atEnd (Cursor.start (c :: t)) := by
  rw [Regex.firstEnd?_eq_run, Regex.run_seq, run_boundary_start]
  exact if_pos (by rw [List.head?_cons, Pattern.wordAt, if_pos rfl, hc])

theorem firstEnd?_marked {marks : CharSet} {b : Char} (hb : marks.contains b = true) (r : Regex)
    (t : Text) :
    (marked marks r).firstEnd? ('0' :: b :: t)
      = r.run atEnd ((Cursor.start ('0' :: b :: t)).skip 2) := by
  have hstart : (Cursor.start ('0' :: b :: t)).rest = '0' :: b :: t := rfl
  have hrest : ((Cursor.start ('0' :: b :: t)).skip 1).rest = b :: t := rfl
  rw [marked, firstEnd?_boundary (by decide), Regex.run_seq, Regex.run_text_of_cons hstart,
    Regex.run_seq, Regex.run_set_of_cons _ hrest, if_pos hb, Cursor.skip_skip]

theorem firstEnd?_marked_eq_none {marks : CharSet} {t : Text}
    (h : ∀ b u, t = '0' :: b :: u → ¬ marks.contains b = true) (r : Regex) :
    (marked marks r).firstEnd? t = none := by
  rw [Regex.firstEnd?_eq_run, marked, Regex.run_seq, run_boundary_start]
  split
  · rw [Regex.run_seq, Regex.run_text, Regex.run_seq]
    split
    · next hzero =>
      obtain ⟨v, rfl⟩ := List.isPrefixOf_iff_prefix.1 hzero
      have hrest : ((Cursor.start (['0'] ++ v)).skip 1).rest = v := rfl
      cases v with
      | nil => exact Regex.run_set_of_nil marks hrest
      | cons b u => exact (Regex.run_set_of_cons marks hrest).trans (if_neg (h b u rfl))
    · rfl
  · rfl

theorem contains_bits : (Form.oneOf ['0', '1', '_']).contains = isBit := by
  rw [contains_oneOf_eq]
  funext c
  rw [Bool.eq_iff_iff, List.contains_iff_mem, isBit]
  simp [or_assoc]

theorem contains_marks (b b' : Char) : (Form.oneOf [b, b']).contains = [b', b].contains := by
  rw [contains_oneOf_eq]
  funext c
  rw [Bool.eq_iff_iff, List.contains_iff_mem, List.contains_iff_mem]
  simp [or_comm]

theorem firstEnd?_binary {b : Char} (hb : b = 'b' ∨ b = 'B') (u : Text) :
    Form.binary.firstEnd? ('0' :: b :: u) = some (runLength isBit u + 2) := by
  have hmark : (Form.oneOf ['B', 'b']).contains b = true := by
    rcases hb with rfl | rfl <;> rfl
  rw [binary_eq, firstEnd?_marked hmark, Form.star, Regex.run_star_atEnd, contains_bits,
    Nat.add_comm]
  rfl

theorem firstEnd?_binary_eq_none {t : Text}
    (h : ∀ b u, t = '0' :: b :: u → ¬ (b = 'b' ∨ b = 'B')) : Form.binary.firstEnd? t = none := by
  refine firstEnd?_marked_eq_none (fun b u ht hb => h b u ht ?_) _
  rw [contains_marks, List.contains_iff_mem] at hb
  simpa using hb

theorem firstEnd?_hexFloat {x : Char} (hx : x = 'x' ∨ x = 'X') {u : Text}
    (hu : HasDigit isHexDigit u) :
    Form.hexFloat.firstEnd? ('0' :: x :: u) = some (mantissaLength isHexDigit hexMarks u + 2) := by
  have hmark : (Form.oneOf ['X', 'x']).contains x = true := by
    rcases hx with rfl | rfl <;> rfl
  have hmantissa := run_mantissa_of_hasDigit contains_hexDigit contains_hexDigitOrScore
    (contains_marks 'P' 'p') (by decide) (p := (Cursor.start ('0' :: x :: u)).skip 2) hu
  rw [hexFloat_eq, firstEnd?_marked hmark, hmantissa, Nat.add_comm]
  rfl

theorem firstEnd?_hexFloat_eq_none {t : Text}
    (h : ∀ x u, t = '0' :: x :: u → x = 'x' ∨ x = 'X' → ¬ HasDigit isHexDigit u) :
    Form.hexFloat.firstEnd? t = none := by
  by_cases hmark : ∃ x u, t = '0' :: x :: u ∧ (Form.oneOf ['X', 'x']).contains x = true
  · obtain ⟨x, u, rfl, hx⟩ := hmark
    have hdigit : ¬ HasDigit isHexDigit u := by
      refine h x u rfl ?_
      rw [contains_marks, List.contains_iff_mem] at hx
      simpa using hx
    rw [hexFloat_eq, firstEnd?_marked hx]
    exact run_mantissa_eq_none contains_hexDigit contains_hexDigitOrScore
      (contains_marks 'P' 'p') (by decide) hdigit
  · exact firstEnd?_marked_eq_none (fun x u ht hx => hmark ⟨x, u, ht, hx⟩) _

/-- the integer part of the pattern is a run of digits that may be empty -/
theorem firstEnd?_decimalFloat {c : Char} (hc : c.isDigit = true) (u : Text) :
    Form.decimalFloat.firstEnd? (c :: u)
      = some (mantissaLength Char.isDigit decimalMarks (c :: u)) := by
  have hdigit : HasDigit Char.isDigit (c :: u) := by
    refine .inr ⟨c, ?_, hc⟩
    rw [List.takeWhile_cons_of_pos (scored_of_digit hc)]
    exact List.mem_cons_self
  have hinteger := Regex.ends_optional_run (p := Cursor.start (c :: u)) rfl
    (contains_digit ▸ hc) (contains_digitOrScore ▸ scored_of_digit hc)
  have hmantissa := run_mantissa_of_hasDigit contains_digit contains_digitOrScore
    (contains_marks 'E' 'e') (by decide) (p := Cursor.start (c :: u)) hdigit
  have hmarks : ['e', 'E'] = decimalMarks := rfl
  rw [hmarks] at hmantissa
  refine (firstEnd?_boundary (isWord_of_isNameChar (isNameChar_of_isDigit hc)) _ u).trans ?_
  refine (Regex.run_congr hinteger).trans (hmantissa.trans ?_)
  exact congrArg some (Nat.zero_add _)

theorem firstEnd?_fraction (t : Text) :
    Form.fraction.firstEnd? t = if fractionLength Char.isDigit t = 0 then none
      else some (fractionLength Char.isDigit t
        + exponentLength decimalMarks (t.drop (fractionLength Char.isDigit t))) := by
  have hexponent := run_exponent exists_atEnd (contains_marks 'E' 'e')
  have hpoint := takes_point (fun q => ⟨_, hexponent q⟩) contains_digit contains_digitOrScore
    (Cursor.start t)
  rw [hexponent] at hpoint
  refine (Regex.firstEnd?_eq_run _ t).trans (hpoint.trans ?_)
  rw [atEnd, Cursor.taken_skip, Cursor.taken_skip]
  show (if fractionLength Char.isDigit t = 0 then none
    else some (0 + fractionLength Char.isDigit t + _)) = _
  rw [Nat.zero_add]
  rfl

/-! ## the choice among the patterns -/

def numberRule (action : Scanner.Action State) (p : String) : Spec := ⟨p, .number, action⟩

/-- the characters with which a number can begin -/
def numberStarts : Text := ".0123456789".toList

/-- the rules of code are some that begin with no such character, the patterns of numbers in their
order, and others -/
theorem rulesOf_numbers (value : Bool) : ∃ before action after,
    rulesOf (position value) = before ++ (Pattern.numbers.map (numberRule action) ++ after)
      ∧ before.all (misses numberStarts) = true
      ∧ ∀ spec ∈ before ++ after, spec.kind ≠ .number := by
  cases value
  · exact ⟨startRules.take 8, .goto .afterValue, startRules.drop 14, rfl, by decide,
      by decide⟩
  · exact ⟨afterValueRules.take 8, .goto .start, afterValueRules.drop 14, rfl, by decide,
      by decide⟩

theorem mem_of_beginsNumeral {c : Char} {t : Text} (h : beginsNumeral (c :: t) = true) :
    c ∈ numberStarts := by
  have hdigits : ∀ n < 10, Char.ofNat (0x30 + n) ∈ numberStarts := by decide
  rw [beginsNumeral, Bool.or_eq_true, Bool.and_eq_true, beq_iff_eq, isDigit_iff] at h
  rcases h with hc | ⟨rfl, -⟩
  · have hmem := hdigits (c.toNat - 0x30) (by omega)
    rwa [Nat.add_sub_cancel' hc.1, Char.ofNat_toNat] at hmem
  · exact List.mem_cons_self

theorem nullable_numbers : ∀ p ∈ Pattern.numbers, (form p).nullable = false := by decide

theorem begins_marked {marks : CharSet} {r : Regex} {c : Char}
    (h : (marked marks r).begins c = true) : c = '0' := by
  have hzero : '0' = c := by
    simpa [marked, Regex.begins, Regex.nullable, Form.boundary] using h
  exact hzero.symm

theorem begins_numbers {p : String} (hp : p ∈ Pattern.numbers) {c : Char}
    (h : (form p).begins c = true) : c.isDigit = true ∨ c = '.' := by
  have hzero : c = '0' → c.isDigit = true := by rintro rfl; rfl
  simp only [Pattern.numbers, List.mem_cons, List.not_mem_nil, or_false] at hp
  rcases hp with rfl | rfl | rfl | rfl | rfl | rfl
  · exact .inl (hzero (begins_marked h))
  · exact .inl (hzero (begins_marked h))
  · have h : Form.decimalFloat.begins c = true := h
    have hc : c.isDigit = true ∨ '.' = c ∨ c.isDigit = true := by
      simpa [Form.decimalFloat, Regex.chain, Regex.begins, Regex.nullable, Form.boundary,
        Form.optional, contains_digit] using h
    rcases hc with hc | hc | hc
    · exact .inl hc
    · exact .inr hc.symm
    · exact .inl hc
  · have h : Form.fraction.begins c = true := h
    have hc : '.' = c := by
      simpa [Form.fraction, Regex.chain, Regex.begins, Regex.nullable] using h
    exact .inr hc.symm
  · exact .inl (hzero (begins_marked h))
  · have h : Form.decimalInteger.begins c = true := h
    have hc : c.isDigit = true := by
      simpa [Form.decimalInteger, Regex.chain, Regex.begins, Regex.nullable, Form.boundary,
        contains_digit] using h
    exact .inl hc

/-- behind a point that no digit follows there is no number -/
theorem firstEnd?_point_eq_none {u : Text} (h : u.head?.any Char.isDigit = false) :
    ∀ p ∈ Pattern.numbers, (form p).firstEnd? ('.' :: u) = none := by
  have hdigits : digitsLength Char.isDigit u = 0 := by
    cases u with
    | nil => rfl
    | cons d u => exact if_neg (Bool.eq_false_iff.1 h)
  have hboundary : ∀ r, (Regex.seq Form.boundary r).firstEnd? ('.' :: u) = none :=
    fun r => firstEnd?_boundary_eq_none (by decide) r u
  have hfraction : Form.fraction.firstEnd? ('.' :: u) = none :=
    (firstEnd?_fraction _).trans (if_pos (behindLength_eq_zero fun _ => hdigits))
  simp only [Pattern.numbers, List.forall_mem_cons, List.not_mem_nil, false_imp_iff,
    implies_true, and_true]
  exact ⟨hboundary _, hboundary _, hboundary _, hfraction, hboundary _, hboundary _⟩

/-- the patterns of numbers match nothing else -/
theorem firstEnd?_numbers_eq_none {t : Text} (h : beginsNumeral t = false) :
    ∀ p ∈ Pattern.numbers, (form p).firstEnd? t = none := by
  cases t with
  | nil => decide
  | cons c u =>
    rw [beginsNumeral, Bool.or_eq_false_iff] at h
    by_cases hc : c = '.'
    · rw [hc, beq_self_eq_true, Bool.true_and] at h
      exact hc ▸ firstEnd?_point_eq_none h.2
    · intro p hp
      have hnull := nullable_numbers p hp
      refine Regex.firstEnd?_eq_none hnull (Bool.eq_false_iff.2 fun hbegins => ?_) u
      rcases begins_numbers hp hbegins with hdigit | hpoint
      · exact Bool.eq_false_iff.1 h.1 hdigit
      · exact hc hpoint

section
variable {t : Text} {n : Nat} (action : Scanner.Action State) (after : List Spec)

/-- a number at the front of a text is matched to its end, by the first pattern that matches -/
theorem firstOf_numbers (h : NumeralFront t n) :
    ∃ p, firstOf (Pattern.numbers.map (numberRule action) ++ after) t
      = some (numberRule action p, n) := by
  cases h with
  | binary hb u =>
    have hbinary : endOf? (numberRule action Pattern.binary) _ = _ := firstEnd?_binary hb u
    exact ⟨_, firstOf_cons_of_some hbinary _⟩
  | @hexadecimal x u hx hu =>
    have hbinary : endOf? (numberRule action Pattern.binary) ('0' :: x :: u) = none := by
      refine firstEnd?_binary_eq_none fun b v ht hb => ?_
      injection ht with _ ht
      injection ht with hxb
      exact binary_ne_hex (hxb ▸ hb) hx
    have hhex : endOf? (numberRule action Pattern.hexFloat) _ = _ := firstEnd?_hexFloat hx hu
    exact ⟨_, (firstOf_cons_of_none hbinary _).trans (firstOf_cons_of_some hhex _)⟩
  | @decimal c u hc hbinary hhex =>
    have hbinary : endOf? (numberRule action Pattern.binary) _ = none :=
      firstEnd?_binary_eq_none hbinary
    have hhex : endOf? (numberRule action Pattern.hexFloat) _ = none :=
      firstEnd?_hexFloat_eq_none hhex
    have hdecimal : endOf? (numberRule action Pattern.decimalFloat) _ = _ :=
      firstEnd?_decimalFloat hc u
    exact ⟨_, (firstOf_cons_of_none hbinary _).trans
      ((firstOf_cons_of_none hhex _).trans (firstOf_cons_of_some hdecimal _))⟩
  | @fraction u hu =>
    have hbinary : endOf? (numberRule action Pattern.binary) ('.' :: u) = none :=
      firstEnd?_boundary_eq_none (by decide) _ u
    have hhex : endOf? (numberRule action Pattern.hexFloat) ('.' :: u) = none :=
      firstEnd?_boundary_eq_none (by decide) _ u
    have hdecimal : endOf? (numberRule action Pattern.decimalFloat) ('.' :: u) = none :=
      firstEnd?_boundary_eq_none (by decide) _ u
    have hne : fractionLength Char.isDigit ('.' :: u) ≠ 0 := by
      rw [fractionLength, behindLength_cons rfl hu]
      exact Nat.succ_ne_zero _
    have hfraction : endOf? (numberRule action Pattern.fraction) ('.' :: u) = _ :=
      (firstEnd?_fraction _).trans (if_neg hne)
    exact ⟨_, (firstOf_cons_of_none hbinary _).trans ((firstOf_cons_of_none hhex _).trans
      ((firstOf_cons_of_none hdecimal _).trans (firstOf_cons_of_some hfraction _)))⟩

end

theorem exists_choose_number (value : Bool) {c : Char} {t : Text} {n : Nat}
    (h : NumeralFront (c :: t) n) (hc : c ∈ numberStarts) :
    ∃ spec, spec.kind = .number ∧ choose (position value) (c :: t) = some (spec, n) := by
  obtain ⟨before, action, after, hrules, hbefore, -⟩ := rulesOf_numbers value
  obtain ⟨p, hp⟩ := firstOf_numbers action after h
  refine ⟨numberRule action p, rfl, ?_⟩
  rw [choose, hrules, firstOf_append_of_misses hbefore hc, hp]

theorem kind_ne_number {value : Bool} {t : Text} {spec : Spec} {n : Nat}
    (h : beginsNumeral t = false) (hchoose : choose (position value) t = some (spec, n)) :
    spec.kind ≠ .number := by
  obtain ⟨before, action, after, hrules, -, hkind⟩ := rulesOf_numbers value
  obtain ⟨hmem, hend⟩ := mem_of_choose hchoose
  rw [hrules, List.mem_append, List.mem_append] at hmem
  rcases hmem with hmem | hmem | hmem
  · exact hkind spec (List.mem_append_left _ hmem)
  · obtain ⟨p, hp, rfl⟩ := List.mem_map.1 hmem
    have hnone := firstEnd?_numbers_eq_none h p hp
    exact absurd (hnone.symm.trans hend) (Option.some_ne_none n).symm
  · exact hkind spec (List.mem_append_right _ hmem)

/-- In code a text begins with a number if it begins with a digit, or with a point and a digit, and
then the number is the longest numeral there. -/
theorem firstToken_number {st : Stack} (h : st.top ∈ [State.start, .afterValue]) (t : Text) :
    if beginsNumeral t then ∃ x, Longest Numeral t x ∧ FirstToken st t .number x
    else ∀ token ∈ (scan t (some st)).tokens.head?, token.kind ≠ .number := by
  obtain ⟨value, hvalue⟩ := exists_position h
  cases t with
  | nil =>
    intro token htoken
    rw [tokens_scan_nil] at htoken
    cases htoken
  | cons c t =>
    split
    · next hnumeral =>
      obtain ⟨n, hn⟩ := exists_numeralFront hnumeral
      obtain ⟨spec, hkind, hchoose⟩ :=
        exists_choose_number value hn (mem_of_beginsNumeral hnumeral)
      rw [← hvalue] at hchoose
      have hfirst := firstToken_of_choose hchoose
      have hmax : max 1 n = n := by
        have hne : n ≠ 0 := by
          rintro rfl
          exact not_numeral_nil hn.longest.isWord
        omega
      rw [hmax, hkind] at hfirst
      exact ⟨_, hn.longest, hfirst⟩
    · next hnumeral =>
      intro token htoken
      obtain ⟨spec, n, hchoose⟩ := exists_choose st.top (c :: t)
      rw [kind_of_mem_head? hchoose htoken]
      rw [hvalue] at hchoose
      exact kind_ne_number (Bool.eq_false_iff.2 hnumeral) hchoose

theorem firstToken_hexadecimal_with_sign :
    ∃ x, Longest Numeral "0x1.e+5".toList x
      ∧ FirstToken ⟨.afterValue, [.comment]⟩ "0x1.e+5".toList .number x := by
  have h := @firstToken_number ⟨.afterValue, [.comment]⟩ (by decide) "0x1.e+5".toList
  rwa [if_pos (by decide)] at h

end Workbench.Riff
