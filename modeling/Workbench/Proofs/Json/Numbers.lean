import Workbench.Json.Number
import Workbench.Proofs.Json.Steps

/-!
# Written numbers

A number is a sign, a whole part, a fraction and a power of ten, of which all but the whole part may
be missing.  Where its value is not asked for it is passed over, whatever its size, up to what
cannot be part of it (`gives_skipNumber`).
-/

namespace Workbench.Json

variable {r s : Text}

/-! ## the parts of a number -/

def IsDigits (s : Text) : Prop := ∀ c ∈ s, isDigit c = true

inductive IsWhole : Text → Prop
  | zero : IsWhole ['0']
  | digits {c : Char} {s : Text} (hc : isDigit c = true) (hzero : c ≠ '0') (hs : IsDigits s) :
      IsWhole (c :: s)

inductive IsFraction : Text → Prop
  | none : IsFraction []
  | digits {c : Char} {s : Text} (hc : isDigit c = true) (hs : IsDigits s) :
      IsFraction ('.' :: c :: s)

inductive IsSign : Text → Prop
  | none : IsSign []
  | plus : IsSign ['+']
  | minus : IsSign ['-']

inductive IsExponent : Text → Prop
  | none : IsExponent []
  | digits {e c : Char} {sign s : Text} (he : isExponentMark e = true) (hsign : IsSign sign)
      (hc : isDigit c = true) (hs : IsDigits s) : IsExponent (e :: (sign ++ c :: s))

/-- a number without its sign -/
inductive IsUnsigned : Text → Prop
  | mk {whole fraction exponent : Text} (hwhole : IsWhole whole) (hfraction : IsFraction fraction)
      (hexponent : IsExponent exponent) : IsUnsigned (whole ++ (fraction ++ exponent))

/-- nothing in front of the text can go on as a number there -/
def EndsNumber (r : Text) : Prop :=
  ∀ c ∈ r.head?, isDigit c = false ∧ c ≠ '.' ∧ isExponentMark c = false

namespace EndsNumber

theorem not_digit (h : EndsNumber r) : r.head?.any isDigit = false := by
  cases r with
  | nil => rfl
  | cons c r => exact (h c rfl).1

theorem not_point (h : EndsNumber r) : r.head? ≠ some '.' := fun hr => (h '.' hr).2.1 rfl

theorem not_mark (h : EndsNumber r) : r.head?.any isExponentMark = false := by
  cases r with
  | nil => rfl
  | cons c r => exact (h c rfl).2.2

end EndsNumber

/-! ## digits -/

theorem takeDigits_append_of (hs : IsDigits s) (hr : r.head?.any isDigit = false) :
    takeDigits (s ++ r) = (s, r) := by
  have hdrop : r.dropWhile isDigit = r := by
    cases r with
    | nil => rfl
    | cons c r => exact List.dropWhile_cons_of_neg (Bool.eq_false_iff.1 hr)
  have htake : r.takeWhile isDigit = [] := by
    cases r with
    | nil => rfl
    | cons c r => exact List.takeWhile_cons_of_neg (Bool.eq_false_iff.1 hr)
  rw [takeDigits, List.takeWhile_append_of_pos hs, List.dropWhile_append_of_pos hs, hdrop, htake,
    List.append_nil]

theorem gives_skipDigits {c : Char} (hc : isDigit c = true) (hs : IsDigits s)
    (hr : r.head?.any isDigit = false) : Gives (skipDigits (c :: (s ++ r))) () r := by
  rw [skipDigits, if_pos hc]
  exact gives_ok_iff.2 ⟨rfl, congrArg Prod.snd (takeDigits_append_of hs hr)⟩

theorem not_digit_of_mark {c : Char} (hc : isExponentMark c = true) : isDigit c = false := by
  rw [isExponentMark, Bool.or_eq_true, decide_eq_true_eq, decide_eq_true_eq] at hc
  rcases hc with rfl | rfl <;> rfl

/-! ## numbers -/

theorem gives_skipExponent {c : Char} {sign : Text} (hsign : IsSign sign) (hc : isDigit c = true)
    (hs : IsDigits s) (hr : r.head?.any isDigit = false) :
    Gives (skipExponent (sign ++ c :: (s ++ r))) () r := by
  have hdigits := gives_skipDigits hc hs hr
  cases hsign with
  | plus | minus => exact gives_widen_iff.2 hdigits
  | none =>
    have hplus : c ≠ '+' := by rintro rfl; exact absurd hc (by decide)
    have hminus : c ≠ '-' := by rintro rfl; exact absurd hc (by decide)
    have hunsigned : skipExponent (c :: (s ++ r)) = skipDigits (c :: (s ++ r)) := by
      rw [skipExponent]
      · intro t ht
        exact hplus (List.cons.inj ht).1
      · intro t ht
        exact hminus (List.cons.inj ht).1
    rw [List.nil_append, hunsigned]
    exact hdigits

section
variable {exponent : Text} (hexponent : IsExponent exponent) (hr : EndsNumber r)
include hexponent hr

/-- a whole number ends where its fraction or its power of ten begins -/
theorem not_digit_behind_whole {fraction : Text} (hfraction : IsFraction fraction) :
    (fraction ++ (exponent ++ r)).head?.any isDigit = false := by
  cases hfraction with
  | digits => rfl
  | none =>
    cases hexponent with
    | none => exact hr.not_digit
    | @digits e _ _ _ he => exact not_digit_of_mark he

theorem gives_skipFraction {c : Char} (hc : isDigit c = true) (hs : IsDigits s) :
    Gives (skipFraction (c :: (s ++ (exponent ++ r)))) () r := by
  cases hexponent with
  | none =>
    obtain ⟨_, hdigits⟩ := gives_skipDigits hc hs hr.not_digit
    rw [List.nil_append, skipFraction, hdigits]
    simp only [hr.not_mark, Bool.false_eq_true, if_false]
    exact gives_ok_iff.2 ⟨rfl, rfl⟩
  | @digits e d sign w he hsign hd hw =>
    obtain ⟨_, hdigits⟩ : Gives (skipDigits (c :: (s ++ (e :: (sign ++ d :: (w ++ r)))))) ()
        (e :: (sign ++ d :: (w ++ r))) := gives_skipDigits hc hs (not_digit_of_mark he)
    rw [List.cons_append, List.append_assoc, List.cons_append, skipFraction, hdigits]
    simp only [List.head?_cons, Option.any_some, he, if_true, List.tail_cons]
    exact gives_widen_iff.2 (gives_skipExponent hsign hd hw hr.not_digit)

theorem gives_skipNumberEnd {n : Nat} {fraction : Text} (hfraction : IsFraction fraction)
    (hn : (fraction ++ (exponent ++ r)).length < n) :
    Gives (skipNumberEnd (fraction ++ (exponent ++ r)) hn) () r := by
  cases hfraction with
  | @digits c s hc hs =>
    have hhead : ('.' :: c :: s ++ (exponent ++ r)).head? = some '.' := rfl
    rw [skipNumberEnd, if_pos hhead]
    exact gives_widen_iff.2 (gives_skipFraction hexponent hr hc hs)
  | none =>
    cases hexponent with
    | none =>
      have hpoint : ([] ++ ([] ++ r) : Text).head? ≠ some '.' := hr.not_point
      have hmark : ¬ ([] ++ ([] ++ r) : Text).head?.any isExponentMark = true :=
        Bool.eq_false_iff.1 hr.not_mark
      rw [skipNumberEnd, if_neg hpoint, if_neg hmark]
      exact gives_ok_iff.2 ⟨rfl, rfl⟩
    | @digits e d sign w he hsign hd hw =>
      have hpoint : ([] ++ (e :: (sign ++ d :: w) ++ r)).head? ≠ some '.' := by
        rintro ⟨rfl⟩
        exact absurd he (by decide)
      have hmark : ([] ++ (e :: (sign ++ d :: w) ++ r)).head?.any isExponentMark = true := he
      rw [skipNumberEnd, if_neg hpoint, if_pos hmark]
      refine gives_widen_iff.2 ?_
      rw [List.nil_append, List.cons_append, List.tail_cons, List.append_assoc, List.cons_append]
      exact gives_skipExponent hsign hd hw hr.not_digit

end

/-- a number is passed over up to what cannot be part of it -/
theorem gives_skipNumber {v : Text} (hv : IsUnsigned v) (hr : EndsNumber r) :
    Gives (skipNumber (v ++ r)) () r := by
  obtain ⟨hwhole, hfraction, hexponent⟩ := hv
  have hbehind := not_digit_behind_whole hexponent hr hfraction
  rw [List.append_assoc, List.append_assoc]
  cases hwhole with
  | zero =>
    rw [List.singleton_append, skipNumber, if_pos rfl,
      if_neg (by rw [hbehind]; exact Bool.false_ne_true)]
    exact gives_skipNumberEnd hexponent hr hfraction _
  | @digits c s hc hzero hs =>
    have htake := takeDigits_append_of hs hbehind
    rw [List.cons_append, skipNumber, if_neg hzero, if_pos hc]
    simp only [htake]
    exact gives_skipNumberEnd hexponent hr hfraction _

end Workbench.Json
