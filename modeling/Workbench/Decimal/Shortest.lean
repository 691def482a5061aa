import Workbench.Decimal.Binary64

/-!
# The shortest decimal of a number

The decimals that round to a value of double precision fill an interval around it.  Of these, the
shortest decimal has the fewest digits, and of those it is the one nearest to the value.  It is
found by looking, for one digit, two digits and so on, at the two decimals of that length next to
the value: if any decimal of a length lies in the interval, one of these two does.
-/

namespace Workbench

/-- a decimal `digits * 10 ^ exponent` -/
structure Decimal where
  digits : Nat
  exponent : Int
  deriving DecidableEq, Repr

namespace Decimal

/-- the interval of a value, on a scale on which its ends are whole; `closed` if the ends belong -/
structure Interval where
  low : Nat
  value : Nat
  high : Nat
  /-- the scale is `2 ^ scale` -/
  scale : Int
  closed : Bool

/--
The numbers that round to `mantissa * 2 ^ exponent`.  Below a power of two the neighbours lie twice
as close, except at the least exponent.
-/
def Interval.of (mantissa : Nat) (exponent : Int) : Interval :=
  let low := if mantissa = Nat.pow 2 52 ∧ Precision.double.leastExponent < exponent then 1 else 2
  ⟨4 * mantissa - low, 4 * mantissa, 4 * mantissa + 2, exponent - 2, mantissa % 2 = 0⟩

/-- `x * 2 ^ scale / 10 ^ exponent` as a quotient of natural numbers -/
def gridQuotient (x : Nat) (scale exponent : Int) : Nat × Nat :=
  (x * Nat.pow 2 scale.toNat * Nat.pow 10 (-exponent).toNat,
    Nat.pow 2 (-scale).toNat * Nat.pow 10 exponent.toNat)

/-- whether a decimal lies in an interval -/
def Interval.holds (i : Interval) (d : Decimal) : Bool :=
  let (low, den) := gridQuotient i.low i.scale d.exponent
  let (high, _) := gridQuotient i.high i.scale d.exponent
  if i.closed then low ≤ d.digits * den && d.digits * den ≤ high
  else low < d.digits * den && d.digits * den < high

/-- the decimal next to the value on the grid of an exponent, if one lies in the interval -/
def Interval.onGrid? (i : Interval) (exponent : Int) : Option Decimal :=
  let (num, den) := gridQuotient i.value i.scale exponent
  let below : Decimal := ⟨num / den, exponent⟩
  let above : Decimal := ⟨num / den + 1, exponent⟩
  match i.holds below, i.holds above with
  | true, true =>
    let r := num % den
    if 2 * r < den ∨ (2 * r = den ∧ below.digits % 2 = 0) then some below else some above
  | true, false => some below
  | false, true => some above
  | false, false => none

/-- the number of decimal digits, at least one -/
def digitCount (n : Nat) : Nat := (Nat.toDigits 10 n).length

/-- the exponent of the leading digit of a quotient, which is not zero -/
def leadingExponent (num den : Nat) : Int :=
  if den ≤ num then (digitCount (num / den) : Int) - 1
  else
    -- one of the two exponents next to the difference of the lengths is right
    let guess : Int := (digitCount num : Int) - (digitCount den : Int)
    if den ≤ num * Nat.pow 10 (-guess).toNat then guess else guess - 1

/-- the first grid, from `count` steps above the finest one on, that has a decimal of the
interval -/
def Interval.coarsest (i : Interval) (finest : Int) : (count : Nat) → Decimal
  | 0 => (i.onGrid? finest).getD ⟨0, 0⟩
  | count + 1 => (i.onGrid? (finest + (count + 1))).getD (i.coarsest finest count)

/-- The shortest decimal that rounds to `mantissa * 2 ^ exponent`. -/
def shortest (mantissa : Nat) (exponent : Int) : Decimal :=
  if mantissa = 0 then ⟨0, 0⟩
  else
    let i := Interval.of mantissa exponent
    let (num, den) := gridQuotient i.value i.scale 0
    i.coarsest (leadingExponent num den - 16) 16

/-! ## writing a decimal -/

/-- the digits of a decimal without trailing zeros, and the place of the point before them -/
structure Layout where
  digits : List Char
  /-- how many digits stand before the point; negative if zeros stand behind it -/
  point : Int

def Layout.of (d : Decimal) : Layout :=
  let all := Nat.toDigits 10 d.digits
  let kept := (all.reverse.dropWhile (· = '0')).reverse
  if d.digits = 0 then ⟨['0'], 1⟩ else ⟨kept, all.length + d.exponent⟩

/-- positional, with no point behind a whole number and no exponent -/
def positional (d : Decimal) : String :=
  let l := Layout.of d
  let n := l.digits.length
  if l.point ≤ 0 then
    String.ofList (['0', '.'] ++ List.replicate (-l.point).toNat '0' ++ l.digits)
  else if (n : Int) ≤ l.point then
    String.ofList (l.digits ++ List.replicate (l.point.toNat - n) '0')
  else String.ofList (l.digits.take l.point.toNat ++ '.' :: l.digits.drop l.point.toNat)

/--
Positional with at least one digit behind the point while the leading digit stands for `10 ^ -5` up
to `10 ^ 15`, else with a signed exponent.
-/
def scientific (d : Decimal) : String :=
  let l := Layout.of d
  if -5 < l.point ∧ l.point ≤ 16 then
    let whole := positional d
    if (l.digits.length : Int) ≤ l.point then whole ++ ".0" else whole
  else
    let e := l.point - 1
    let mantissa :=
      match l.digits with
      | [] => []
      | [c] => [c]
      | c :: cs => c :: '.' :: cs
    String.ofList mantissa ++ (if 0 ≤ e then "e+" else "e-") ++ toString e.natAbs

end Decimal

end Workbench
