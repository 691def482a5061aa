import Workbench.Decimal.Shortest
import Workbench.Shell.Arithmetic

/-!
# Numbers with a fraction

How a format reads and writes numbers that need not be whole.  A number is read as the value nearest
to it in some binary precision.  From then on all is exact: what is written is the value itself,
rounded once to the digits that are asked for, a tie going to the even digit.
-/

namespace Workbench.Shell

/-! ## values -/

inductive Size where
  | finite (mantissa : Nat) (exponent : Int)
  | infinite
  | undefined
  deriving DecidableEq, Repr

structure Floating where
  negative : Bool
  size : Size
  deriving DecidableEq, Repr

namespace Floating

def zero : Floating := ⟨false, .finite 0 0⟩

def ofInt (p : Precision) (n : Int) : Floating :=
  match p.ofRatio n.natAbs 1 0 with
  | some (m, e) => ⟨n < 0, .finite m e⟩
  | none => ⟨n < 0, .infinite⟩

end Floating

/-! ## reading -/

/-- a value that was read, whether it is out of the range of the precision, and the text behind -/
structure FloatReading where
  value : Floating
  outOfRange : Bool
  rest : Text

/-- the value of `num / den`; a value that is too small for all its digits is out of range, unless
it is exact -/
def nearest (p : Precision) (num den : Nat) : Size × Bool :=
  match p.ofRatio num den 0 with
  | none => (.infinite, true)
  | some (m, e) =>
    let exact : Bool := if 0 ≤ e then m * Nat.pow 2 e.toNat * den = num
      else m * den = num * Nat.pow 2 (-e).toNat
    (.finite m e, m < Nat.pow 2 (p.digits - 1) && !exact)

/-- the value of `digits * base ^ exponent`; far outside the range the power is not written out -/
def scaled (p : Precision) (base digits : Nat) (exponent : Int) : Size × Bool :=
  let size := (Nat.log2 digits : Int) + exponent * (if base = 10 then 3 else 1)
  if digits = 0 then (.finite 0 0, false)
  else if 40000 < size then (.infinite, true)
  else if exponent < -40000 - (Nat.log2 digits : Int) then (.finite 0 0, true)
  else if 0 ≤ exponent then nearest p (digits * Nat.pow base exponent.toNat) 1
  else nearest p digits (Nat.pow base (-exponent).toNat)

/-- the number that digits write -/
def valueOf (base : Nat) (digits : Text) : Nat :=
  digits.foldl (fun n c => n * base + (digit? base c).getD 0) 0

/-- the power behind the digits, if there is one -/
def readPower (letter : Char) (t : Text) : Int × Text :=
  match t with
  | c :: r =>
    let (negative, digits) := readSign r
    let power := digits.takeWhile Char.isDigit
    if c.toLower = letter ∧ power ≠ [] then
      let n : Int := valueOf 10 power
      (if negative then -n else n, digits.drop power.length)
    else (0, t)
  | [] => (0, [])

/-- digits with a point among or around them and a power behind them; `none` without a digit -/
def readScaled (p : Precision) (base : Nat) (letter : Char) (t : Text) :
    Option (Size × Bool × Text) :=
  let isDigit (c : Char) : Bool := (digit? base c).isSome
  let whole := t.takeWhile isDigit
  let (fraction, rest) :=
    match t.drop whole.length with
    | '.' :: r => (r.takeWhile isDigit, r.dropWhile isDigit)
    | r => ([], r)
  if whole = [] ∧ fraction = [] then none
  else
    let (power, rest) := readPower letter rest
    let digits := valueOf base (whole ++ fraction)
    let (size, outOfRange) :=
      if base = 10 then scaled p 10 digits (power - fraction.length)
      else scaled p 2 digits (power - 4 * fraction.length)
    some (size, outOfRange, rest)

/-- what stands in parentheses behind a value that is undefined -/
def dropNote (t : Text) : Text :=
  match t with
  | '(' :: r =>
    match r.dropWhile fun c => c.isAlphanum || c = '_' with
    | ')' :: rest => rest
    | _ => t
  | _ => t

/-- the value at the head of a text; `none` if there is none -/
def readFloating (p : Precision) (t : Text) : Option FloatReading :=
  let (negative, body) := readSign (t.dropWhile isSpace)
  let begins (word : String) : Bool := word.toList.isPrefixOf (body.map Char.toLower)
  let decimal (_ : Unit) : Option FloatReading :=
    (readScaled p 10 'e' body).map fun r => ⟨⟨negative, r.1⟩, r.2.1, r.2.2⟩
  if begins "infinity" then some ⟨⟨negative, .infinite⟩, false, body.drop 8⟩
  else if begins "inf" then some ⟨⟨negative, .infinite⟩, false, body.drop 3⟩
  else if begins "nan" then some ⟨⟨negative, .undefined⟩, false, dropNote (body.drop 3)⟩
  else if begins "0x" then
    match readScaled p 16 'p' (body.drop 2) with
    | some r => some ⟨⟨negative, r.1⟩, r.2.1, r.2.2⟩
    | none => decimal ()
  else decimal ()

/-! ## writing -/

/-- digits with a point before the last `places` of them; without places, a point only if asked -/
def withPoint (digits : Text) (places : Nat) (point : Bool) : Text :=
  let whole := digits.take (digits.length - places)
  let fraction := digits.drop (digits.length - places)
  if places = 0 ∧ !point then whole else whole ++ '.' :: fraction

/-- `num / den` with a number of places behind the point -/
def fixed (num den places : Nat) (point : Bool) : Text :=
  let digits := Nat.toDigits 10 (Precision.roundQuotient (num * Nat.pow 10 places) den)
  withPoint (List.replicate (places + 1 - digits.length) '0' ++ digits) places point

/-- the digits of `num / den` with `places` of them behind the first, and the power of the first -/
def leadingDigits (num den places : Nat) : Text × Int :=
  if num = 0 then (List.replicate (places + 1) '0', 0)
  else
    let power := Decimal.leadingExponent num den
    let shift := (places : Int) - power
    let n := Precision.roundQuotient (num * Nat.pow 10 shift.toNat)
      (den * Nat.pow 10 (-shift).toNat)
    if n < Nat.pow 10 (places + 1) then (Nat.toDigits 10 n, power)
    else (Nat.toDigits 10 (n / 10), power + 1)

def signed (n : Int) (width : Nat) : Text :=
  let digits := Nat.toDigits 10 n.natAbs
  (if n < 0 then '-' else '+') :: List.replicate (width - digits.length) '0' ++ digits

/-- one digit before the point, and a power of ten of at least two digits -/
def exponential (num den places : Nat) (point : Bool) : Text :=
  let (digits, power) := leadingDigits num den places
  withPoint digits places point ++ 'e' :: signed power 2

/-- a text without the zeros at its end, and without a point at its end -/
def dropZeros (t : Text) : Text :=
  if t.contains '.' then ((t.reverse.dropWhile (· = '0')).dropWhile (· = '.')).reverse else t

/-- A number of digits, in the shorter form: with a power only if it is below -4 or leaves no digit
behind the point. -/
def general (num den digits : Nat) (full : Bool) : Text :=
  let digits := max digits 1
  let (lead, power) := leadingDigits num den (digits - 1)
  let keep (t : Text) : Text := if full then t else dropZeros t
  if -4 ≤ power ∧ power < digits then keep (fixed num den ((digits : Int) - 1 - power).toNat full)
  else keep (withPoint lead (digits - 1) full) ++ 'e' :: signed power 2

/-- the mantissa in hexadecimal with one digit before the point, and a power of two -/
def hexadecimal (p : Precision) (mantissa : Nat) (exponent : Int) (places : Option Nat)
    (point : Bool) : Text :=
  let all := (p.digits - 1) / 4
  let power : Int := if mantissa = 0 then 0 else exponent + 4 * all
  let kept := (places.getD all).min all
  let n := Precision.roundQuotient mantissa (Nat.pow 16 (all - kept))
  let (n, power) := if n < Nat.pow 16 (kept + 1) then (n, power) else (n / 16, power + 4)
  let digits := Nat.toDigits 16 n
  let digits := List.replicate (kept + 1 - digits.length) '0' ++ digits
  let fraction := digits.drop (digits.length - kept)
  let fraction :=
    match places with
    | some q => fraction ++ List.replicate (q - all) '0'
    | none => (fraction.reverse.dropWhile (· = '0')).reverse
  let whole := digits.take (digits.length - kept)
  whole ++ (if fraction = [] ∧ !point then [] else '.' :: fraction) ++ 'p' :: signed power 1

/-- a value without its sign, as the letter of a directive writes it in small letters; the first
part stands before any zeros that fill it up -/
def Size.write (p : Precision) (letter : Char) (places : Option Nat) (full : Bool) :
    Size → Text × Text
  | .infinite => ([], "inf".toList)
  | .undefined => ([], "nan".toList)
  | .finite m e =>
    let num := m * Nat.pow 2 e.toNat
    let den := Nat.pow 2 (-e).toNat
    match letter with
    | 'f' => ([], fixed num den (places.getD 6) full)
    | 'e' => ([], exponential num den (places.getD 6) full)
    | 'g' => ([], general num den (places.getD 6) full)
    | _ => (['0', 'x'], hexadecimal p m e places full)

end Workbench.Shell
