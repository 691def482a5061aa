/-!
# Numbers of a binary precision

The values of a binary format with an exact arithmetic of their own: a value is
`mantissa * 2 ^ exponent`, and a result is the exact quotient rounded to the nearest such value, a
tie going to the even mantissa.  Signs are kept by whoever needs them.
-/

namespace Workbench

/-- how many binary digits a mantissa can have, and the bounds of the exponent -/
structure Precision where
  digits : Nat
  leastExponent : Int
  greatestExponent : Int
  deriving DecidableEq, Repr

namespace Precision

/-- the format of 64 bits -/
def double : Precision := ⟨53, -1074, 971⟩

/-- the format of 80 bits -/
def extended : Precision := ⟨64, -16445, 16320⟩

/-- the nearest natural number to a quotient, a tie going to the even one -/
def roundQuotient (num den : Nat) : Nat :=
  let q := num / den
  let r := num % den
  if 2 * r < den then q
  else if den < 2 * r then q + 1
  else if q % 2 = 0 then q else q + 1

/-- the mantissa and exponent of the value nearest to `num / den * 2 ^ shift`, unless it is too
large; a mantissa has all its digits, except at the least exponent -/
def ofRatio (p : Precision) (num den : Nat) (shift : Int) : Option (Nat × Int) :=
  if num = 0 then some (0, 0)
  else
    -- the quotient lies strictly between `2 ^ (size - 1)` and `2 ^ (size + 1)`
    let size : Int := (Nat.log2 num : Int) - (Nat.log2 den : Int)
    let atExponent (e : Int) : Nat × Nat :=
      if e ≤ 0 then (num * Nat.pow 2 (-e).toNat, den) else (num, den * Nat.pow 2 e.toNat)
    -- the exponent at which the quotient has all digits, before the shift
    let e0 := size - (p.digits - 1 : Nat)
    let (n0, d0) := atExponent e0
    let e1 := if n0 / d0 < Nat.pow 2 (p.digits - 1) then e0 - 1 else e0
    let e2 := max e1 (p.leastExponent - shift)
    let (n2, d2) := atExponent e2
    let m := roundQuotient n2 d2
    let (m', e') := if m = Nat.pow 2 p.digits then (Nat.pow 2 (p.digits - 1), e2 + 1) else (m, e2)
    if p.greatestExponent < e' + shift then none else some (m', e' + shift)

end Precision

/-- a finite value of double precision, or the infinity that is too large for one -/
inductive Binary64 where
  | finite (mantissa : Nat) (exponent : Int)
  | infinite
  deriving DecidableEq, Repr

namespace Binary64

/-- the value nearest to `num / den * 2 ^ shift` -/
def ofRatio (num den : Nat) (shift : Int) : Binary64 :=
  match Precision.double.ofRatio num den shift with
  | some (m, e) => .finite m e
  | none => .infinite

def ofNat (n : Nat) : Binary64 := ofRatio n 1 0

/-- the product of two values -/
def mul : Binary64 → Binary64 → Binary64
  | .finite m e, .finite m' e' => ofRatio (m * m') 1 (e + e')
  | _, _ => .infinite

/-- the quotient of two values, the second of them not zero -/
def div : Binary64 → Binary64 → Binary64
  | .finite m e, .finite m' e' => ofRatio m m' (e - e')
  | _, _ => .infinite

def isZero : Binary64 → Bool
  | .finite 0 _ => true
  | _ => false

end Binary64

end Workbench
