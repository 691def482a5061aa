import Workbench.Json.Reader

/-!
# Numbers in JSON

A number is digits, perhaps a point with digits behind it, and perhaps a power of ten.  A whole
number that fits 64 bits is kept as it is.  Any other becomes a number of double precision in a
fixed way: its digits are collected into a significand while that stays below `2 ^ 64`, the others
only count towards the power of ten, and the significand is then multiplied or divided by powers of
ten up to `10 ^ 308`, with a rounding at each step.
-/

namespace Workbench.Json

def isDigit (c : Char) : Bool := '0' ≤ c && c ≤ '9'

def digitValue (c : Char) : Nat := c.toNat - '0'.toNat

/-- takes the leading digits off a text -/
def takeDigits (s : Text) : List Char × Text := (s.takeWhile isDigit, s.dropWhile isDigit)

@[simp] theorem takeDigits_append (s : Text) : (takeDigits s).1 ++ (takeDigits s).2 = s :=
  List.takeWhile_append_dropWhile

theorem length_takeDigits (s : Text) : (takeDigits s).2.length ≤ s.length := by
  have h := congrArg List.length (takeDigits_append s)
  rw [List.length_append] at h
  omega

/-! ## the value of a number -/

/-- the digits collected into a significand, and those that find no more room -/
def collect (significand : Nat) : List Char → Nat × List Char
  | [] => (significand, [])
  | c :: cs =>
    if significand * 10 + digitValue c < Nat.pow 2 64 then collect (significand * 10 + digitValue c) cs
    else (significand, c :: cs)

def powerOfTen (n : Nat) : Binary64 := .ofNat (Nat.pow 10 n)

/-- a value divided by `10 ^ n` -/
def scaleDown (f : Binary64) (n : Nat) : Binary64 :=
  if n ≤ 308 then f.div (powerOfTen n)
  else if f.isZero then f
  else scaleDown (f.div (powerOfTen 308)) (n - 308)
  termination_by n
  decreasing_by omega

/-- a value multiplied by a power of ten, unless that is too large -/
def scale? (f : Binary64) (exponent : Int) : Option Binary64 :=
  if exponent < 0 then some (scaleDown f (-exponent).toNat)
  else if exponent ≤ 308 then
    match f.mul (powerOfTen exponent.toNat) with
    | .infinite => none
    | r => some r
  else if f.isZero then some f
  else none

/-- the number of a significand and a power of ten that was read up to `rest` -/
def realNumber {n : Nat} (negative : Bool) (significand : Nat) (exponent : Int)
    (rest : Text) (shorter : rest.length < n) : Except Refusal (Taken Number n) :=
  match scale? (.ofNat significand) exponent with
  | some f => .ok ⟨.real negative f, rest, shorter⟩
  | none => .error (.here .numberRange rest)

/-! ## reading a number -/

/-- the powers of ten that are written out are below this bound -/
def exponentBound : Nat := Nat.pow 2 31

/-- the digits of a power of ten; those behind the one that passes the bound are left -/
def collectExponent (exponent : Nat) : List Char → Option Nat × List Char
  | [] => (some exponent, [])
  | c :: cs =>
    if exponent * 10 + digitValue c < exponentBound then
      collectExponent (exponent * 10 + digitValue c) cs
    else (none, cs)

/-- a power of ten without its sign, and the number that ends with it -/
def readPower (negative : Bool) (significand : Nat) (exponent : Int) (minus : Bool) :
    Reader Number
  | [] => .error (.here .endInValue [])
  | c :: s =>
    if isDigit c then
      let rest := (takeDigits s).2
      have shorter : rest.length < (c :: s).length := Nat.lt_succ_of_le (length_takeDigits s)
      match collectExponent 0 (c :: (takeDigits s).1) with
      | (some e, _) =>
        realNumber negative significand (if minus then exponent - e else exponent + e) rest shorter
      | (none, unread) =>
        if significand ≠ 0 ∧ minus = false then .error (.here .numberRange (unread ++ rest))
        else .ok ⟨.real negative (.finite 0 0), rest, shorter⟩
    else .error (.next .number (c :: s))

/-- a power of ten, behind its letter, and the number that ends with it -/
def readExponent (negative : Bool) (significand : Nat) (exponent : Int) : Reader Number
  | '+' :: s => (readPower negative significand exponent false s).map (·.widen (Nat.le_succ _))
  | '-' :: s => (readPower negative significand exponent true s).map (·.widen (Nat.le_succ _))
  | s => readPower negative significand exponent false s

/-- whether a power of ten begins -/
def isExponentMark (c : Char) : Bool := c = 'e' || c = 'E'

/-- what follows the digits of a number that is not kept whole -/
def finishReal {n : Nat} (negative : Bool) (significand : Nat) (exponent : Int)
    (rest : Text) (shorter : rest.length < n) : Except Refusal (Taken Number n) :=
  if rest.head?.any isExponentMark then
    (readExponent negative significand exponent rest.tail).map
      (·.widen (by rw [List.length_tail]; omega))
  else realNumber negative significand exponent rest shorter

/-- the digits behind a point, and the number that they belong to -/
def readFraction (negative : Bool) (significand : Nat) (exponent : Int) : Reader Number
  | [] => .error (.next .endInValue [])
  | c :: s =>
    if isDigit c then
      let digits := c :: (takeDigits s).1
      let (m, unused) := collect significand digits
      finishReal negative m (exponent - digits.length + unused.length) (takeDigits s).2
        (Nat.lt_succ_of_le (length_takeDigits s))
    else .error (.next .number (c :: s))

/-- the number of whole digits that are not followed by a point or a power of ten -/
def wholeNumber (negative : Bool) (significand : Nat) : Number :=
  if negative then
    if significand = 0 ∨ Nat.pow 2 63 < significand then .real true (.ofNat significand)
    else .negative significand
  else .natural significand

/-- what follows the digits of a whole number, `unused` of which found no room in the significand -/
def finishNumber {n : Nat} (negative : Bool) (significand : Nat) (unused : Nat)
    (rest : Text) (shorter : rest.length < n) : Except Refusal (Taken Number n) :=
  if rest.head? = some '.' then
    (readFraction negative significand unused rest.tail).map
      (·.widen (by rw [List.length_tail]; omega))
  else if unused ≠ 0 ∨ rest.head?.any isExponentMark then
    finishReal negative significand unused rest shorter
  else .ok ⟨wholeNumber negative significand, rest, shorter⟩

/-- a number, behind its sign -/
def readNumber (negative : Bool) : Reader Number
  | [] => .error (.here .endInValue [])
  | c :: s =>
    if c = '0' then
      if s.head?.any isDigit then .error (.next .number s)
      else finishNumber negative 0 0 s (Nat.lt_succ_self _)
    else if isDigit c then
      let (m, unused) := collect (digitValue c) (takeDigits s).1
      finishNumber negative m unused.length (takeDigits s).2
        (Nat.lt_succ_of_le (length_takeDigits s))
    else .error (.next .number (c :: s))

/-! ## passing over a number -/

/-- passes over at least one digit -/
def skipDigits : Reader Unit
  | [] => .error (.next .number [])
  | c :: s =>
    if isDigit c then .ok ⟨(), (takeDigits s).2, Nat.lt_succ_of_le (length_takeDigits s)⟩
    else .error (.next .number (c :: s))

/-- passes over the power of ten of a number, behind its letter -/
def skipExponent : Reader Unit
  | '+' :: s => (skipDigits s).map (·.widen (Nat.le_succ _))
  | '-' :: s => (skipDigits s).map (·.widen (Nat.le_succ _))
  | s => skipDigits s

/-- passes over the digits behind a point, and over a power of ten -/
def skipFraction : Reader Unit := fun s =>
  match skipDigits s with
  | .error e => .error e
  | .ok t =>
    if t.rest.head?.any isExponentMark then
      (skipExponent t.rest.tail).map
        (·.widen (by have := t.shorter; rw [List.length_tail]; omega))
    else .ok t

/-- passes over what follows the digits of a whole number -/
def skipNumberEnd {n : Nat} (rest : Text) (shorter : rest.length < n) :
    Except Refusal (Taken Unit n) :=
  if rest.head? = some '.' then
    (skipFraction rest.tail).map (·.widen (by rw [List.length_tail]; omega))
  else if rest.head?.any isExponentMark then
    (skipExponent rest.tail).map (·.widen (by rw [List.length_tail]; omega))
  else .ok ⟨(), rest, shorter⟩

/-- passes over a number, behind its sign -/
def skipNumber : Reader Unit
  | [] => .error (.here .number [])
  | c :: s =>
    if c = '0' then
      if s.head?.any isDigit then .error (.next .number s)
      else skipNumberEnd s (Nat.lt_succ_self _)
    else if isDigit c then
      skipNumberEnd (takeDigits s).2
        (Nat.lt_succ_of_le (length_takeDigits s))
    else .error (.next .number (c :: s))

end Workbench.Json
