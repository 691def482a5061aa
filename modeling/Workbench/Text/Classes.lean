import Workbench.Text.WordTable
import Workbench.Text.DigitTable
import Workbench.Text.FoldTable

/-!
# Classes of characters

Words, decimal digits, blanks, and the pairs of simple case folding, for all of Unicode.
ASCII is decided without the tables, which begin at U+0080.  Hexadecimal digits are in ASCII.
-/

namespace Workbench.Text

/-- whether a sorted list of ranges covers a code point; the search stops at the first range
beyond -/
def covers : List (Nat × Nat) → Nat → Bool
  | [], _ => false
  | (lo, hi) :: ranges, n =>
    if n < lo then false else if n ≤ hi then true else covers ranges n

@[simp] theorem covers_nil (n : Nat) : covers [] n = false := rfl

/-! ## words, digits, blanks -/

def isDigit (c : Char) : Bool :=
  if c.toNat < 0x80 then '0' ≤ c && c ≤ '9' else covers digitTable c.toNat

/-- the value of a hexadecimal digit, in lower or upper case -/
def hexValue? (c : Char) : Option Nat :=
  if '0' ≤ c ∧ c ≤ '9' then some (c.toNat - '0'.toNat)
  else if 'a' ≤ c ∧ c ≤ 'f' then some (c.toNat - 'a'.toNat + 10)
  else if 'A' ≤ c ∧ c ≤ 'F' then some (c.toNat - 'A'.toNat + 10)
  else none

def isAsciiLetter (c : Char) : Bool :=
  ('a' ≤ c && c ≤ 'z') || ('A' ≤ c && c ≤ 'Z')

def isWord (c : Char) : Bool :=
  if c.toNat < 0x80 then isAsciiLetter c || ('0' ≤ c && c ≤ '9') || c = '_'
  else covers wordTable c.toNat

/-- the twenty-five characters with the property White_Space -/
def blankTable : List (Nat × Nat) := [
  (0x09, 0x0D), (0x20, 0x20), (0x85, 0x85), (0xA0, 0xA0), (0x1680, 0x1680), (0x2000, 0x200A),
  (0x2028, 0x2029), (0x202F, 0x202F), (0x205F, 0x205F), (0x3000, 0x3000)]

def isBlank (c : Char) : Bool := covers blankTable c.toNat

/-! ## case -/

/-- each code point of a run of the folding table, with the one that it folds to -/
def foldRun (run : Nat × Nat × Nat × Int) : List (Nat × Nat) :=
  let (first, last, stride, shift) := run
  (List.range ((last - first) / stride + 1)).map fun i =>
    (first + stride * i, ((first + stride * i : Nat) + shift).toNat)

/-- the code points that simple case folding moves, with those that they move to -/
def foldPairs : List (Nat × Nat) := foldTable.flatMap foldRun

end Workbench.Text
