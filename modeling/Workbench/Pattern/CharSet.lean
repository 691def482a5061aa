import Workbench.Text.Classes

/-!
# Sets of characters

What a bracketed class, a class escape or a dot denotes: a list of ranges of code points.  The
operations keep the ranges in increasing order and apart from each other, so two sets with the same
members are equal; membership itself does not depend on the order, and each operation has its
equation (`holds_insert`, `holds_union`, `holds_diff`, `holds_compl`, `holds_inter`).

Surrogates may lie within a range.  No character has such a code point, so they are never met.
-/

namespace Workbench.Pattern

/-! ## ranges -/

/-- the code points from `lo` to `hi`, ends included -/
structure Range where
  lo : Nat
  hi : Nat
  le : lo ≤ hi := by decide
  deriving DecidableEq, Repr

namespace Range

def holds (r : Range) (n : Nat) : Bool := r.lo ≤ n && n ≤ r.hi

/-- the range with the given ends, in either order -/
def between (a b : Nat) : Range := ⟨min a b, max a b, by omega⟩

def point (n : Nat) : Range := ⟨n, n, Nat.le_refl n⟩

/-- the least range that covers both -/
def join (r q : Range) : Range :=
  ⟨min r.lo q.lo, max r.hi q.hi, by have := r.le; have := q.le; omega⟩

/-- what is left of `q` without `r`: a part below and a part above -/
def cut (r q : Range) : List Range :=
  (if h : q.lo < r.lo then [⟨q.lo, min q.hi (r.lo - 1), by have := q.le; omega⟩] else [])
    ++ (if h : r.hi < q.hi then [⟨max q.lo (r.hi + 1), q.hi, by have := q.le; omega⟩] else [])

theorem holds_iff (r : Range) (n : Nat) : r.holds n = true ↔ r.lo ≤ n ∧ n ≤ r.hi := by
  simp [holds]

/-- two ranges that overlap or touch make one range -/
theorem holds_join {r q : Range} (h1 : q.lo ≤ r.hi + 1) (h2 : r.lo ≤ q.hi + 1) (n : Nat) :
    (r.join q).holds n = (r.holds n || q.holds n) := by
  have := r.le
  have := q.le
  rw [Bool.eq_iff_iff, Bool.or_eq_true, holds_iff, holds_iff, holds_iff]
  simp only [join]
  omega

theorem holds_cut (r q : Range) (n : Nat) :
    (r.cut q).any (·.holds n) = (q.holds n && !r.holds n) := by
  have := r.le
  have := q.le
  rw [cut]
  split <;> split <;> rw [Bool.eq_iff_iff] <;>
    simp only [List.nil_append, List.cons_append, List.any_cons, List.any_nil, Bool.or_false,
      Bool.or_eq_true, Bool.and_eq_true, Bool.not_eq_true', ← Bool.not_eq_true, holds_iff,
      Bool.false_eq_true, false_iff] <;> omega

end Range

/-! ## sets -/

structure CharSet where
  ranges : List Range
  deriving DecidableEq, Repr

namespace CharSet

/-- whether a code point is in the set -/
def holds (s : CharSet) (n : Nat) : Bool := s.ranges.any (·.holds n)

def contains (s : CharSet) (c : Char) : Bool := s.holds c.toNat

def none : CharSet := ⟨[]⟩

/-- every code point -/
def all : CharSet := ⟨[⟨0, 0x10FFFF, by decide⟩]⟩

/-- the code points below 0x80 -/
def ascii : CharSet := ⟨[⟨0, 0x7F, by decide⟩]⟩

def between (a b : Char) : CharSet := ⟨[.between a.toNat b.toNat]⟩

def single (c : Char) : CharSet := ⟨[.point c.toNat]⟩

def isEmpty (s : CharSet) : Bool := s.ranges.isEmpty

/-- the only member of a set of one character -/
def single? (s : CharSet) : Option Char :=
  match s.ranges with
  | [r] => if r.lo = r.hi then some (Char.ofNat r.lo) else Option.none
  | _ => Option.none

/-! ## adding and removing ranges -/

/-- puts a range into its place and joins it with those that it touches -/
def insertRange (r : Range) : List Range → List Range
  | [] => [r]
  | q :: qs =>
    if r.hi + 1 < q.lo then r :: q :: qs
    else if q.hi + 1 < r.lo then q :: insertRange r qs
    else insertRange (r.join q) qs

def insert (s : CharSet) (r : Range) : CharSet := ⟨insertRange r s.ranges⟩

def remove (s : CharSet) (r : Range) : CharSet := ⟨s.ranges.flatMap r.cut⟩

def union (a b : CharSet) : CharSet := b.ranges.foldl insert a

def diff (a b : CharSet) : CharSet := b.ranges.foldl remove a

def compl (a : CharSet) : CharSet := all.diff a

def inter (a b : CharSet) : CharSet := a.diff (a.diff b)

def symmDiff (a b : CharSet) : CharSet := (a.diff b).union (b.diff a)

@[simp] theorem holds_insert (s : CharSet) (r : Range) (n : Nat) :
    (s.insert r).holds n = (s.holds n || r.holds n) := by
  obtain ⟨qs⟩ := s
  show (insertRange r qs).any (·.holds n) = (qs.any (·.holds n) || r.holds n)
  induction qs generalizing r with
  | nil => simp [insertRange]
  | cons q qs ih =>
    rw [insertRange]
    split
    · rw [List.any_cons, Bool.or_comm]
    · split
      · rw [List.any_cons, ih, List.any_cons, Bool.or_assoc]
      · next h1 h2 =>
        rw [ih, Range.holds_join (by omega) (by omega), List.any_cons]
        cases q.holds n <;> cases r.holds n <;> simp

@[simp] theorem holds_remove (s : CharSet) (r : Range) (n : Nat) :
    (s.remove r).holds n = (s.holds n && !r.holds n) := by
  obtain ⟨qs⟩ := s
  show (qs.flatMap r.cut).any (·.holds n) = (qs.any (·.holds n) && !r.holds n)
  induction qs with
  | nil => rfl
  | cons q qs ih =>
    rw [List.flatMap_cons, List.any_append, Range.holds_cut, ih, List.any_cons]
    cases q.holds n <;> cases r.holds n <;> simp

@[simp] theorem holds_union (a b : CharSet) (n : Nat) :
    (a.union b).holds n = (a.holds n || b.holds n) := by
  obtain ⟨qs⟩ := b
  show (qs.foldl insert a).holds n = (a.holds n || qs.any (·.holds n))
  induction qs generalizing a with
  | nil => simp
  | cons q qs ih => rw [List.foldl_cons, ih, holds_insert, List.any_cons, Bool.or_assoc]

@[simp] theorem holds_diff (a b : CharSet) (n : Nat) :
    (a.diff b).holds n = (a.holds n && !b.holds n) := by
  obtain ⟨qs⟩ := b
  show (qs.foldl remove a).holds n = (a.holds n && !qs.any (·.holds n))
  induction qs generalizing a with
  | nil => simp
  | cons q qs ih =>
    rw [List.foldl_cons, ih, holds_remove, List.any_cons, Bool.not_or, Bool.and_assoc]

@[simp] theorem holds_inter (a b : CharSet) (n : Nat) :
    (a.inter b).holds n = (a.holds n && b.holds n) := by
  rw [inter, holds_diff, holds_diff]
  cases a.holds n <;> cases b.holds n <;> rfl

@[simp] theorem holds_symmDiff (a b : CharSet) (n : Nat) :
    (a.symmDiff b).holds n = (a.holds n != b.holds n) := by
  rw [symmDiff, holds_union, holds_diff, holds_diff]
  cases a.holds n <;> cases b.holds n <;> rfl

/-- every code point is in a set or in its complement -/
theorem holds_compl (a : CharSet) (n : Nat) (h : n ≤ 0x10FFFF) :
    a.compl.holds n = !a.holds n := by
  rw [compl, holds_diff]
  have : all.holds n = true := by simp [all, holds, Range.holds, h]
  rw [this, Bool.true_and]

@[simp] theorem holds_single (c : Char) (n : Nat) : (single c).holds n = decide (n = c.toNat) := by
  rw [Bool.eq_iff_iff]
  simp [single, holds, Range.holds, Range.point]
  omega

@[simp] theorem contains_single (a c : Char) : (single a).contains c = decide (c = a) := by
  rw [contains, holds_single, decide_eq_decide, Char.toNat_inj]

/-! ## words, digits, blanks -/

/-- the ranges of a table, which are in order -/
def ofTable (table : List (Nat × Nat)) : CharSet := ⟨table.map fun r => .between r.1 r.2⟩

def asciiDigit : CharSet := between '0' '9'

def asciiWord : CharSet :=
  ofTable [(0x30, 0x39), (0x41, 0x5A), (0x5F, 0x5F), (0x61, 0x7A)]

def asciiBlank : CharSet := ofTable [(0x09, 0x0D), (0x20, 0x20)]

def digit : CharSet := ⟨asciiDigit.ranges ++ (ofTable Text.digitTable).ranges⟩

def word : CharSet := ⟨asciiWord.ranges ++ (ofTable Text.wordTable).ranges⟩

def blank : CharSet := ofTable Text.blankTable

/-! ## case -/

/-- a set with the code points that fold to the same one as a member, for pairs of a code point and
what it folds to -/
def closeUnder (pairs : List (Nat × Nat)) (s : CharSet) : CharSet :=
  let folded := pairs.foldl (fun t p => if s.holds p.1 then t.insert (.point p.2) else t) s
  pairs.foldl (fun t p => if folded.holds p.2 then t.insert (.point p.1) else t) folded

/-- the same set without regard to case -/
def ignoreCase (s : CharSet) : CharSet := s.closeUnder Text.foldPairs

/-- the same set without regard to the case of the ASCII letters -/
def ignoreAsciiCase (s : CharSet) : CharSet :=
  s.closeUnder ((List.range 26).map fun i => (0x41 + i, 0x61 + i))

end CharSet

end Workbench.Pattern
