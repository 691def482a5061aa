import Workbench.Pattern.Regex

/-!
# Expressions in their simplest form

The functions that build larger expressions from smaller ones: `ofSet`, `concat`, `oneOf`,
`repeated`.  They write an expression in one form: a set of one character is a text, neighbouring
texts are one text, sequences and choices do not nest on the left, a choice between single
characters or between sets is a set, and a choice whose sides begin alike begins with what they
share.  The form decides how large the program of an expression becomes.

`minLength` and `maxLength` are bounds on the bytes of a match; an expression that never matches has
neither.
-/

namespace Workbench.Pattern

/-! ## lengths -/

/-- the bytes of the UTF-8 form of a code point -/
def codeLength (n : Nat) : Nat :=
  if n < 0x80 then 1 else if n < 0x800 then 2 else if n < 0x10000 then 3 else 4

/-- both bounds, combined -/
def both (f : Nat → Nat → Nat) : Option Nat → Option Nat → Option Nat
  | some a, some b => some (f a b)
  | _, _ => none

namespace Regex

/-- the bytes of the shortest match, if there can be one -/
def minLength : Regex → Option Nat
  | .empty => some 0
  | .text t => some (Text.bytes t)
  | .set s => s.ranges.head?.map fun r => codeLength r.lo
  | .look _ => some 0
  | .seq a b => both (· + ·) a.minLength b.minLength
  | .alt a b => both min a.minLength b.minLength
  | .rep least _ _ a => a.minLength.map (· * least)
  | .group _ a => a.minLength

/-- the bytes of the longest match, if there can be one and it has a bound -/
def maxLength : Regex → Option Nat
  | .empty => some 0
  | .text t => some (Text.bytes t)
  | .set s => s.ranges.getLast?.map fun r => codeLength r.hi
  | .look _ => some 0
  | .seq a b => both (· + ·) a.maxLength b.maxLength
  | .alt a b => both max a.maxLength b.maxLength
  | .rep _ none _ _ => none
  | .rep _ (some most) _ a => a.maxLength.map (· * most)
  | .group _ a => a.maxLength

/-! ## sets and sequences -/

def ofSet (s : CharSet) : Regex :=
  match s.single? with
  | some c => .text [c]
  | none => .set s

/-- the parts of a sequence -/
def items : Regex → List Regex
  | .empty => []
  | .seq a b => a :: b.items
  | r => [r]

/-- neighbouring texts joined -/
def joinTexts : List Regex → List Regex
  | [] => []
  | .text s :: rs =>
    match joinTexts rs with
    | .text t :: rest => .text (s ++ t) :: rest
    | rest => .text s :: rest
  | r :: rs => r :: joinTexts rs

/-- a sequence of the given parts -/
def chain : List Regex → Regex
  | [] => .empty
  | [r] => r
  | r :: rs => .seq r (chain rs)

def concat (rs : List Regex) : Regex := chain (joinTexts (rs.flatMap items))

/-! ## choices -/

/-- the sides of a choice -/
def branches : Regex → List Regex
  | .alt a b => a :: b.branches
  | r => [r]

/-- a choice between the given sides; without any it never matches -/
def fork : List Regex → Regex
  | [] => .set .none
  | [r] => r
  | r :: rs => .alt r (fork rs)

/-- the only character of a text -/
def letter? : Regex → Option CharSet
  | .text [c] => some (.single c)
  | _ => none

def set? : Regex → Option CharSet
  | .set s => some s
  | _ => none

def isSeq : Regex → Bool
  | .seq _ _ => true
  | _ => false

/-- the choice between sides that are no choices themselves and do not begin alike -/
def pick (rs : List Regex) : Regex :=
  match rs with
  | [r] => r
  | _ =>
    match rs.mapM letter? with
    | some sets => ofSet (sets.foldl .union .none)
    | none =>
      match rs.mapM set? with
      | some sets => ofSet (sets.foldl .union .none)
      | none => fork rs

/-- the longest list that both begin with -/
def sharedPrefix : List Regex → List Regex → List Regex
  | a :: as, b :: bs => if a = b then a :: sharedPrefix as bs else []
  | _, _ => []

/-- what all sides begin with, if they are sequences -/
def sharedStart (rs : List Regex) : List Regex :=
  match rs with
  | [] => []
  | r :: rest =>
    if rs.all isSeq then rest.foldl (fun shared s => sharedPrefix shared s.items) r.items else []

def oneOf (rs : List Regex) : Regex :=
  let sides := rs.flatMap branches
  match sides with
  | [r] => r
  | _ =>
    match sharedStart sides with
    | [] => pick sides
    | shared =>
      let ends := sides.map fun s => concat (s.items.drop shared.length)
      concat (shared ++ [pick (ends.flatMap branches)])

/-! ## repetitions -/

/-- A repetition of what passes no character is at most one round. -/
def repeated (r : Regex) (least : Nat) (most : Option Nat) (greedy : Bool) : Regex :=
  let (least, most) :=
    if r.maxLength = some 0 then (min least 1, some ((most.getD 1).min 1)) else (least, most)
  if most = some 0 ∧ least = 0 then .empty
  else if least = 1 ∧ most = some 1 then r
  else .rep least most greedy r

/-! ## matches that are held at an end of the text -/

/-- whether every match begins at the start of the text, seen from the form of the expression -/
def anchored : Regex → Bool
  | .look .textStart => true
  | .seq a b => a.anchored || (a.maxLength = some 0 && b.anchored)
  | .alt a b => a.anchored && b.anchored
  | .rep least _ _ a => 0 < least && a.anchored
  | .group _ a => a.anchored
  | _ => false

/-- whether every match ends at the end of the text, seen from the form of the expression -/
def anchoredEnd : Regex → Bool
  | .look .textEnd => true
  | .seq a b => b.anchoredEnd || (b.maxLength = some 0 && a.anchoredEnd)
  | .alt a b => a.anchoredEnd && b.anchoredEnd
  | .rep least _ _ a => 0 < least && a.anchoredEnd
  | .group _ a => a.anchoredEnd
  | _ => false

end Regex

end Workbench.Pattern
