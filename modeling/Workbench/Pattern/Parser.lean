import Workbench.Pattern.Room
import Workbench.Pattern.Token

/-!
# Reading a pattern

The parser takes one token after the other and keeps the groups that are still open.  A group
collects the items of its current branch and the branches before it; when it closes it becomes one
item of the group around it.  Flags hold from where they are set to the end of the group, across
branches.

A pattern that nests too deeply is refused, and so is one whose expression takes too much room.
-/

namespace Workbench.Pattern

/-! ## groups -/

/-- part of a branch, with the number of levels within it -/
structure Item where
  regex : Regex
  depth : Nat
  repeatable : Bool := true
  deriving DecidableEq, Repr

/-- the levels of a list of parts: several parts make a level of their own -/
def levelsOf (depths : List Nat) : Nat :=
  let deepest := depths.foldl max 0
  if depths.length ≤ 1 then deepest else deepest + 1

/-- an open group, with its number if it has one; branches and items are listed newest first -/
structure Group where
  flags : Flags
  index : Option Nat
  branches : List (Regex × Nat)
  items : List Item
  deriving DecidableEq, Repr

namespace Group

def empty (flags : Flags) (index : Option Nat) : Group := ⟨flags, index, [], []⟩

def push (g : Group) (r : Regex) (depth : Nat) : Group :=
  { g with items := ⟨r, depth, true⟩ :: g.items }

/-- the branch that is being read, with its levels -/
def branch (g : Group) : Regex × Nat :=
  (.concat (g.items.reverse.map Item.regex), levelsOf (g.items.map Item.depth))

def endBranch (g : Group) : Group := { g with branches := g.branch :: g.branches, items := [] }

/-- what stands between the parentheses once the group is complete -/
def body (g : Group) : Regex × Nat :=
  let branches := (g.branch :: g.branches).reverse
  (.oneOf (branches.map Prod.fst), levelsOf (branches.map Prod.snd))

/-- what the group denotes -/
def regex (g : Group) : Regex :=
  match g.index with
  | some n => .group n g.body.1
  | none => g.body.1

/-- Flags are an item too, but none that can be repeated. -/
def setFlags (g : Group) (changes : List (Flag × Bool)) : Group :=
  { g with flags := g.flags.setAll changes, items := ⟨.empty, 0, false⟩ :: g.items }

def repeatLast (g : Group) (least : Nat) (most : Option Nat) (greedy : Bool) :
    Except PatternError Group :=
  match g.items with
  | ⟨r, depth, true⟩ :: items =>
    let repeated := r.repeated least most (greedy != g.flags.swapGreed)
    .ok { g with items := ⟨repeated, depth + 1, true⟩ :: items }
  | _ => .error .nothingToRepeat

end Group

/-! ## the parser -/

/-- the innermost open group and those around it, the names of groups, and how many were numbered -/
structure OpenGroups where
  inner : Group
  outer : List Group
  names : List Text
  count : Nat

namespace OpenGroups

def start : OpenGroups := ⟨.empty {} none, [], [], 0⟩

def withInner (groups : OpenGroups) (g : Group) : OpenGroups := { groups with inner := g }

/-- opens a group; a name can be given once -/
def openGroup (groups : OpenGroups) (captured : Bool) (name : Option Text)
    (changes : List (Flag × Bool)) : Except PatternError OpenGroups :=
  let count := if captured then groups.count + 1 else groups.count
  let flags := groups.inner.flags.setAll changes
  let inner := Group.empty flags (if captured then some count else none)
  if name.any groups.names.contains then .error .badGroupName
  else .ok ⟨inner, groups.inner :: groups.outer, name.toList ++ groups.names, count⟩

def take (groups : OpenGroups) : Token → Except PatternError OpenGroups
  | .part r depth => .ok (groups.withInner (groups.inner.push r depth))
  | .bar => .ok (groups.withInner groups.inner.endBranch)
  | .openGroup captured name changes => groups.openGroup captured name changes
  | .setFlags changes => .ok (groups.withInner (groups.inner.setFlags changes))
  | .close =>
    match groups.outer with
    | [] => .error .unopenedGroup
    | parent :: outer =>
      let closed := parent.push groups.inner.regex (groups.inner.body.2 + 1)
      .ok { groups with inner := closed, outer := outer }
  | .rep least most greedy =>
    (groups.inner.repeatLast least most greedy).map groups.withInner

/-- how deeply a pattern may nest -/
def depthLimit : Nat := 250

/-- the expression once the pattern is at its end -/
def finish (groups : OpenGroups) : Except PatternError Regex :=
  match groups.outer with
  | _ :: _ => .error .unclosedGroup
  | [] =>
    let (r, depth) := groups.inner.body
    if depthLimit < depth then .error .tooNested
    else if r.fits then .ok r
    else .error .tooLarge

/-- reads the rest of a pattern, which is no longer than the fuel -/
def read : (fuel : Nat) → OpenGroups → Text → Except PatternError Regex
  | fuel, groups, t =>
    match fuel, groups.inner.flags.skip t with
    | _, [] => groups.finish
    | 0, _ :: _ => groups.finish
    | fuel + 1, c :: rest =>
      match readToken groups.inner.flags c rest with
      | .error e => .error e
      | .ok (token, rest) =>
        match groups.take token with
        | .error e => .error e
        | .ok groups => read fuel groups rest

end OpenGroups

/-- The expression that a pattern denotes. -/
def Regex.parse (t : Text) : Except PatternError Regex := OpenGroups.start.read t.length t

end Workbench.Pattern
