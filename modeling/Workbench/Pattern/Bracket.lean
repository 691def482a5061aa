import Workbench.Pattern.Escape

/-!
# Bracketed classes

A class is a union of characters, ranges, escapes, named classes and classes within it.  Unions can
be intersected with one another, subtracted from one another, and so on; these operations have one
precedence and group to the left.

Readers that call each other are bounded by the length of the pattern.
-/

namespace Workbench.Pattern

/-! ## operations -/

inductive SetOp where
  | inter
  | diff
  | symmDiff
  deriving DecidableEq, Repr

/-- the operation of a sign -/
def SetOp.ofSign? : Char → Option SetOp
  | '&' => some .inter
  | '-' => some .diff
  | '~' => some .symmDiff
  | _ => none

def SetOp.apply : SetOp → CharSet → CharSet → CharSet
  | .inter, a, b => a.inter b
  | .diff, a, b => a.diff b
  | .symmDiff, a, b => a.symmDiff b

/-- the items of a union read so far; `depth` is that of the item with the most levels within -/
structure SetUnion where
  set : CharSet := .none
  count : Nat := 0
  depth : Nat := 0
  deriving DecidableEq, Repr

namespace SetUnion

def add (u : SetUnion) (s : CharSet) (depth : Nat) : SetUnion :=
  ⟨u.set.union s, u.count + 1, max u.depth depth⟩

/-- a union of several items is a level of its own -/
def levels (u : SetUnion) : Nat := if u.count ≤ 1 then u.depth else u.depth + 1

end SetUnion

/-- what stands on the left of an operation, with its levels -/
abbrev Pending := Option (SetOp × CharSet × Nat)

/-- a union as the right side of the operation before it -/
def closeUnion (flags : Flags) : Pending → SetUnion → CharSet × Nat
  | none, u => (u.set, u.levels)
  | some (op, a, depth), u =>
    (op.apply (flags.fold a) (flags.fold u.set), max depth u.levels + 1)

/-! ## items -/

/-- one character or escape inside brackets -/
def readClassItem (flags : Flags) : Text → Reader Primitive
  | [] => .error .unclosedClass
  | '\\' :: rest => readEscape flags rest
  | c :: rest => .ok (.char c false, rest)

/-- what an item of a class denotes by itself; a condition on a place is none -/
def classItemSet (flags : Flags) : Primitive → Except PatternError CharSet
  | .char c _ =>
    if flags.unicode ∨ c.toNat < 0x80 then .ok (.single c) else .error .needsUnicode
  | .set s => .ok s
  | .look _ => .error .badEscape

/-- the set between two items -/
def classRange (flags : Flags) : Primitive → Primitive → Except PatternError CharSet
  | .char lo _, .char hi _ =>
    if hi.toNat < lo.toNat then .error .badRange
    else if flags.unicode ∨ hi.toNat < 0x80 then .ok (.between lo hi)
    else .error .needsUnicode
  | _, _ => .error .badRange

/-- an item of a class, or a range if a hyphen follows that is neither last nor doubled -/
def readClassRange (flags : Flags) (t : Text) : Reader CharSet :=
  match readClassItem flags t with
  | .error e => .error e
  | .ok (first, rest) =>
    match flags.skip rest with
    | [] => .error .unclosedClass
    | '-' :: after =>
      if flags.peek after = some ']' ∨ flags.peek after = some '-' then
        (classItemSet flags first).map (·, '-' :: after)
      else
        match readClassItem flags (flags.skip after) with
        | .error e => .error e
        | .ok (last, rest) => (classRange flags first last).map (·, rest)
    | rest => (classItemSet flags first).map (·, rest)

/-! ## named classes -/

def asciiClassOf? (name : Text) : Option CharSet :=
  match String.ofList name with
  | "alnum" => some (.ofTable [(0x30, 0x39), (0x41, 0x5A), (0x61, 0x7A)])
  | "alpha" => some (.ofTable [(0x41, 0x5A), (0x61, 0x7A)])
  | "ascii" => some .ascii
  | "blank" => some (.ofTable [(0x09, 0x09), (0x20, 0x20)])
  | "cntrl" => some (.ofTable [(0x00, 0x1F), (0x7F, 0x7F)])
  | "digit" => some .asciiDigit
  | "graph" => some (.ofTable [(0x21, 0x7E)])
  | "lower" => some (.ofTable [(0x61, 0x7A)])
  | "print" => some (.ofTable [(0x20, 0x7E)])
  | "punct" => some (.ofTable [(0x21, 0x2F), (0x3A, 0x40), (0x5B, 0x60), (0x7B, 0x7E)])
  | "space" => some .asciiBlank
  | "upper" => some (.ofTable [(0x41, 0x5A)])
  | "word" => some .asciiWord
  | "xdigit" => some (.ofTable [(0x30, 0x39), (0x41, 0x46), (0x61, 0x66)])
  | _ => none

/-- a named class behind its opening bracket; text of another form is no named class -/
def namedClass? : Text → Option (Bool × CharSet × Text)
  | ':' :: rest =>
    let negated := rest.head? == some '^'
    let rest := if negated then rest.tail else rest
    let name := rest.takeWhile (· ≠ ':')
    match rest.drop name.length with
    | ':' :: ']' :: after => (asciiClassOf? name).map fun s => (negated, s, after)
    | _ => none
  | _ => none

/-! ## classes -/

/-- the hyphens at the head of a class, which are literal -/
def leadingHyphens (flags : Flags) (u : SetUnion) : (fuel : Nat) → Text → SetUnion × Text
  | fuel + 1, '-' :: rest => leadingHyphens flags (u.add (.single '-') 0) fuel (flags.skip rest)
  | _, rest => (u, rest)

/-- the first items of a class, where hyphens are literal, and so is a closing bracket in the first
place -/
def classHead (flags : Flags) : Text → SetUnion × Text
  | ']' :: rest => (SetUnion.add {} (.single ']') 0, flags.skip rest)
  | rest => leadingHyphens flags {} rest.length rest

/-- one token of the body of a class -/
inductive ClassToken where
  /-- the closing bracket -/
  | close
  /-- an item, with its levels -/
  | item (s : CharSet) (depth : Nat)
  | op (o : SetOp)
  deriving DecidableEq, Repr

/-- an operation at the front of a text, whose sign is doubled -/
def setOp? : Text → Option (SetOp × Text)
  | c :: d :: rest => if c = d then (SetOp.ofSign? c).map (·, rest) else none
  | _ => none

/-- what an opening bracket begins inside a class: a named class, or one that `nested` reads -/
def readInnerClass (flags : Flags) (nested : Text → Reader (CharSet × Nat)) (t : Text) :
    Reader (CharSet × Nat) :=
  match namedClass? t with
  | some (negated, s, rest) => (flags.negate negated (flags.fold s)).map fun s => ((s, 0), rest)
  | none => nested t

/-- the next token of the body of a class -/
def readClassToken (flags : Flags) (nested : Text → Reader (CharSet × Nat)) :
    Text → Reader ClassToken
  | [] => .error .unclosedClass
  | c :: rest =>
    if c = ']' then .ok (.close, rest)
    else if c = '[' then
      (readInnerClass flags nested rest).map fun r => (.item r.1.1 r.1.2, r.2)
    else
      match setOp? (c :: rest) with
      | some (o, rest) => .ok (.op o, rest)
      | none => (readClassRange flags (c :: rest)).map fun r => (.item r.1 0, r.2)

mutual

/-- a class behind its opening bracket, with its levels -/
def readClass (flags : Flags) : (fuel : Nat) → Text → Reader (CharSet × Nat)
  | 0, _ => .error .unclosedClass
  | fuel + 1, t =>
    let t := flags.skip t
    let negated := t.head? == some '^'
    let (head, rest) := classHead flags (if negated then flags.skip t.tail else t)
    match readClassBody flags fuel none head rest with
    | .error e => .error e
    | .ok ((set, depth), rest) =>
      (flags.negate negated (flags.fold set)).map fun s => ((s, depth + 1), rest)

/-- the items and operations of a class up to its closing bracket -/
def readClassBody (flags : Flags) : (fuel : Nat) → Pending → SetUnion → Text →
    Reader (CharSet × Nat)
  | 0, _, _, _ => .error .unclosedClass
  | fuel + 1, pending, u, t =>
    match readClassToken flags (readClass flags fuel) (flags.skip t) with
    | .error e => .error e
    | .ok (.close, rest) => .ok (closeUnion flags pending u, rest)
    | .ok (.item s depth, rest) => readClassBody flags fuel pending (u.add s depth) rest
    | .ok (.op o, rest) => readClassBody flags fuel (some (o, closeUnion flags pending u)) {} rest

end

end Workbench.Pattern
