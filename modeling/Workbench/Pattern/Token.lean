import Workbench.Pattern.Bracket

/-!
# The tokens of a pattern

A pattern is read token by token: a part that denotes an expression by itself, a bar, an end of a
group, flags, or a repetition.  A token is complete (a bracketed class is one token, so is
`{2,5}?`), so what is left for the parser is the nesting of groups.
-/

namespace Workbench.Pattern

inductive Token where
  /-- an expression, and how many levels of classes it has -/
  | part (r : Regex) (depth : Nat)
  | bar
  /-- a group that has a number if it is `captured`, and can have a name -/
  | openGroup (captured : Bool) (name : Option Text) (changes : List (Flag × Bool))
  | setFlags (changes : List (Flag × Bool))
  | close
  | rep (least : Nat) (most : Option Nat) (greedy : Bool)
  deriving DecidableEq, Repr

/-! ## groups and flags -/

def flagOf? : Char → Option Flag
  | 'i' => some .ignoreCase
  | 'm' => some .multiLine
  | 's' => some .dotAll
  | 'U' => some .swapGreed
  | 'R' => some .crlf
  | 'u' => some .unicode
  | 'x' => some .verbose
  | _ => none

/-- the flags behind `(?`, each once, those behind a hyphen switched off -/
def readFlags : (off : Bool) → (changes : List (Flag × Bool)) → Text → Reader Token
  | _, _, [] => .error .badFlag
  | off, changes, c :: rest =>
    if c = ':' ∨ c = ')' then
      if off && changes.all (·.2) then .error .badFlag
      else if c = ':' then .ok (.openGroup false none changes, rest)
      else if changes.isEmpty then .error .nothingToRepeat
      else .ok (.setFlags changes, rest)
    else if c = '-' then
      if off then .error .badFlag else readFlags true changes rest
    else
      match flagOf? c with
      | none => .error .badFlag
      | some f =>
        if changes.any (·.1 == f) then .error .badFlag
        else readFlags off (changes ++ [(f, !off)]) rest

/-- A name begins with a letter or an underscore; digits, points and brackets can follow. -/
def isGroupName : Text → Bool
  | [] => false
  | c :: name =>
    let starts (c : Char) : Bool := c = '_' || Property.isAlphabetic c
    starts c && name.all fun d =>
      starts d || d = '.' || d = '[' || d = ']' || Property.isNumeric d

/-- the name of a group, up to its closing angle -/
def readGroupName (t : Text) : Reader Token :=
  let name := t.takeWhile (· ≠ '>')
  match t.drop name.length with
  | [] => .error .badGroupName
  | _ :: rest =>
    if isGroupName name then .ok (.openGroup true (some name) [], rest) else .error .badGroupName

/-- a group behind its opening parenthesis -/
def readGroup (flags : Flags) (t : Text) : Reader Token :=
  match flags.skip t with
  | '?' :: '=' :: _ | '?' :: '!' :: _ | '?' :: '<' :: '=' :: _ | '?' :: '<' :: '!' :: _ =>
    .error .lookAround
  | '?' :: 'P' :: '<' :: rest | '?' :: '<' :: rest => readGroupName rest
  | '?' :: rest => readFlags false [] rest
  | rest => .ok (.openGroup true none [], rest)

/-! ## repetitions -/

/-- the largest count -/
def countLimit : Nat := Nat.pow 2 32 - 1

/-- decimal digits with blanks around them -/
def readCount (flags : Flags) (t : Text) : Except PatternError (Option Nat × Text) :=
  let (digits, rest) :=
    flags.span (fun c => '0' ≤ c && c ≤ '9') t.length (t.dropWhile Text.isBlank)
  let value := digits.foldl (fun n c => 10 * n + (c.toNat - '0'.toNat)) 0
  if digits.isEmpty then .ok (none, rest)
  else if value ≤ countLimit then .ok (some value, rest.dropWhile Text.isBlank)
  else .error .badRepetition

/-- a question mark behind a repetition makes it lazy -/
def readLaziness (least : Nat) (most : Option Nat) : Text → Token × Text
  | '?' :: rest => (.rep least most false, rest)
  | rest => (.rep least most true, rest)

/-- the closing brace of a counted repetition, whose bounds must be in order -/
def closeCount (flags : Flags) (least : Nat) (most : Option Nat) : Text → Reader Token
  | '\x7d' :: rest =>
    if most.all (least ≤ ·) then .ok (readLaziness least most (flags.skip rest))
    else .error .badRepetition
  | _ => .error .badRepetition

/-- a counted repetition behind its opening brace -/
def readCounted (flags : Flags) (t : Text) : Reader Token :=
  match readCount flags (flags.skip t) with
  | .ok (some least, ',' :: rest) =>
    match flags.skip rest with
    | '\x7d' :: rest => closeCount flags least none ('\x7d' :: rest)
    | rest =>
      match readCount flags rest with
      | .ok (some most, rest) => closeCount flags least (some most) rest
      | _ => .error .badRepetition
  | .ok (some least, rest) => closeCount flags least (some least) rest
  | _ => .error .badRepetition

/-! ## all tokens -/

/-- the expression of a single part -/
def Primitive.regex (flags : Flags) : Primitive → Except PatternError Regex
  | .char c isByte =>
    if isByte && !flags.unicode && 0x80 ≤ c.toNat then .error .needsUnicode
    else .ok (flags.letter c)
  | .set s => .ok (.ofSet s)
  | .look l => .ok (.look l)

/-- the token that begins with the given character -/
def readToken (flags : Flags) (c : Char) (rest : Text) : Reader Token :=
  match c with
  | '\\' =>
    match readEscape flags rest with
    | .error e => .error e
    | .ok (primitive, rest) => (primitive.regex flags).map fun r => (.part r 0, rest)
  | '[' =>
    (readClass flags (2 * rest.length + 3) rest).map fun r =>
      (.part (.ofSet r.1.1) r.1.2, r.2)
  | '(' => readGroup flags rest
  | ')' => .ok (.close, rest)
  | '|' => .ok (.bar, rest)
  | '.' => flags.dot.map fun r => (.part r 0, rest)
  | '^' => .ok (.part (.look flags.caret) 0, rest)
  | '$' => .ok (.part (.look flags.dollar) 0, rest)
  | '*' => .ok (readLaziness 0 none rest)
  | '+' => .ok (readLaziness 1 none rest)
  | '?' => .ok (readLaziness 0 (some 1) rest)
  | '\x7b' => readCounted flags rest
  | _ => .ok (.part (flags.letter c) 0, rest)

end Workbench.Pattern
