import Workbench.Pattern.Flags
import Workbench.Pattern.Property

/-!
# Escapes

What can stand behind a backslash: a character by its code, a class, a property, a condition on a
place, or a sign that stands for itself.
-/

namespace Workbench.Pattern

/-- One part of a pattern.  A character that was written as a byte, by two hexadecimal digits, is
one only below 0x80. -/
inductive Primitive where
  | char (c : Char) (isByte : Bool)
  | set (s : CharSet)
  | look (l : Look)
  deriving DecidableEq, Repr

/-! ## characters by their code -/

/-- the character with the given hexadecimal code -/
def charOfHex? (digits : Text) : Option Char :=
  match digits.mapM Text.hexValue? with
  | none | some [] => none
  | some values =>
    let n := values.foldl (fun n d => 16 * n + d) 0
    if n.isValidChar then some (Char.ofNat n) else none

/-- exactly `count` characters, with blanks between them -/
def takeSpaced (flags : Flags) : (count : Nat) → Text → Text × Text
  | count + 1, c :: t =>
    let (word, rest) := takeSpaced flags count (flags.skip t)
    (c :: word, rest)
  | _, t => ([], t)

/-- `width` hexadecimal digits, or any number of them in braces -/
def readHex (flags : Flags) (width : Nat) (t : Text) : Reader Primitive :=
  match flags.skip t with
  | '\x7b' :: rest =>
    match flags.span (· ≠ '\x7d') rest.length (flags.skip rest) with
    | (digits, '\x7d' :: rest) =>
      match charOfHex? digits with
      | some c => .ok (.char c false, flags.skip rest)
      | none => .error .badEscape
    | _ => .error .badEscape
  | rest =>
    let (digits, rest) := takeSpaced flags width rest
    match charOfHex? digits with
    | some c =>
      if digits.length = width then .ok (.char c (width = 2), rest) else .error .badEscape
    | none => .error .badEscape

/-! ## properties -/

/-- the parts of a text before and behind the first occurrence of a separator -/
def cutAt? (separator : Text) : Text → Option (Text × Text)
  | [] => none
  | c :: t =>
    if separator.isPrefixOf (c :: t) then some ([], (c :: t).drop separator.length)
    else (cutAt? separator t).map fun parts => (c :: parts.1, parts.2)

/-- the set of a property as it is named in braces: alone, or with a value -/
def propertySet? (name : Text) : Option CharSet :=
  match (cutAt? ['!', '='] name).or ((cutAt? [':'] name).or (cutAt? ['='] name)) with
  | some (property, value) => Property.setOfValue? property value
  | none => Property.setOf? name

/-- a property behind its letter -/
def readProperty (flags : Flags) (negated : Bool) (t : Text) : Reader Primitive :=
  let set (name : Text) (rest : Text) : Reader Primitive :=
    if !flags.unicode then .error .needsUnicode
    else
      match propertySet? name with
      | none => .error .unknownProperty
      | some s => (flags.negate negated (flags.fold s)).map fun s => (.set s, rest)
  match flags.skip t with
  | [] | '\\' :: _ => .error .badEscape
  | '\x7b' :: rest =>
    match flags.span (· ≠ '\x7d') rest.length (flags.skip rest) with
    | (name, '\x7d' :: rest) => set name rest
    | _ => .error .badEscape
  | c :: rest => set [c] (flags.skip rest)

/-! ## conditions -/

/-- the conditions that are named in braces -/
def wordLookOf? (name : Text) : Option WordLook :=
  match String.ofList name with
  | "start" => some .start
  | "end" => some .stop
  | "start-half" => some .startHalf
  | "end-half" => some .stopHalf
  | _ => none

/-- A word boundary, or a condition named in braces.  Braces that do not begin with a letter or a
hyphen are left to be read as a repetition. -/
def readBoundary (flags : Flags) (t : Text) : Reader Primitive :=
  let look (side : WordLook) (rest : Text) : Reader Primitive :=
    .ok (.look (.word flags.unicode side), rest)
  let isNameChar (c : Char) : Bool := Text.isAsciiLetter c || c = '-'
  match t with
  | '\x7b' :: rest =>
    match flags.skip rest with
    | [] => .error .badEscape
    | c :: rest =>
      if isNameChar c then
        match flags.span isNameChar (rest.length + 1) (c :: rest) with
        | (name, '\x7d' :: rest) =>
          match wordLookOf? name with
          | some side => look side rest
          | none => .error .badEscape
        | _ => .error .badEscape
      else look .boundary t
  | _ => look .boundary t

/-! ## all escapes -/

/-- a named class, which has a smaller form without the Unicode flag -/
def namedSet (flags : Flags) (s ascii : CharSet) (negated : Bool) (rest : Text) :
    Reader Primitive :=
  (flags.negate negated (if flags.unicode then s else ascii)).map fun s => (.set s, rest)

/-- whether an escaped character stands for itself: all of ASCII but letters, digits and angles -/
def escapable (c : Char) : Bool :=
  c.toNat < 0x80 && !Text.isAsciiLetter c && !('0' ≤ c && c ≤ '9') && c ≠ '<' && c ≠ '>'

/-- the part behind a backslash -/
def readEscape (flags : Flags) : Text → Reader Primitive
  | [] => .error .badEscape
  | c :: rest =>
    let word (side : WordLook) : Reader Primitive := .ok (.look (.word flags.unicode side), rest)
    match c with
    | 'd' => namedSet flags .digit .asciiDigit false rest
    | 'D' => namedSet flags .digit .asciiDigit true rest
    | 's' => namedSet flags .blank .asciiBlank false rest
    | 'S' => namedSet flags .blank .asciiBlank true rest
    | 'w' => namedSet flags .word .asciiWord false rest
    | 'W' => namedSet flags .word .asciiWord true rest
    | 'p' => readProperty flags false rest
    | 'P' => readProperty flags true rest
    | 'b' => readBoundary flags rest
    | 'B' => word .noBoundary
    | '<' => word .start
    | '>' => word .stop
    | 'A' => .ok (.look .textStart, rest)
    | 'z' => .ok (.look .textEnd, rest)
    | 'n' => .ok (.char '\n' false, rest)
    | 'r' => .ok (.char '\r' false, rest)
    | 't' => .ok (.char '\t' false, rest)
    | 'a' => .ok (.char '\x07' false, rest)
    | 'f' => .ok (.char '\x0c' false, rest)
    | 'v' => .ok (.char '\x0b' false, rest)
    | 'x' => readHex flags 2 rest
    | 'u' => readHex flags 4 rest
    | 'U' => readHex flags 8 rest
    | _ => if escapable c then .ok (.char c false, rest) else .error .badEscape

end Workbench.Pattern
