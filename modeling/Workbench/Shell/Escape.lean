import Workbench.Shell.Octets
import Workbench.Text.Classes

/-!
# Escapes in formats

A backslash in a format or in an echoed text stands for a byte together with what follows it.  The
commands differ in which escapes they know; a style says so.  A backslash that begins no escape
stands for itself.
-/

namespace Workbench.Shell

open Text (Bytes)

/-- which escapes are known besides the letters for control characters and octal numbers -/
structure EscapeStyle where
  /-- a zero may stand in front of the three digits of an octal number -/
  zero : Bool := false
  /-- `\c` ends all output -/
  stop : Bool := false
  /-- a double quote may be escaped -/
  quote : Bool := false
  /-- `\x` stands in front of two hexadecimal digits -/
  hexadecimal : Bool := false

/-- the byte that a letter stands for -/
def controlByte? (s : EscapeStyle) (c : Char) : Option UInt8 :=
  match c with
  | '\\' => some 92
  | 'a' => some 7
  | 'b' => some 8
  | 'f' => some 12
  | 'n' => some 10
  | 'r' => some 13
  | 't' => some 9
  | 'v' => some 11
  | 'e' => some 27
  | '"' => if s.quote then some 34 else none
  | _ => none

/-- the value of a digit, if it is one of a number to some base up to sixteen -/
def digit? (base : Nat) (c : Char) : Option Nat := (Text.hexValue? c).filter (· < base)

/-- the number of up to `count` leading digits, and the rest -/
def leadingNumber (base : Nat) : (count : Nat) → (value : Nat) → Text → Nat × Text
  | 0, value, t => (value, t)
  | _ + 1, value, [] => (value, [])
  | count + 1, value, c :: t =>
    match digit? base c with
    | some d => leadingNumber base count (value * base + d) t
    | none => (value, c :: t)

/-- what an escape stands for -/
inductive Escaped where
  | byte (b : UInt8) (rest : Text)
  | stop
  /-- the backslash stands for itself -/
  | none

/-- reads an escape, behind its backslash -/
def readEscape (s : EscapeStyle) (t : Text) : Escaped :=
  match t with
  | [] => .none
  | c :: r =>
    match controlByte? s c with
    | some b => .byte b r
    | none =>
      if c = 'c' ∧ s.stop then .stop
      else if c = 'x' ∧ s.hexadecimal ∧ (r.head?.bind (digit? 16)).isSome then
        let (n, rest) := leadingNumber 16 2 0 r
        .byte n.toUInt8 rest
      else if (digit? 8 c).isSome then
        let digits := if c = '0' ∧ s.zero ∧ (r.head?.bind (digit? 8)).isSome then r else c :: r
        let (n, rest) := leadingNumber 8 3 0 digits
        .byte n.toUInt8 rest
      else .none

/-- the bytes of a text with its escapes read, and whether output ends there -/
def expandEscapes (s : EscapeStyle) (t : Text) : Bytes × Bool :=
  -- each round takes at least one character
  let rec go : (fuel : Nat) → Text → Bytes × Bool
    | 0, _ => ([], false)
    | _ + 1, [] => ([], false)
    | fuel + 1, c :: r =>
      if c = '\\' then
        match readEscape s r with
        | .stop => ([], true)
        | .byte b rest =>
          let (bs, stop) := go fuel rest
          (b :: bs, stop)
        | .none =>
          let (bs, stop) := go fuel r
          (92 :: bs, stop)
      else
        let (bs, stop) := go fuel r
        (Octets.toBytes [c] ++ bs, stop)
  go (t.length + 1) t

end Workbench.Shell
