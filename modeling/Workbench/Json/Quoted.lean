import Workbench.Json.Reader

/-!
# Strings in JSON

A string is written between double quotes; the quote, the backslash and control characters are
escaped.  An escape by number names a unit of sixteen bits, so a character above U+FFFF takes two of
them.  Where the string is wanted, half of such a pair is refused (`readString`); where it is only
passed over, it is not looked at (`skipString`).
-/

namespace Workbench.Json

open Text (hexValue?)

/-! ## writing -/

/-- a character as it stands in a string -/
def escapeChar (c : Char) : Text :=
  match c with
  | '"' => ['\\', '"']
  | '\\' => ['\\', '\\']
  | '\x08' => ['\\', 'b']
  | '\x0c' => ['\\', 'f']
  | '\n' => ['\\', 'n']
  | '\r' => ['\\', 'r']
  | '\t' => ['\\', 't']
  | _ =>
    if c.toNat < 0x20 then
      ['\\', 'u', '0', '0', Text.hexDigit (c.toNat / 16), Text.hexDigit (c.toNat % 16)]
    else [c]

def quote (t : Text) : Text := '"' :: t.flatMap escapeChar ++ ['"']

/-! ## escapes -/

/-- the four digits of an escape by number -/
def readUnit : Reader Nat
  | a :: b :: c :: d :: s =>
    match hexValue? a, hexValue? b, hexValue? c, hexValue? d with
    | some p, some q, some x, some y =>
      .ok ⟨((p * 16 + q) * 16 + x) * 16 + y, s, by simp only [List.length_cons]; omega⟩
    | _, _, _, _ => .error ⟨.malformed .escape, a :: b :: c :: d :: s, 4⟩
  | s =>
    if s.bytes < 4 then .error (.here .endInString []) else .error ⟨.malformed .escape, s, 4⟩

/-- the first half of a pair of units, and the second -/
def isLeading (n : Nat) : Bool := 0xD800 ≤ n && n ≤ 0xDBFF
def isTrailing (n : Nat) : Bool := 0xDC00 ≤ n && n ≤ 0xDFFF

/-- the second half of a pair, whose first half is `high` -/
def readSecondHalf (high : Nat) : Reader Char
  | [] => .error (.here .endInString [])
  | '\\' :: [] => .error (.here .endInString [])
  | '\\' :: 'u' :: s =>
    match readUnit s with
    | .error e => .error e
    | .ok low =>
      if isTrailing low.value then
        .ok ⟨Char.ofNat (0x10000 + (high - 0xD800) * 0x400 + (low.value - 0xDC00)), low.rest,
          Nat.lt_of_lt_of_le low.shorter (Nat.le_add_right _ 2)⟩
      else .error (.here .surrogate low.rest)
  | '\\' :: s => .error (.next .surrogatePair s)
  | s => .error (.next .surrogatePair s)

/-- the character of an escape by number -/
def readNumbered : Reader Char := fun s =>
  match readUnit s with
  | .error e => .error e
  | .ok u =>
    if isTrailing u.value then .error (.here .surrogate u.rest)
    else if isLeading u.value then
      (readSecondHalf u.value u.rest).map (·.widen (Nat.le_of_lt u.shorter))
    else .ok ⟨Char.ofNat u.value, u.rest, u.shorter⟩

/-- the character that a letter stands for behind a backslash -/
def escaped? (c : Char) : Option Char :=
  match c with
  | '"' => some '"'
  | '\\' => some '\\'
  | '/' => some '/'
  | 'b' => some '\x08'
  | 'f' => some '\x0c'
  | 'n' => some '\n'
  | 'r' => some '\r'
  | 't' => some '\t'
  | _ => none

/-- the character of an escape, behind its backslash -/
def readEscape : Reader Char
  | [] => .error (.here .endInString [])
  | c :: s =>
    match escaped? c with
    | some x => .ok ⟨x, s, length_tail_lt c s⟩
    | none =>
      if c = 'u' then (readNumbered s).map (·.widen (length_tail_le c s))
      else .error (.next .escape (c :: s))

/-- passes over an escape, behind its backslash -/
def skipEscape : Reader Unit
  | [] => .error (.here .endInString [])
  | c :: s =>
    match escaped? c with
    | some _ => .ok ⟨(), s, length_tail_lt c s⟩
    | none =>
      if c = 'u' then (readUnit s).map fun u => (u.map fun _ => ()).widen (length_tail_le c s)
      else .error (.next .escape (c :: s))

/-! ## strings -/

/-- the characters of a string, behind its opening quote -/
def readString : Reader Text
  | [] => .error (.here .endInString [])
  | c :: s =>
    if c = '"' then .ok ⟨[], s, Nat.lt_succ_self _⟩
    else if c = '\\' then
      match readEscape s with
      | .error e => .error e
      | .ok x =>
        (readString x.rest).map fun t =>
          (t.map (x.value :: ·)).widen (Nat.le_succ_of_le (Nat.le_of_lt x.shorter))
    else if c.toNat < 0x20 then .error (.here .controlCharacter s)
    else (readString s).map fun t => (t.map (c :: ·)).widen (Nat.le_succ _)
  termination_by s => s.length
  decreasing_by
    · exact Nat.lt_succ_of_lt x.shorter
    · exact Nat.lt_succ_self _

/-- passes over a string, behind its opening quote -/
def skipString : Reader Unit
  | [] => .error (.here .endInString [])
  | c :: s =>
    if c = '"' then .ok ⟨(), s, Nat.lt_succ_self _⟩
    else if c = '\\' then
      match skipEscape s with
      | .error e => .error e
      | .ok x => (skipString x.rest).map (·.widen (Nat.le_succ_of_le (Nat.le_of_lt x.shorter)))
    else if c.toNat < 0x20 then .error (.here .controlCharacter (c :: s))
    else (skipString s).map (·.widen (Nat.le_succ _))
  termination_by s => s.length
  decreasing_by
    · exact Nat.lt_succ_of_lt x.shorter
    · exact Nat.lt_succ_self _

end Workbench.Json
