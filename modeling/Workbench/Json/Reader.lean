import Workbench.Decimal.Shortest
import Workbench.Text.Quoted

/-!
# Readers of JSON

A reader takes a value off the front of a text.  It returns the value with what is left, which is
shorter by construction, or a refusal.  A value can be refused for two reasons: the text is not JSON
(`Fault`), or it is JSON of the wrong kind for its place (`Misfit`).  Reading stops at the first of
either, so a misfit is reported even if the text behind it is not JSON.

A refusal keeps what was left of the text when it arose, and how many more bytes had been looked at;
its place in the whole text follows from that (`Refusal.place`).
-/

namespace Workbench.Json

/-! ## reasons -/

/-- what is wrong with a text that is not JSON -/
inductive Fault where
  | endInList
  | endInObject
  | endInString
  | endInValue
  | expectedColon
  | expectedCommaInList
  | expectedCommaInObject
  | expectedWord
  | expectedValue
  | escape
  | number
  | numberRange
  | controlCharacter
  | key
  | surrogate
  | surrogatePair
  | trailingComma
  | trailing
  deriving DecidableEq, Repr

def Fault.message : Fault → String
  | .endInList => "EOF while parsing a list"
  | .endInObject => "EOF while parsing an object"
  | .endInString => "EOF while parsing a string"
  | .endInValue => "EOF while parsing a value"
  | .expectedColon => "expected `:`"
  | .expectedCommaInList => "expected `,` or `]`"
  | .expectedCommaInObject => "expected `,` or `\x7d`"
  | .expectedWord => "expected ident"
  | .expectedValue => "expected value"
  | .escape => "invalid escape"
  | .number => "invalid number"
  | .numberRange => "number out of range"
  | .controlCharacter => "control character (\\u0000-\\u001F) found while parsing a string"
  | .key => "key must be a string"
  | .surrogate => "lone leading surrogate in hex escape"
  | .surrogatePair => "unexpected end of hex escape"
  | .trailingComma => "trailing comma"
  | .trailing => "trailing characters"

/-- a number as it was written: a whole number of 64 bits, or else a number of double precision -/
inductive Number where
  | natural (n : Nat)
  /-- the whole number `-n` -/
  | negative (n : Nat)
  | real (negative : Bool) (value : Binary64)
  deriving DecidableEq, Repr

/-- a value that stands where another kind of value is expected -/
inductive Found where
  | null
  | boolean (b : Bool)
  | number (n : Number)
  | string (t : Text)
  | list
  | object
  deriving DecidableEq, Repr

def Found.describe : Found → String
  | .null => "null"
  | .boolean b => "boolean `" ++ (if b then "true" else "false") ++ "`"
  | .number (.natural n) => "integer `" ++ toString n ++ "`"
  | .number (.negative n) => "integer `-" ++ toString n ++ "`"
  | .number (.real s (.finite m e)) =>
    "floating point `" ++ (if s then "-" else "") ++
      Decimal.scientific (Decimal.shortest m e) ++ "`"
  | .number (.real s .infinite) => "floating point `" ++ (if s then "-inf`" else "inf`")
  | .string t => "string " ++ String.ofList (Text.quote t)
  | .list => "sequence"
  | .object => "map"

/-- why a JSON value does not fit its place -/
inductive Misfit where
  | kind (found : Found) (expected : String)
  | variant (name : Text) (known : List String)
  | repeated (name : String)
  deriving DecidableEq, Repr

/-- the alternatives of a choice as a message names them -/
def alternatives : List String → String
  | [a] => "`" ++ a ++ "`"
  | [a, b] => "`" ++ a ++ "` or `" ++ b ++ "`"
  | as => "one of " ++ ", ".intercalate (as.map fun a => "`" ++ a ++ "`")

def Misfit.message : Misfit → String
  | .kind found expected => "invalid type: " ++ found.describe ++ ", expected " ++ expected
  | .variant name known =>
    "unknown variant `" ++ String.ofList name ++ "`, expected " ++ alternatives known
  | .repeated name => "duplicate field `" ++ name ++ "`"

inductive Problem where
  | malformed (f : Fault)
  | unfit (m : Misfit)
  deriving DecidableEq, Repr

def Problem.message : Problem → String
  | .malformed f => f.message
  | .unfit m => m.message

/-! ## refusals and their places -/

structure Refusal where
  problem : Problem
  /-- what was left of the text -/
  rest : Text
  /-- how many bytes of that had been looked at -/
  ahead : Nat
  deriving DecidableEq, Repr

namespace Refusal

/-- refused in front of `rest` -/
def here (f : Fault) (rest : Text) : Refusal := ⟨.malformed f, rest, 0⟩

/-- refused because of the next byte of `rest` -/
def next (f : Fault) (rest : Text) : Refusal := ⟨.malformed f, rest, 1⟩

/-- a value that was read and does not fit -/
def misfit (m : Misfit) (rest : Text) : Refusal := ⟨.unfit m, rest, 0⟩

/-- the line and the column behind some bytes, lines from 1 and columns from 0 -/
def walk : List UInt8 → Nat × Nat → Nat × Nat
  | [], at' => at'
  | b :: bs, (line, column) => walk bs (if b = 10 then (line + 1, 0) else (line, column + 1))

/-- the line and the column in bytes at which the text was refused -/
def place (whole : Text) (r : Refusal) : Nat × Nat :=
  let bytes := whole.flatMap String.utf8EncodeChar
  walk (bytes.take (whole.bytes - r.rest.bytes + r.ahead)) (1, 0)

end Refusal

/-! ## readers -/

/-- a value taken off a text, and the rest, which is shorter than `bound` -/
structure Taken (α : Type) (bound : Nat) where
  value : α
  rest : Text
  shorter : rest.length < bound

namespace Taken

variable {α β : Type} {m n : Nat}

def widen (t : Taken α m) (h : m ≤ n) : Taken α n :=
  ⟨t.value, t.rest, Nat.lt_of_lt_of_le t.shorter h⟩

def map (f : α → β) (t : Taken α n) : Taken β n := ⟨f t.value, t.rest, t.shorter⟩

end Taken

theorem length_tail_lt (c : Char) (s : Text) : s.length < (c :: s).length := Nat.lt_succ_self _

theorem length_tail_le (c : Char) (s : Text) : s.length ≤ (c :: s).length := Nat.le_succ _

theorem length_le_of_lt {r s : Text} (h : r.length < s.length) : r.length ≤ s.length :=
  Nat.le_of_lt h

theorem length_lt_trans {q r s : Text} (h : q.length < r.length) (h' : r.length < s.length) :
    q.length < s.length := Nat.lt_trans h h'

/-- takes a value, of at least one character, off the front of a text -/
abbrev Reader (α : Type) := (s : Text) → Except Refusal (Taken α s.length)

/-- space, tab, newline and carriage return -/
def isBlank (c : Char) : Bool := c = ' ' || c = '\n' || c = '\t' || c = '\r'

def skipBlank (s : Text) : Text := s.dropWhile isBlank

theorem length_skipBlank (s : Text) : (skipBlank s).length ≤ s.length := by
  induction s with
  | nil => exact Nat.le_refl _
  | cons c s ih =>
    rw [skipBlank, List.dropWhile_cons]
    split
    · exact Nat.le_succ_of_le ih
    · exact Nat.le_refl _

/-- the first character that is not blank, and what is behind it -/
def next? (s : Text) : Option (Taken Char s.length) :=
  match h : skipBlank s with
  | [] => none
  | c :: r => some ⟨c, r, by have := length_skipBlank s; rw [h] at this; exact this⟩

/-- takes the letters of a word off a text -/
def readWord : (word : List Char) → (s : Text) → Except Refusal (Taken Unit (s.length + 1))
  | [], s => .ok ⟨(), s, Nat.lt_succ_self _⟩
  | _ :: _, [] => .error (.here .endInValue [])
  | w :: ws, c :: s =>
    if c = w then (readWord ws s).map (·.widen (Nat.le_succ _))
    else .error (.next .expectedWord (c :: s))

end Workbench.Json
