import Workbench.Text.Bytes

/-!
# Reading UTF-8

Bytes are taken apart into characters and ill-formed parts.  An ill-formed part is as long as it
still could begin a character (a maximal subpart), and at least one byte.  `decodeLossy` writes a
replacement character for each ill-formed part; `decode?` refuses the bytes if there is one.
-/

namespace Workbench.Text

abbrev Bytes := List UInt8

/-- what a leading byte promises: how many bytes follow, and the bounds of the first of them -/
def leadShape? (b : UInt8) : Option (Nat × Nat × Nat) :=
  let n := b.toNat
  if 0xC2 ≤ n && n ≤ 0xDF then some (1, 0x80, 0xBF)
  else if n = 0xE0 then some (2, 0xA0, 0xBF)
  else if n = 0xED then some (2, 0x80, 0x9F)
  else if 0xE1 ≤ n && n ≤ 0xEF then some (2, 0x80, 0xBF)
  else if n = 0xF0 then some (3, 0x90, 0xBF)
  else if 0xF1 ≤ n && n ≤ 0xF3 then some (3, 0x80, 0xBF)
  else if n = 0xF4 then some (3, 0x80, 0x8F)
  else none

/-- the bits of its code point that a leading byte carries, by the number of bytes that follow -/
def leadBits (more : Nat) (b : UInt8) : Nat :=
  match more with
  | 1 => b.toNat % 0x20
  | 2 => b.toNat % 0x10
  | _ => b.toNat % 0x08

/--
The bytes that follow a leading byte, the next of them within `lo` and `hi`.  The character is
missing if one of them is; the rest then begins with the byte that stands in its place.
-/
def readTail : (more lo hi value : Nat) → Bytes → Option Char × Bytes
  | 0, _, _, value, rest => (some (Char.ofNat value), rest)
  | _ + 1, _, _, _, [] => (none, [])
  | more + 1, lo, hi, value, b :: rest =>
    if lo ≤ b.toNat && b.toNat ≤ hi then
      readTail more 0x80 0xBF (64 * value + b.toNat % 0x40) rest
    else (none, b :: rest)

theorem length_readTail (more lo hi value : Nat) (bs : Bytes) :
    (readTail more lo hi value bs).2.length ≤ bs.length := by
  induction more generalizing lo hi value bs with
  | zero => exact Nat.le_refl _
  | succ more ih =>
    cases bs with
    | nil => exact Nat.le_refl _
    | cons b bs =>
      rw [readTail]
      split
      · exact Nat.le_succ_of_le (ih 0x80 0xBF _ bs)
      · exact Nat.le_refl _

/-- the character or ill-formed part that begins with the given byte -/
def readChar (b : UInt8) (rest : Bytes) : Option Char × Bytes :=
  if b.toNat < 0x80 then (some (Char.ofNat b.toNat), rest)
  else
    match leadShape? b with
    | none => (none, rest)
    | some (more, lo, hi) => readTail more lo hi (leadBits more b) rest

theorem length_readChar (b : UInt8) (rest : Bytes) :
    (readChar b rest).2.length ≤ rest.length := by
  unfold readChar
  split
  · exact Nat.le_refl _
  · split
    · exact Nat.le_refl _
    · exact length_readTail _ _ _ _ _

/-- the characters of a sequence of bytes, with nothing in the place of each ill-formed part -/
def decodeParts : Bytes → List (Option Char)
  | [] => []
  | b :: rest =>
    (readChar b rest).1 :: decodeParts (readChar b rest).2
  termination_by bs => bs.length
  decreasing_by exact Nat.lt_succ_of_le (length_readChar b rest)

/-- what stands for an ill-formed part -/
def replacement : Char := '\ufffd'

def decodeLossy (bs : Bytes) : Text := (decodeParts bs).map (·.getD replacement)

def decode? (bs : Bytes) : Option Text := (decodeParts bs).mapM id

/-- the UTF-8 form of a text -/
def encode (t : Text) : Bytes := t.flatMap String.utf8EncodeChar

end Workbench.Text
