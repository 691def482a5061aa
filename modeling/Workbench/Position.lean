import Workbench.Text.Bytes

/-!
# Positions in a source

Offsets are what tokens carry; a reader wants a line and a column, and an editor that counts UTF-16
units wants those.  A position is found by walking the text from its start (`Position.walk`), or
from the start of its line by way of a `LineIndex`.

The index holds the starts of the lines in increasing order, so the line of an offset is found by
halving (`bisect`): it is the last line that does not begin behind the offset.
-/

namespace Workbench

structure Position where
  /-- from 1 -/
  line : Nat
  /-- from 1, in characters -/
  column : Nat
  /-- from 0, in bytes from the start of the text -/
  offset : Nat
  /-- from 0, in UTF-16 units from the start of the line -/
  utf16Column : Nat
  deriving DecidableEq, Repr

namespace Position

def start : Position := ⟨1, 1, 0, 0⟩

/-- the number of UTF-16 units of a character -/
def utf16Units (c : Char) : Nat := if c.toNat < 0x10000 then 1 else 2

/-- the position behind a character -/
def advance (p : Position) (c : Char) : Position :=
  if c = '\n' then ⟨p.line + 1, 1, p.offset + c.utf8Size, 0⟩
  else ⟨p.line, p.column + 1, p.offset + c.utf8Size, p.utf16Column + utf16Units c⟩

/-- the position behind a text -/
def walk (p : Position) (t : Text) : Position := t.foldl advance p

@[simp] theorem walk_nil (p : Position) : p.walk [] = p := rfl
@[simp] theorem walk_cons (p : Position) (c : Char) (t : Text) :
    p.walk (c :: t) = (p.advance c).walk t :=
  rfl
@[simp] theorem walk_append (p : Position) (s t : Text) : p.walk (s ++ t) = (p.walk s).walk t :=
  List.foldl_append

end Position

/-! ## halving -/

/-- where a number stands among numbers in increasing order, or the place at which it could be
put in -/
inductive Place where
  | found (i : Nat)
  | missing (i : Nat)
  deriving DecidableEq, Repr

/-- looks for a number between two places, of which the second is not looked at -/
def bisect (ns : Array Nat) (n : Nat) (lo hi : Nat) : Place :=
  if lo < hi then
    let middle := lo + (hi - lo) / 2
    match ns[middle]? with
    | none => .missing lo
    | some m =>
      if m = n then .found middle
      else if m < n then bisect ns n (middle + 1) hi
      else bisect ns n lo middle
  else .missing lo
termination_by hi - lo

/-! ## line index -/

/-- the offsets behind the newlines of a text that begins at the given offset -/
def startsBehind : Nat → Text → List Nat
  | _, [] => []
  | n, c :: t =>
    let next := n + c.utf8Size
    if c = '\n' then next :: startsBehind next t else startsBehind next t

theorem lt_of_mem_startsBehind {n : Nat} {t : Text} : ∀ m ∈ startsBehind n t, n < m := by
  induction t generalizing n with
  | nil => intro m hm; cases hm
  | cons c t ih =>
    intro m hm
    have hc := c.utf8Size_pos
    have hrest : ∀ m ∈ startsBehind (n + c.utf8Size) t, n < m := fun m hm =>
      Nat.lt_trans (Nat.lt_add_of_pos_right hc) (ih m hm)
    rw [startsBehind] at hm
    split at hm
    · rcases List.mem_cons.1 hm with rfl | hm
      · exact Nat.lt_add_of_pos_right hc
      · exact hrest m hm
    · exact hrest m hm

theorem pairwise_startsBehind (n : Nat) (t : Text) : (startsBehind n t).Pairwise (· < ·) := by
  induction t generalizing n with
  | nil => exact .nil
  | cons c t ih =>
    rw [startsBehind]
    split
    · exact .cons lt_of_mem_startsBehind (ih _)
    · exact ih _

/-- the offsets at which the lines of a text begin, the first of them 0 -/
structure LineIndex where
  starts : Array Nat
  first : starts[0]? = some 0
  increasing : starts.toList.Pairwise (· < ·)
  deriving DecidableEq, Repr

namespace LineIndex

def ofText (t : Text) : LineIndex where
  starts := (0 :: startsBehind 0 t).toArray
  first := rfl
  increasing := .cons lt_of_mem_startsBehind (pairwise_startsBehind 0 t)

@[simp] theorem starts_ofText (t : Text) : (ofText t).starts = (0 :: startsBehind 0 t).toArray := rfl

def lineCount (index : LineIndex) : Nat := index.starts.size

/-- The place of the line of an offset: the line that begins there, or the one before the first line
that begins behind it. -/
def line (index : LineIndex) (offset : Nat) : Nat :=
  match bisect index.starts offset 0 index.starts.size with
  | .found line => line
  | .missing next => next - 1

/--
The position of an offset; one beyond the text counts as the end of the text.  There is none if the
offset, or the start of its line, lies inside a character of the text.
-/
def position? (index : LineIndex) (t : Text) (offset : Nat) : Option Position :=
  let offset := min offset t.bytes
  let line := index.line offset
  (index.starts[line]?).bind fun lineStart =>
    (Text.slice t lineStart offset).map (Position.walk ⟨line + 1, 1, lineStart, 0⟩)

end LineIndex

end Workbench
