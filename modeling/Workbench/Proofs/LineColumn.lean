import Mathlib.Data.Prod.Lex
import Workbench.Proofs.Position
import Workbench.Proofs.Text.Lines

/-!
# Lines and columns in place of offsets

Each character that a walk passes moves it to a later column of the same line or to a later line.
So the line and the column of a position grow with its offset (`Rises`, `Rises.lt_walk`), in
characters as in UTF-16 units, and whoever has either pair finds the offset again by walking to it
(`seek?`, `Rises.seek?_walk`).

In front of an offset stand the lines above it and the front of its own line (`LineFront`).  A walk
over the lines above ends in the first column (`walk_of_ended`), and in the front of a line the
columns count its characters or their UTF-16 units (`walk_of_not_mem`), which differ by the
characters of two units.
-/

namespace Workbench

/-! ## the front of a line -/

namespace Text

/-- the characters between the start of a line and an offset in it -/
def LineFront (t : Text) (offset : Nat) (front : Text) : Prop :=
  ∃ above behind, t = above ++ front ++ behind ∧ (above ++ front).bytes = offset
    ∧ above.Ended ∧ '\n' ∉ front

/-- an offset beyond the text stands for the end of the text -/
theorem boundary_min {t : Text} {offset : Nat} (h : t.Boundary offset ∨ t.bytes < offset) :
    t.Boundary (min offset t.bytes) := by
  rcases h with ⟨before, behind, rfl, rfl⟩ | h
  · refine ⟨before, behind, rfl, ?_⟩
    rw [bytes_append]
    omega
  · exact ⟨t, [], (List.append_nil t).symm, (Nat.min_eq_right (Nat.le_of_lt h)).symm⟩

/-- of two parts of a text that begin with it, the one of fewer bytes begins the other -/
theorem exists_append_of_bytes_le {a a' b b' : Text} (h : a ++ a' = b ++ b')
    (hle : a.bytes ≤ b.bytes) : ∃ s, b = a ++ s ∧ a' = s ++ b' := by
  rcases List.append_eq_append_iff.1 h with ⟨s, hb, ha'⟩ | ⟨s, rfl, rfl⟩
  · exact ⟨s, hb, ha'⟩
  · have hs : s.length = 0 := by
      have := length_le_bytes s
      rw [bytes_append] at hle
      omega
    rw [List.length_eq_zero_iff.1 hs]
    exact ⟨[], by rw [List.append_nil, List.append_nil], rfl⟩

/-- whether a character lies above U+FFFF -/
def supplementary (c : Char) : Bool := 0xFFFF < c.toNat

end Text

theorem length_startsBehind (n : Nat) (t : Text) : (startsBehind n t).length = t.count '\n' := by
  induction t generalizing n with
  | nil => rfl
  | cons c t ih =>
    rw [startsBehind]
    split
    · next hc => rw [List.length_cons, ih, hc, List.count_cons_self]
    · next hc => rw [ih, List.count_cons_of_ne hc]

/-! ## walks -/

namespace Position

theorem utf16Units_eq (c : Char) :
    utf16Units c = 1 + if Text.supplementary c then 1 else 0 := by
  unfold utf16Units Text.supplementary
  by_cases hc : c.toNat < 0x10000
  · rw [if_pos hc, if_neg (by simp only [decide_eq_true_eq]; omega)]
  · rw [if_neg hc, if_pos (by simp only [decide_eq_true_eq]; omega)]

/-- a walk over full lines ends at the start of a line -/
theorem walk_of_ended {t : Text} (h : t.Ended) :
    start.walk t = ⟨t.count '\n' + 1, 1, t.bytes, 0⟩ := by
  rcases h.eq_nil_or with rfl | ⟨l, rfl⟩
  · rfl
  · rw [walk_append, walk_newline, line_walk _ 0, offset_walk, length_startsBehind,
      List.count_append, Text.bytes_append]
    show Position.mk (1 + l.count '\n' + 1) 1 (0 + l.bytes + 1) 0
      = ⟨l.count '\n' + 1 + 1, 1, l.bytes + 1, 0⟩
    rw [Nat.add_comm 1, Nat.zero_add]

/-- a walk within a line counts the characters and their units -/
theorem walk_of_not_mem (p : Position) {t : Text} (h : '\n' ∉ t) :
    p.walk t = ⟨p.line, p.column + t.length, p.offset + t.bytes,
      p.utf16Column + t.length + t.countP Text.supplementary⟩ := by
  induction t generalizing p with
  | nil => rfl
  | cons c t ih =>
    obtain ⟨hc, ht⟩ := not_or.1 (List.mem_cons.not.1 h)
    rw [walk_cons, ih _ ht, advance, if_neg (Ne.symm hc), utf16Units_eq, List.countP_cons,
      List.length_cons, Text.bytes_cons]
    simp only [mk.injEq, true_and]
    omega

/-! ## what grows along a walk -/

def lineColumn (p : Position) : Nat ×ₗ Nat := toLex (p.line, p.column)

def lineUtf16 (p : Position) : Nat ×ₗ Nat := toLex (p.line, p.utf16Column)

/-- a part of positions that grows with every character passed -/
def Rises (key : Position → Nat ×ₗ Nat) : Prop := ∀ p c, key p < key (p.advance c)

/-- behind a newline the column may be any, since the line is a later one -/
theorem rises_of_column {column : Position → Nat}
    (h : ∀ p c, c ≠ '\n' → column p < column (p.advance c)) :
    Rises fun p => toLex (p.line, column p) := by
  intro p c
  rw [Prod.Lex.toLex_lt_toLex]
  by_cases hc : c = '\n'
  · have hline : (p.advance c).line = p.line + 1 := by rw [advance, if_pos hc]
    exact .inl (hline ▸ Nat.lt_succ_self _)
  · have hline : (p.advance c).line = p.line := by rw [advance, if_neg hc]
    exact .inr ⟨hline.symm, h p c hc⟩

theorem rises_lineColumn : Rises lineColumn := by
  refine rises_of_column fun p c hc => ?_
  rw [advance, if_neg hc]
  exact Nat.lt_succ_self _

theorem rises_lineUtf16 : Rises lineUtf16 := by
  refine rises_of_column fun p c hc => ?_
  rw [advance, if_neg hc]
  show p.utf16Column < p.utf16Column + utf16Units c
  rw [utf16Units_eq]
  omega

/-- the offset of the first position of a walk that has the given key -/
def seek? (key : Position → Nat ×ₗ Nat) (k : Nat ×ₗ Nat) (p : Position) : Text → Option Nat
  | [] => if key p = k then some p.offset else none
  | c :: t => if key p = k then some p.offset else seek? key k (p.advance c) t

section
variable {key : Position → Nat ×ₗ Nat} (h : Rises key)
include h

theorem Rises.le_walk (p : Position) (t : Text) : key p ≤ key (p.walk t) := by
  induction t generalizing p with
  | nil => exact le_refl _
  | cons c t ih => exact (h p c).le.trans (ih (p.advance c))

theorem Rises.lt_walk (p : Position) {t : Text} (ht : t ≠ []) : key p < key (p.walk t) := by
  obtain ⟨c, t, rfl⟩ := List.exists_cons_of_ne_nil ht
  exact (h p c).trans_le (h.le_walk _ t)

/-- of two parts of a text that begin with it, the one of fewer bytes has the smaller key -/
theorem Rises.lt_of_bytes_lt {a a' b b' : Text} (ht : a ++ a' = b ++ b') (hlt : a.bytes < b.bytes) :
    key (start.walk a) < key (start.walk b) := by
  obtain ⟨s, rfl, -⟩ := Text.exists_append_of_bytes_le ht (Nat.le_of_lt hlt)
  rw [walk_append]
  refine h.lt_walk _ fun hs => ?_
  rw [hs, List.append_nil] at hlt
  exact Nat.lt_irrefl _ hlt

/-- no position in front has the key of the position that is sought -/
theorem Rises.seek?_walk (p : Position) (a b : Text) :
    seek? key (key (p.walk a)) p (a ++ b) = some (p.offset + a.bytes) := by
  induction a generalizing p with
  | nil =>
    rw [walk_nil]
    cases b <;> exact if_pos rfl
  | cons c a ih =>
    have hne : key p ≠ key (p.walk (c :: a)) := (h.lt_walk p (List.cons_ne_nil c a)).ne
    rw [List.cons_append, seek?, if_neg hne, walk_cons, ih, offset_advance, Text.bytes_cons,
      Nat.add_assoc]

end

end Position

/-! ## looking up -/

namespace LineIndex

open Position

variable {t : Text}

theorem position?_min (index : LineIndex) (t : Text) (offset : Nat) :
    index.position? t (min offset t.bytes) = index.position? t offset := by
  rw [position?, position?, Nat.min_assoc, Nat.min_self]

theorem exists_position?_lt {a b : Nat} (ha : t.Boundary a) (hb : t.Boundary b) (hlt : a < b) :
    ∃ p q, (ofText t).position? t a = some p ∧ (ofText t).position? t b = some q
      ∧ ∀ key, Rises key → key p < key q := by
  obtain ⟨before, behind, ht, rfl⟩ := ha
  obtain ⟨before', behind', ht', rfl⟩ := hb
  refine ⟨_, _, ?_, ?_, fun key h => h.lt_of_bytes_lt (ht.symm.trans ht') hlt⟩
  · rw [ht]
    exact position?_bytes before behind
  · rw [ht']
    exact position?_bytes before' behind'

/-- the columns of a position count what stands in front of it in its line -/
theorem exists_position?_lineFront {offset : Nat} (h : t.Boundary offset ∨ t.bytes < offset) :
    ∃ p front, (ofText t).position? t offset = some p ∧ t.LineFront (min offset t.bytes) front
      ∧ p.column = front.length + 1
      ∧ p.utf16Column = front.length + front.countP Text.supplementary := by
  obtain ⟨before, behind, ht, hbytes⟩ := Text.boundary_min h
  obtain ⟨above, front, rfl, habove, hfront⟩ := before.exists_lineFront
  have hposition := position?_bytes (above ++ front) behind
  rw [← ht, hbytes, position?_min, walk_append, walk_of_ended habove, walk_of_not_mem _ hfront]
    at hposition
  refine ⟨_, front, hposition, ⟨above, behind, ht, hbytes, habove, hfront⟩, ?_, ?_⟩
  · exact Nat.add_comm 1 _
  · show 0 + front.length + _ = _
    rw [Nat.zero_add]

theorem exists_position?_seek {offset : Nat} (h : t.Boundary offset) :
    ∃ p, (ofText t).position? t offset = some p
      ∧ ∀ key, Rises key → seek? key (key p) start t = some offset := by
  obtain ⟨before, behind, rfl, rfl⟩ := h
  refine ⟨_, position?_bytes before behind, fun key hkey => ?_⟩
  rw [hkey.seek?_walk]
  show some (0 + before.bytes) = some before.bytes
  rw [Nat.zero_add]

/-- Positions stand in the order of their offsets, by line and column as by line and UTF-16 column;
the two columns differ by the characters above U+FFFF in front of the position in its line; and
either pair leads back to the offset. -/
theorem position?_identifies (t : Text) :
    (∀ a b, t.Boundary a → t.Boundary b → a < b →
      ∃ p q, (ofText t).position? t a = some p ∧ (ofText t).position? t b = some q
        ∧ p.lineColumn < q.lineColumn ∧ p.lineUtf16 < q.lineUtf16)
    ∧ (∀ offset, t.Boundary offset ∨ t.bytes < offset →
      ∃ p front, (ofText t).position? t offset = some p ∧ t.LineFront (min offset t.bytes) front
        ∧ p.column = front.length + 1
        ∧ p.utf16Column = p.column - 1 + front.countP Text.supplementary)
    ∧ ∀ offset, t.Boundary offset →
      ∃ p, (ofText t).position? t offset = some p
        ∧ seek? lineColumn p.lineColumn start t = some offset
        ∧ seek? lineUtf16 p.lineUtf16 start t = some offset := by
  refine ⟨fun a b ha hb hlt => ?_, fun offset h => ?_, fun offset h => ?_⟩
  · obtain ⟨p, q, hp, hq, hkey⟩ := exists_position?_lt ha hb hlt
    exact ⟨p, q, hp, hq, hkey _ rises_lineColumn, hkey _ rises_lineUtf16⟩
  · obtain ⟨p, front, hp, hfront, hcolumn, hutf16⟩ := exists_position?_lineFront h
    refine ⟨p, front, hp, hfront, hcolumn, ?_⟩
    rw [hutf16, hcolumn, Nat.add_sub_cancel]
  · obtain ⟨p, hp, hkey⟩ := exists_position?_seek h
    exact ⟨p, hp, hkey _ rises_lineColumn, hkey _ rises_lineUtf16⟩

/-- in front of a newline and behind it, in a line that begins with a character of two units -/
theorem position?_identifies_around_newline :
    Text.Boundary "🎉\n".toList 4 ∧ Text.Boundary "🎉\n".toList 5
      ∧ (∃ p q, (ofText "🎉\n".toList).position? "🎉\n".toList 4 = some p
        ∧ (ofText "🎉\n".toList).position? "🎉\n".toList 5 = some q
        ∧ p.lineColumn < q.lineColumn ∧ p.lineUtf16 < q.lineUtf16)
      ∧ (ofText "🎉\n".toList).position? "🎉\n".toList 4 = some ⟨1, 2, 4, 2⟩
      ∧ (∃ front, Text.LineFront "🎉\n".toList 4 front ∧ front.countP Text.supplementary = 1)
      ∧ seek? lineUtf16 (toLex (1, 2)) start "🎉\n".toList = some 4 := by
  have hfour : Text.Boundary "🎉\n".toList 4 := ⟨['🎉'], ['\n'], rfl, rfl⟩
  have hfive : Text.Boundary "🎉\n".toList 5 := ⟨"🎉\n".toList, [], rfl, rfl⟩
  have hwalk : (ofText "🎉\n".toList).position? "🎉\n".toList 4 = some ⟨1, 2, 4, 2⟩ :=
    position?_bytes ['🎉'] ['\n']
  obtain ⟨horder, hcolumns, hseek⟩ := position?_identifies "🎉\n".toList
  refine ⟨hfour, hfive, horder 4 5 hfour hfive (by decide), hwalk, ?_, ?_⟩
  · obtain ⟨p, front, hp, hfront, -, hutf16⟩ := hcolumns 4 (.inl hfour)
    obtain rfl : ⟨1, 2, 4, 2⟩ = p := Option.some.inj (hwalk.symm.trans hp)
    have hcount : 2 = 1 + front.countP Text.supplementary := hutf16
    exact ⟨front, hfront, by omega⟩
  · obtain ⟨p, hp, -, hback⟩ := hseek 4 hfour
    obtain rfl : ⟨1, 2, 4, 2⟩ = p := Option.some.inj (hwalk.symm.trans hp)
    exact hback

end LineIndex

end Workbench
