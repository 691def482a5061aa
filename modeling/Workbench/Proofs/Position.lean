import Mathlib.Data.List.Induction
import Workbench.Position

/-!
# Positions that are found by way of the lines

Walking a text counts its newlines and its bytes (`line_walk`, `offset_walk`), and behind a newline
it begins a line of its own, whatever came before.  So a walk from the start of a line is the end of
the walk from the start of the text (`exists_lastLine`), and a look-up is right if it finds the
line: `position?_eq_walk`.

* `Place.Stands`   what the halving promises: a number that is found is there, and a missing one
                   belongs between its neighbours (`stands_bisect`);
* `line_spec`      the line of an offset begins at the offset or before it, the next one behind it;
* `line_eq`        and it is the only one that does.
-/

namespace Workbench

/-! ## halving -/

section
variable {ns : Array Nat} {n : Nat}

/-- what the place of a number says about the numbers around it -/
def Place.Stands (ns : Array Nat) (n : Nat) : Place → Prop
  | .found i => ns[i]? = some n
  | .missing i =>
    i ≤ ns.size ∧ (∀ j m, ns[j]? = some m → j < i → m < n) ∧ ∀ j m, ns[j]? = some m → i ≤ j → n < m

theorem lt_of_getElem? (hns : ns.toList.Pairwise (· < ·)) {i j a b : Nat} (hi : ns[i]? = some a)
    (hj : ns[j]? = some b) (hij : i < j) : a < b := by
  obtain ⟨hi', rfl⟩ := Array.getElem?_eq_some_iff.1 hi
  obtain ⟨hj', rfl⟩ := Array.getElem?_eq_some_iff.1 hj
  exact List.pairwise_iff_getElem.1 hns i j hi' hj' hij

/-- The numbers in front of the window are smaller, those behind it are larger, and each round
leaves it so. -/
theorem stands_bisect (hns : ns.toList.Pairwise (· < ·)) {lo hi : Nat}
    (hlo : ∀ j m, ns[j]? = some m → j < lo → m < n) (hhi : ∀ j m, ns[j]? = some m → hi ≤ j → n < m)
    (hle : lo ≤ hi) (hsize : hi ≤ ns.size) : (bisect ns n lo hi).Stands ns n := by
  fun_induction bisect ns n lo hi with
  | case1 lo hi hlt middle hnone =>
    have : ns.size ≤ middle := Array.getElem?_eq_none_iff.1 hnone
    omega
  | case2 lo hi hlt middle hm => exact hm
  | case3 lo hi hlt middle m hm hne hless ih =>
    refine ih (fun j a ha hj => ?_) hhi (by omega) hsize
    rcases Nat.lt_or_eq_of_le (Nat.le_of_lt_succ hj) with hj | rfl
    · exact Nat.lt_trans (lt_of_getElem? hns ha hm hj) hless
    · rw [hm] at ha
      injection ha with ha
      exact ha ▸ hless
  | case4 lo hi hlt middle m hm hne hless ih =>
    refine ih hlo (fun j a ha hj => ?_) (by omega) (by omega)
    have hnm : n < m := by omega
    rcases Nat.lt_or_eq_of_le hj with hj | rfl
    · exact Nat.lt_trans hnm (lt_of_getElem? hns hm ha hj)
    · rw [hm] at ha
      injection ha with ha
      exact ha ▸ hnm
  | case5 lo hi hge => exact ⟨by omega, hlo, fun j m hm hj => hhi j m hm (by omega)⟩

end

/-! ## the line of an offset -/

namespace LineIndex

theorem stands_line (index : LineIndex) (offset : Nat) :
    (bisect index.starts offset 0 index.starts.size).Stands index.starts offset := by
  refine stands_bisect index.increasing (fun j m _ hj => absurd hj (Nat.not_lt_zero j))
    (fun j m hm hj => ?_) (Nat.zero_le _) (Nat.le_refl _)
  obtain ⟨hj', -⟩ := Array.getElem?_eq_some_iff.1 hm
  omega

/-- the first line begins at 0, so where a number is missing there is a line to step back to -/
theorem pos_of_missing (index : LineIndex) {offset next : Nat}
    (h : bisect index.starts offset 0 index.starts.size = .missing next) : 0 < next := by
  have hstands := index.stands_line offset
  rw [h] at hstands
  rcases Nat.eq_zero_or_pos next with rfl | hpos
  · exact absurd (hstands.2.2 0 0 index.first (Nat.le_refl 0)) (Nat.not_lt_zero _)
  · exact hpos

/-- the line behind one that is not the last begins in front of all that follow it -/
theorem exists_next (index : LineIndex) {i j b : Nat} (hj : index.starts[j]? = some b)
    (hij : i < j) : ∃ m, index.starts[i + 1]? = some m ∧ m ≤ b := by
  obtain ⟨hsize, hb⟩ := Array.getElem?_eq_some_iff.1 hj
  have hnext : index.starts[i + 1]? = some index.starts[i + 1] := Array.getElem?_eq_getElem _
  refine ⟨_, hnext, ?_⟩
  rcases Nat.lt_or_eq_of_le (Nat.succ_le_of_lt hij) with hlt | rfl
  · exact Nat.le_of_lt (lt_of_getElem? index.increasing hnext hj hlt)
  · exact Nat.le_of_eq hb

/-- Every offset has a line, which begins at the offset or in front of it; the next one begins
behind it. -/
theorem line_spec (index : LineIndex) (offset : Nat) :
    ∃ s, index.starts[index.line offset]? = some s ∧ s ≤ offset
      ∧ ∀ m, index.starts[index.line offset + 1]? = some m → offset < m := by
  have hstands := index.stands_line offset
  rw [line]
  cases hb : bisect index.starts offset 0 index.starts.size with
  | found i =>
    rw [hb] at hstands
    have hi : index.starts[i]? = some offset := hstands
    exact ⟨offset, hi, Nat.le_refl _, fun m hm =>
      lt_of_getElem? index.increasing hi hm (Nat.lt_succ_self i)⟩
  | missing next =>
    have hpos := index.pos_of_missing hb
    rw [hb] at hstands
    obtain ⟨hsize, hbefore, hbehind⟩ := hstands
    have hlast : index.starts[next - 1]? = some index.starts[next - 1] :=
      Array.getElem?_eq_getElem (by omega)
    refine ⟨_, hlast, Nat.le_of_lt (hbefore _ _ hlast (by omega)), fun m hm => ?_⟩
    have hnext : next - 1 + 1 = next := Nat.sub_add_cancel hpos
    exact hbehind next m (hnext ▸ hm) (Nat.le_refl next)

/-- no other line does both -/
theorem line_eq (index : LineIndex) {offset k s : Nat} (hk : index.starts[k]? = some s)
    (hs : s ≤ offset) (hnext : ∀ m, index.starts[k + 1]? = some m → offset < m) :
    index.line offset = k := by
  obtain ⟨s', hline, hs', hnext'⟩ := index.line_spec offset
  rcases Nat.lt_trichotomy (index.line offset) k with hlt | heq | hlt
  · obtain ⟨m, hm, hle⟩ := index.exists_next hk hlt
    have := hnext' m hm
    omega
  · exact heq
  · obtain ⟨m, hm, hle⟩ := index.exists_next hline hlt
    have := hnext m hm
    omega

end LineIndex

/-! ## walking over lines -/

theorem startsBehind_append (n : Nat) (s t : Text) :
    startsBehind n (s ++ t) = startsBehind n s ++ startsBehind (n + s.bytes) t := by
  induction s generalizing n with
  | nil => rfl
  | cons c s ih =>
    rw [List.cons_append, startsBehind, startsBehind, ih, Text.bytes_cons, Nat.add_assoc]
    split <;> rfl

theorem startsBehind_newline (n : Nat) : startsBehind n ['\n'] = [n + Text.bytes ['\n']] := rfl

theorem startsBehind_of_ne {c : Char} (hc : c ≠ '\n') (n : Nat) : startsBehind n [c] = [] := by
  rw [startsBehind, if_neg hc, startsBehind]

namespace Position

theorem offset_advance (p : Position) (c : Char) :
    (p.advance c).offset = p.offset + c.utf8Size := by
  rw [advance]
  split <;> rfl

theorem offset_walk (p : Position) (t : Text) : (p.walk t).offset = p.offset + t.bytes := by
  induction t generalizing p with
  | nil => rfl
  | cons c t ih => rw [walk_cons, ih, offset_advance, Text.bytes_cons, Nat.add_assoc]

/-- a walk passes as many lines as there are newlines -/
theorem line_walk (p : Position) (n : Nat) (t : Text) :
    (p.walk t).line = p.line + (startsBehind n t).length := by
  induction t generalizing p n with
  | nil => rfl
  | cons c t ih =>
    rw [walk_cons, ih _ (n + c.utf8Size), advance, startsBehind]
    split
    · rw [List.length_cons]
      show p.line + 1 + _ = p.line + (_ + 1)
      omega
    · rfl

theorem walk_newline (p : Position) : p.walk ['\n'] = ⟨p.line + 1, 1, p.offset + 1, 0⟩ := rfl

end Position

/-- A text is its full lines and the last line behind them; the walk over the full lines ends at the
start of the last one. -/
theorem exists_lastLine (t : Text) : ∃ full last, t = full ++ last
    ∧ (0 :: startsBehind 0 t).getLast? = some full.bytes
    ∧ Position.start.walk full = ⟨(startsBehind 0 t).length + 1, 1, full.bytes, 0⟩ := by
  induction t using List.reverseRecOn with
  | nil => exact ⟨[], [], rfl, rfl, rfl⟩
  | append_singleton t c ih =>
    by_cases hc : c = '\n'
    · subst hc
      refine ⟨t ++ ['\n'], [], (List.append_nil _).symm, ?_, ?_⟩
      · rw [startsBehind_append, startsBehind_newline, Text.bytes_append, Nat.zero_add,
          ← List.cons_append, List.getLast?_concat]
      · rw [startsBehind_append, startsBehind_newline, List.length_append, Position.walk_append,
          Position.walk_newline, Position.line_walk _ 0, Position.offset_walk, Text.bytes_append]
        show Position.mk (1 + _ + 1) 1 (0 + _ + 1) 0 = ⟨_ + 1 + 1, 1, _ + 1, 0⟩
        rw [Nat.add_comm 1, Nat.zero_add]
    · obtain ⟨full, last, ht, hstart, hwalk⟩ := ih
      refine ⟨full, last ++ [c], by rw [ht, List.append_assoc], ?_, ?_⟩
      · rw [startsBehind_append, startsBehind_of_ne hc, List.append_nil, hstart]
      · rw [startsBehind_append, startsBehind_of_ne hc, List.append_nil, hwalk]

/-! ## looking up -/

namespace Text

/-- whether a character of the text begins at an offset, or the text ends there -/
def Boundary (t : Text) (offset : Nat) : Prop :=
  ∃ before behind, t = before ++ behind ∧ before.bytes = offset

end Text

namespace LineIndex

theorem position?_bytes (before behind : Text) :
    (ofText (before ++ behind)).position? (before ++ behind) before.bytes
      = some (Position.start.walk before) := by
  obtain ⟨full, last, ht, hstart, hwalk⟩ := exists_lastLine before
  have hmin : min before.bytes (before ++ behind).bytes = before.bytes := by
    rw [Text.bytes_append]
    omega
  have hstarts : (ofText (before ++ behind)).starts
      = ((0 :: startsBehind 0 before) ++ startsBehind before.bytes behind).toArray := by
    rw [starts_ofText, startsBehind_append, Nat.zero_add, List.cons_append]
  have hk : (ofText (before ++ behind)).starts[(startsBehind 0 before).length]?
      = some full.bytes := by
    rw [hstarts, List.getElem?_toArray, List.getElem?_append_left (Nat.lt_succ_self _), ← hstart,
      List.getLast?_eq_getElem?]
    rfl
  have hline : (ofText (before ++ behind)).line before.bytes = (startsBehind 0 before).length := by
    refine line_eq _ hk ?_ fun m hm => ?_
    · rw [ht, Text.bytes_append]
      exact Nat.le_add_right _ _
    · rw [hstarts, List.getElem?_toArray, ← List.length_cons (a := 0),
        List.getElem?_append_right (Nat.le_refl _)] at hm
      exact lt_of_mem_startsBehind m (List.mem_of_getElem? hm)
  have hslice : Text.slice (before ++ behind) full.bytes before.bytes = some last := by
    rw [ht, Text.bytes_append full last]
    exact Text.slice_append full last behind
  rw [position?, hmin, hline]
  simp only [hk, Option.bind_some, hslice, Option.map_some]
  rw [← hwalk, ← Position.walk_append, ← ht]

/-- The look-up by way of the lines gives the position of the walk over the text in front of the
offset, wherever a character begins and for every offset beyond the text. -/
theorem position?_eq_walk {t : Text} {offset : Nat} (h : t.Boundary offset ∨ t.bytes < offset) :
    ∃ before, Text.slice t 0 (min offset t.bytes) = some before
      ∧ (ofText t).position? t offset = some (Position.start.walk before) := by
  have hmin : t.Boundary (min offset t.bytes) := by
    rcases h with ⟨before, behind, rfl, rfl⟩ | h
    · refine ⟨before, behind, rfl, ?_⟩
      rw [Text.bytes_append]
      omega
    · exact ⟨t, [], (List.append_nil t).symm, (Nat.min_eq_right (Nat.le_of_lt h)).symm⟩
  obtain ⟨before, behind, ht, hbytes⟩ := hmin
  refine ⟨before, ?_, ?_⟩
  · have hslice := Text.slice_append [] before behind
    rw [Text.bytes_nil, Nat.zero_add, List.nil_append, ← ht, hbytes] at hslice
    exact hslice
  · have hposition := position?_bytes before behind
    rw [← ht, hbytes] at hposition
    rw [← hposition, position?, position?]
    have hidem : min (min offset t.bytes) t.bytes = min offset t.bytes := by omega
    rw [hidem]

/-- behind an empty line and a character of two UTF-16 units -/
theorem position?_eq_walk_behind_emoji :
    Text.slice "é\n\n🎉x".toList 0 8 = some "é\n\n🎉".toList
      ∧ (ofText "é\n\n🎉x".toList).position? "é\n\n🎉x".toList 8 = some ⟨3, 2, 8, 2⟩ := by
  have hboundary : Text.Boundary "é\n\n🎉x".toList 8 := ⟨"é\n\n🎉".toList, ['x'], rfl, rfl⟩
  obtain ⟨before, hslice, hposition⟩ := position?_eq_walk (.inl hboundary)
  have hbefore : Text.slice "é\n\n🎉x".toList 0 8 = some "é\n\n🎉".toList := by decide
  have hmin : min 8 (Text.bytes "é\n\n🎉x".toList) = 8 := by decide
  rw [hmin, hbefore] at hslice
  injection hslice with hslice
  rw [hposition, ← hslice]
  exact ⟨hbefore, rfl⟩

end LineIndex

end Workbench
