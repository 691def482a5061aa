import Workbench.Proofs.LineColumn
import Workbench.Proofs.Scanner.Cutting
import Workbench.Proofs.Scanner.Joined
import Workbench.Report

/-!
# The lines of a scan and the lines of positions

A scan by lines counts the pieces that it scans; a line index counts newlines.  They count the same:
above the line of a scan stand full lines, one for each newline, as many as its number says
(`PlacedLine`, `exists_placedLine`), and no token of the line begins behind the line's newline
(`PlacedLine.exists_front`).  So the position of a token has the line of its report, and the first
token of a line stands in the first column (`PlacedLine.position_token`,
`PlacedLine.position_first`).

* `exists_mapM`                   what is made of each element of a list makes a list, if each can
                                  be made;
* `LineReport.lines_eq_position`  scans by lines, reports and positions agree on the lines.
-/

namespace Workbench

open Scanner (Covers LineScan RuleTable ScannerKind ScannerState StateStack Token)

/-- one line for each newline, which begins behind it, and one in front of them -/
theorem LineIndex.lineCount_ofText (t : Text) :
    (LineIndex.ofText t).lineCount = t.count '\n' + 1 := by
  show (0 :: startsBehind 0 t).toArray.size = t.count '\n' + 1
  rw [List.size_toArray, List.length_cons, length_startsBehind]

/-- a part of a text begins where a character does -/
theorem Text.boundary_of_slice {t x : Text} {start stop : Nat}
    (h : Text.slice t start stop = some x) : t.Boundary start := by
  obtain ⟨before, behind, ht, hbytes, -⟩ := exists_of_slice h
  exact ⟨before, x ++ behind, by rw [ht, List.append_assoc], hbytes⟩

/-! ## lines with what stands above them -/

section
variable {S K : Type}

/-- a line of a scan of a text, behind full lines whose number is that of the line -/
structure PlacedLine (t : Text) (l : LineScan S K) (above line : Text) : Prop where
  text : ∃ below, t = above ++ line ++ below
  ended : above.Ended
  number : above.count '\n' = l.line
  ne_nil : line ≠ []
  newline : '\n' ∉ line.dropLast
  tokens : Covers t above.bytes line (above.bytes + line.bytes) l.tokens

variable [ScannerState S] [ScannerKind K]

theorem exists_placedLine (table : RuleTable S K) (st : StateStack S) {a : Text} (ha : a.Ended)
    {ps : List Text} (hne : ∀ p ∈ ps, p ≠ []) (hnewline : ∀ p ∈ ps, '\n' ∉ p.dropLast)
    (hended : ∀ p ∈ ps.dropLast, ∃ l, p = l ++ ['\n']) :
    ∀ l ∈ table.scanPieces (a.count '\n') a.bytes st ps,
      ∃ above line, PlacedLine (a ++ ps.flatten) l above line := by
  induction ps generalizing a st with
  | nil => exact fun l hl => absurd hl List.not_mem_nil
  | cons p ps ih =>
    obtain ⟨hp, hps⟩ := List.forall_mem_cons.1 hne
    obtain ⟨hpnewline, hpsnewline⟩ := List.forall_mem_cons.1 hnewline
    rw [RuleTable.scanPieces, List.flatten_cons, ← List.append_assoc]
    refine List.forall_mem_cons.2 ⟨⟨a, p, ?_⟩, ?_⟩
    · exact ⟨⟨ps.flatten, rfl⟩, ha, rfl, hp, hpnewline, table.covers_scan_part st a p ps.flatten⟩
    · cases ps with
      | nil => exact fun l hl => absurd hl List.not_mem_nil
      | cons q qs =>
        rw [List.dropLast_cons_cons] at hended
        obtain ⟨⟨x, rfl⟩, hrest⟩ := List.forall_mem_cons.1 hended
        -- the newline at the end of the line is the only one in it
        have hcount : (a ++ (x ++ ['\n'])).count '\n' = a.count '\n' + 1 := by
          rw [List.dropLast_concat] at hpnewline
          rw [List.count_append, List.count_append, List.count_eq_zero.2 hpnewline]
          rfl
        have ih' := ih (table.scan st (x ++ ['\n'])).stack
          (ha.append (Text.ended_append_newline x)) hps hpsnewline hrest
        rwa [hcount, Text.bytes_append] at ih'

theorem exists_placedLine_of_mem (table : RuleTable S K) (st : StateStack S) (t : Text) :
    ∀ l ∈ table.scanLines st t, ∃ above line, PlacedLine t l above line := by
  have h := exists_placedLine table st Text.ended_nil t.pieces_ne_nil t.newline_not_mem_dropLast
    t.ended_of_mem_dropLast
  rwa [List.nil_append, Text.flatten_pieces] at h

theorem line_of_getElem? {table : RuleTable S K} {st : StateStack S} {t : Text} {k : Nat}
    {l : LineScan S K} (h : (table.scanLines st t)[k]? = some l) : l.line = k := by
  have hline : ((table.scanLines st t).map LineScan.line)[k]? = some l.line := by
    rw [List.getElem?_map, h]
    rfl
  rw [RuleTable.scanLines, RuleTable.numbers_scanPieces] at hline
  obtain ⟨_, hk⟩ := List.getElem?_eq_some_iff.1 hline
  rw [List.getElem_range'] at hk
  omega

theorem lineCount_eq_length_scanLines (table : RuleTable S K) (st : StateStack S) (t : Text) :
    (LineIndex.ofText t).lineCount = (table.scanLines st t).length
      + if t = [] ∨ t.getLast? = some '\n' then 1 else 0 := by
  rw [RuleTable.scanLines, RuleTable.length_scanPieces, Text.length_pieces_add,
    LineIndex.lineCount_ofText]

end

namespace PlacedLine

variable {S K : Type} {t above line : Text} {l : LineScan S K} (h : PlacedLine t l above line)
include h

theorem exists_text {u : Token K} (hu : u ∈ l.tokens) : ∃ x, u.text? t = some x := by
  obtain ⟨lexemes, htexts, -⟩ := h.tokens.texts
  have htext : u.text? t ∈ lexemes.map some := htexts ▸ List.mem_map_of_mem hu
  obtain ⟨x, -, hx⟩ := List.mem_map.1 htext
  exact ⟨x, hx.symm⟩

/-- a token begins behind a front of its line, in which there is no newline -/
theorem exists_front {u : Token K} (hu : u ∈ l.tokens) :
    ∃ front behind, t = above ++ front ++ behind ∧ (above ++ front).bytes = u.span.start
      ∧ '\n' ∉ front := by
  obtain ⟨below, ht⟩ := h.text
  obtain ⟨x, hx⟩ := h.exists_text hu
  obtain ⟨before, behind, ht', hbytes⟩ := Text.boundary_of_slice hx
  obtain ⟨hstart, hlt, hstop⟩ := h.tokens.tiles.bounds_tokens u hu
  have habove : above ++ (line ++ below) = before ++ behind := by
    rw [← List.append_assoc, ← ht, ht']
  obtain ⟨front, rfl, hrest⟩ := Text.exists_append_of_bytes_le habove (by omega)
  rw [Text.bytes_append] at hbytes
  obtain ⟨tail, rfl, -⟩ := Text.exists_append_of_bytes_le hrest.symm (by omega)
  have htail : tail ≠ [] := by
    rintro rfl
    rw [List.append_nil] at hstop
    omega
  have hnewline := h.newline
  rw [List.dropLast_append_of_ne_nil htail, List.mem_append, not_or] at hnewline
  exact ⟨front, behind, ht', by rw [Text.bytes_append, hbytes], hnewline.1⟩

theorem position_token {u : Token K} (hu : u ∈ l.tokens) :
    ∃ p, (LineIndex.ofText t).position? t u.span.start = some p ∧ p.line = l.line + 1 := by
  obtain ⟨front, behind, rfl, hbytes, hfront⟩ := h.exists_front hu
  refine ⟨_, hbytes ▸ LineIndex.position?_bytes (above ++ front) behind, ?_⟩
  rw [Position.walk_append, Position.walk_of_ended h.ended, Position.walk_of_not_mem _ hfront,
    h.number]

theorem position_first :
    ∃ u p, l.tokens.head? = some u ∧ (LineIndex.ofText t).position? t u.span.start = some p
      ∧ p.column = 1 ∧ p.utf16Column = 0 := by
  obtain ⟨below, rfl⟩ := h.text
  have htiles := h.tokens.tiles
  cases hl : l.tokens with
  | nil =>
    rw [hl] at htiles
    have hempty : above.bytes = above.bytes + line.bytes := htiles
    have := Scanner.bytes_pos h.ne_nil
    omega
  | cons u us =>
    rw [hl] at htiles
    have hstart : u.span.start = above.bytes := htiles.1
    refine ⟨u, Position.start.walk above, rfl, ?_, ?_⟩
    · rw [hstart, List.append_assoc]
      exact LineIndex.position?_bytes above (line ++ below)
    · rw [Position.walk_of_ended h.ended]
      exact ⟨rfl, rfl⟩

end PlacedLine

/-! ## reports -/

theorem exists_mapM_of_forall₂ {α β γ : Type} {f : α → Option β} {P : β → γ → Prop} {xs : List α}
    {zs : List γ} (h : List.Forall₂ (fun x z => ∃ y, f x = some y ∧ P y z) xs zs) :
    ∃ ys, xs.mapM f = some ys ∧ List.Forall₂ P ys zs := by
  induction h with
  | nil => exact ⟨[], rfl, .nil⟩
  | cons hxz _ ih =>
    obtain ⟨y, hy, hP⟩ := hxz
    obtain ⟨ys, hys, hPs⟩ := ih
    refine ⟨y :: ys, ?_, .cons hP hPs⟩
    rw [List.mapM_cons, hy, hys]
    rfl

theorem exists_mapM {α β : Type} {f : α → Option β} {P : α → β → Prop} {xs : List α}
    (h : ∀ x ∈ xs, ∃ y, f x = some y ∧ P x y) :
    ∃ ys, xs.mapM f = some ys ∧ List.Forall₂ P xs ys := by
  obtain ⟨ys, hys, hall⟩ := exists_mapM_of_forall₂ (P := flip P) (List.forall₂_same.2 h)
  exact ⟨ys, hys, hall.flip⟩

namespace LineReport

/-- a line of a scan has a row for each of its tokens, in the line of its report -/
theorem exists_ofLine {t above line : Text} {l : LineScan Riff.State Riff.Kind}
    (h : PlacedLine t l above line) :
    ∃ r, ofLine? t (LineIndex.ofText t) l = some r
      ∧ r.line = l.line + 1 ∧ r.rows.length = l.tokens.length
      ∧ ∀ row ∈ r.rows, row.line = r.line := by
  have hrows : ∀ u ∈ l.tokens, ∃ row, Row.ofToken? t (LineIndex.ofText t) u = some row
      ∧ row.line = l.line + 1 := by
    intro u hu
    obtain ⟨p, hp, hline⟩ := h.position_token hu
    obtain ⟨x, hx⟩ := h.exists_text hu
    refine ⟨⟨u.kind, u.span.start, u.span.stop, p.line, p.column, p.utf16Column, x⟩, ?_, hline⟩
    rw [Row.ofToken?, hp, hx]
  obtain ⟨rows, hmap, hall⟩ := exists_mapM hrows
  have hlines : ∀ row ∈ rows, row.line = l.line + 1 :=
    ((List.forall₂_and_left _ _).1 (hall.flip.imp fun _ _ h => ⟨h, trivial⟩)).1
  refine ⟨⟨l.line + 1, rows, l.stack⟩, ?_, rfl, hall.length_eq.symm, hlines⟩
  rw [ofLine?, Row.ofTokens?, hmap]
  rfl

/-- The lines of a scan by lines are those of the positions of its tokens, and each begins in the
first column; so every row of a report stands in the line of the report.  There are as many lines as
the line index counts, but for the empty line at the end of a text that is empty or ends in a
newline. -/
theorem lines_eq_position (t : Text) (initial : Option Riff.Stack) :
    (∀ k l, (Riff.scanLines t initial)[k]? = some l →
      l.line = k
      ∧ (∀ u ∈ l.tokens, ∃ p,
        (LineIndex.ofText t).position? t u.span.start = some p ∧ p.line = k + 1)
      ∧ ∃ u p, l.tokens.head? = some u ∧ (LineIndex.ofText t).position? t u.span.start = some p
        ∧ p.column = 1 ∧ p.utf16Column = 0)
    ∧ (∃ reports, ofLines? t (LineIndex.ofText t) (Riff.scanLines t initial) = some reports
      ∧ List.Forall₂ (fun l r => r.line = l.line + 1 ∧ r.rows.length = l.tokens.length
          ∧ ∀ row ∈ r.rows, row.line = r.line) (Riff.scanLines t initial) reports)
    ∧ (LineIndex.ofText t).lineCount = (Riff.scanLines t initial).length
      + if t = [] ∨ t.getLast? = some '\n' then 1 else 0 := by
  have hplaced := exists_placedLine_of_mem Riff.table (initial.getD .fresh) t
  refine ⟨fun k l hk => ?_, exists_mapM fun l hl => ?_, lineCount_eq_length_scanLines _ _ t⟩
  · obtain ⟨above, line, h⟩ := hplaced l (List.mem_of_getElem? hk)
    obtain rfl := line_of_getElem? hk
    exact ⟨rfl, fun u hu => h.position_token hu, h.position_first⟩
  · obtain ⟨above, line, h⟩ := hplaced l hl
    exact exists_ofLine h

/-- in the third line, behind an empty one -/
theorem lines_eq_position_third :
    ∃ l, (Riff.scanLines "a\r\n\né".toList none)[2]? = some l
      ∧ l.line = 2
      ∧ (∀ u ∈ l.tokens, ∃ p,
        (LineIndex.ofText "a\r\n\né".toList).position? "a\r\n\né".toList u.span.start = some p
          ∧ p.line = 3)
      ∧ ∃ u p, l.tokens.head? = some u
        ∧ (LineIndex.ofText "a\r\n\né".toList).position? "a\r\n\né".toList u.span.start = some p
        ∧ p.column = 1 ∧ p.utf16Column = 0 := by
  obtain ⟨hlines, -, hcount⟩ := lines_eq_position "a\r\n\né".toList none
  have hindex : (LineIndex.ofText "a\r\n\né".toList).lineCount = 3 := by decide
  have hend : ¬ ("a\r\n\né".toList = [] ∨ "a\r\n\né".toList.getLast? = some '\n') := by decide
  rw [hindex, if_neg hend] at hcount
  have hthird : 2 < (Riff.scanLines "a\r\n\né".toList none).length := by omega
  exact ⟨_, List.getElem?_eq_getElem hthird, hlines 2 _ (List.getElem?_eq_getElem hthird)⟩

end LineReport

end Workbench
