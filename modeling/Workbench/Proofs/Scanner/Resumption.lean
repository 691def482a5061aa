import Workbench.Proofs.Scanner.Lines

/-!
# Going on behind a line

A scan by lines sees nothing of a line behind its end but the stack.  So behind a text that ends in
a newline the lines of what follows are those of a scan of its own, from the stack there, counted
on: `scanLines_append`.  This holds of every table.

* `LineScan.shift`   a line behind more lines and more bytes;
* `endStack`         the stack behind the last line;
* `LineLocal.endStack_eq`   the stack of a scan of the whole, if no match looks behind a newline.
-/

namespace Workbench.Scanner

variable {S K : Type}

/-! ## lines further down -/

/-- a line as it is behind some more lines and bytes -/
def LineScan.shift (l : LineScan S K) (lines bytes : Nat) : LineScan S K :=
  ⟨l.line + lines, l.span.shift bytes, l.tokens.map (·.shift bytes), l.stack⟩

namespace RuleTable

variable [ScannerState S] [ScannerKind K]

theorem scanPieces_shift (table : RuleTable S K) (line offset lines bytes : Nat) (st : StateStack S)
    (ps : List Text) : table.scanPieces (line + lines) (offset + bytes) st ps
      = (table.scanPieces line offset st ps).map (·.shift lines bytes) := by
  induction ps generalizing line offset st with
  | nil => rfl
  | cons p ps ih =>
    rw [scanPieces, scanPieces, List.map_cons, Nat.add_right_comm line, Nat.add_right_comm offset,
      ih, ← map_shift_shift]
    rfl

/-! ## the stack behind lines -/

/-- the stack behind texts that are scanned one after the other -/
def stackBehind (table : RuleTable S K) (st : StateStack S) (ps : List Text) : StateStack S :=
  ps.foldl (fun st p => (table.scan st p).stack) st

/-- the stack behind the last line of a text, which is the first one if there is no line -/
def endStack (table : RuleTable S K) (st : StateStack S) (t : Text) : StateStack S :=
  ((table.scanLines st t).getLast?.map LineScan.stack).getD st

theorem getLast?_scanPieces (table : RuleTable S K) (line offset : Nat) (st : StateStack S)
    (ps : List Text) :
    ((table.scanPieces line offset st ps).getLast?.map LineScan.stack).getD st
      = table.stackBehind st ps := by
  induction ps generalizing line offset st with
  | nil => rfl
  | cons p ps ih =>
    rw [scanPieces, List.getLast?_cons, Option.map_some, Option.getD_some,
      ← Option.getD_map LineScan.stack]
    exact ih _ _ _

theorem endStack_eq_stackBehind (table : RuleTable S K) (st : StateStack S) (t : Text) :
    table.endStack st t = table.stackBehind st t.pieces :=
  table.getLast?_scanPieces 0 0 st t.pieces

/-- what holds of the stack behind every scan from such a stack holds behind every line -/
theorem forall_stack_scanPieces {table : RuleTable S K} {P : StateStack S → Prop}
    (hscan : ∀ st t, P st → P (table.scan st t).stack) (line offset : Nat) {st : StateStack S}
    (hst : P st) (ps : List Text) : ∀ l ∈ table.scanPieces line offset st ps, P l.stack := by
  induction ps generalizing line offset st with
  | nil => exact fun l hl => absurd hl List.not_mem_nil
  | cons p ps ih =>
    rw [scanPieces]
    exact List.forall_mem_cons.2 ⟨hscan st p hst, ih _ _ (hscan st p hst)⟩

/-! ## scans that go on -/

theorem scanPieces_append (table : RuleTable S K) (line offset : Nat) (st : StateStack S)
    (ps qs : List Text) :
    table.scanPieces line offset st (ps ++ qs) = table.scanPieces line offset st ps
      ++ table.scanPieces (line + ps.length) (offset + Text.bytes ps.flatten)
          (table.stackBehind st ps) qs := by
  induction ps generalizing line offset st with
  | nil => rfl
  | cons p ps ih =>
    have hline : line + 1 + ps.length = line + (p :: ps).length := by
      rw [List.length_cons, Nat.add_assoc, Nat.add_comm 1]
    have hoffset : offset + p.bytes + Text.bytes ps.flatten
        = offset + Text.bytes (p :: ps).flatten := by
      rw [List.flatten_cons, Text.bytes_append, Nat.add_assoc]
    rw [List.cons_append, scanPieces, scanPieces, List.cons_append, ih, hline, hoffset]
    rfl

/-- the lines behind a text that ends in a newline are those of a scan of their own, counted on -/
theorem scanLines_append (table : RuleTable S K) (st : StateStack S) {a : Text} (ha : a.Ended)
    (b : Text) : table.scanLines st (a ++ b) = table.scanLines st a
      ++ (table.scanLines (table.endStack st a) b).map (·.shift (a.count '\n') a.bytes) := by
  have hshift := table.scanPieces_shift 0 0 (a.count '\n') a.bytes (table.endStack st a) b.pieces
  rw [scanLines, ha.pieces_append, scanPieces_append, Text.flatten_pieces, ha.length_pieces,
    ← endStack_eq_stackBehind, hshift]
  rfl

/-! ## tables that look no further than a newline -/

variable {table : RuleTable S K}

theorem LineLocal.stackBehind_eq (h : table.LineLocal) (st : StateStack S) (ps : List Text)
    (hps : ∀ p ∈ ps.dropLast, Text.Ended p) :
    table.stackBehind st ps = (table.scan st ps.flatten).stack := by
  induction ps generalizing st with
  | nil => rw [List.flatten_nil, scan, moves_nil]; rfl
  | cons p ps ih =>
    rw [List.flatten_cons, scan_append h st p ps.flatten (ended_head hps)]
    exact ih _ (ended_tail hps)

/-- the stack behind the last line is that of a scan of the whole -/
theorem LineLocal.endStack_eq (h : table.LineLocal) (st : StateStack S) (t : Text) :
    table.endStack st t = (table.scan st t).stack := by
  rw [endStack_eq_stackBehind, h.stackBehind_eq st t.pieces t.ended_of_mem_pieces,
    Text.flatten_pieces]

end RuleTable

end Workbench.Scanner
