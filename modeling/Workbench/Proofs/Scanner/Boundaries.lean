import Workbench.Proofs.Scanner.Tiling

/-!
# Token boundaries

Behind each token of a scan there is a stack, which the tokens do not show: `stackAt`.  A run is
what leads there.  Where the tokens of a scan are cut in two, the first part shows the pieces of a
run from the start of the text, and the second part those of the moves behind it
(`exists_run_of_tokens_eq`); and where a run ends the tokens can be cut (`Run.boundary`).

* `Boundary`   a place between two tokens, with the tokens in front of it and the stack there.
-/

namespace Workbench.Scanner

variable {S K : Type}

@[simp] theorem length_layout (n : Nat) (ps : List (K × Text)) :
    (layout n ps).length = ps.length := by
  rw [← List.length_map Token.kind, RuleTable.kinds_layout, List.length_map]

namespace RuleTable

variable [ScannerState S] [ScannerKind K]

/-- the stack behind the first `n` tokens of a scan -/
def stackAt (table : RuleTable S K) (st : StateStack S) (t : Text) (n : Nat) : StateStack S :=
  finalStack st ((table.moves st t).take n)

@[simp] theorem stackAt_zero (table : RuleTable S K) (st : StateStack S) (t : Text) :
    table.stackAt st t 0 = st := rfl

@[simp] theorem length_tokens (table : RuleTable S K) (st : StateStack S) (t : Text) :
    (table.scan st t).tokens.length = (table.moves st t).length := by
  simp [scan]

@[simp] theorem stackAt_length_moves (table : RuleTable S K) (st : StateStack S) (t : Text) :
    table.stackAt st t (table.moves st t).length = (table.scan st t).stack := by
  simp [stackAt, scan]

/-- Where the tokens of a scan are cut in two, a run leads from the start of the text to the stack
there; the tokens in front of the cut show its pieces. -/
theorem exists_run_of_tokens_eq (table : RuleTable S K) {st : StateStack S} {t : Text}
    {before after : List (Token K)} (h : (table.scan st t).tokens = before ++ after) :
    ∃ ms t', table.Run st t ms (table.stackAt st t before.length) t'
      ∧ before.map (·.piece? t) = (ms.map Move.piece).map some
      ∧ after.map (·.piece? t)
        = ((table.moves (table.stackAt st t before.length) t').map Move.piece).map some := by
  have hlen : before.length ≤ (table.moves st t).length := by
    rw [← table.length_tokens, h, List.length_append]
    exact Nat.le_add_right _ _
  have hsplit := (List.take_append_drop before.length (table.moves st t)).symm
  obtain ⟨t', run, hbehind⟩ := table.exists_run_of_moves_eq hsplit
  have hpieces := table.pieces_scan st t
  rw [h, hsplit, List.map_append, List.map_append, List.map_append] at hpieces
  obtain ⟨hbefore, hafter⟩ := List.append_inj hpieces (by simp [hlen])
  refine ⟨_, t', run, hbefore, ?_⟩
  rw [hafter, ← hbehind]
  rfl

/-- The scan of a text has a boundary behind its first `n` characters: the tokens `before` cover
these, the stack behind them is `st'`, and what follows is the scan of the rest from it. -/
structure Boundary (table : RuleTable S K) (st : StateStack S) (t : Text) (n : Nat)
    (before : List (Token K)) (st' : StateStack S) : Prop where
  covers : Covers t 0 (t.take n) (Text.bytes (t.take n)) before
  stackAt_eq : table.stackAt st t before.length = st'
  tokens : (table.scan st t).tokens
    = before ++ (table.scan st' (t.drop n)).tokens.map (·.shift (Text.bytes (t.take n)))
  stack : (table.scan st t).stack = (table.scan st' (t.drop n)).stack

/-- a run leads to a boundary -/
theorem Run.boundary {table : RuleTable S K} {st st' : StateStack S} {t : Text} {n : Nat}
    {ms : List (Move S K)} (run : table.Run st t ms st' (t.drop n)) :
    table.Boundary st t n (layout 0 (ms.map Move.piece)) st' := by
  have hscan := run.scan_eq
  have hlexemes := run.lexemes_of_drop
  rw [hlexemes] at hscan
  refine ⟨?_, ?_, by rw [hscan], by rw [hscan]⟩
  · have hne : ∀ p ∈ ms.map Move.piece, p.2 ≠ [] := by
      intro p hp
      obtain ⟨m, hm, rfl⟩ := List.mem_map.1 hp
      exact run.lexeme_ne_nil m hm
    have hcovers := covers_layout [] (t.drop n) (ms.map Move.piece) hne
    rwa [flatten_pieces_eq_lexemes, hlexemes, List.nil_append, List.take_append_drop,
      Text.bytes_nil, Nat.zero_add] at hcovers
  · rw [stackAt, length_layout, List.length_map, run.moves_eq, List.take_left, run.finalStack_eq]

end RuleTable

end Workbench.Scanner
