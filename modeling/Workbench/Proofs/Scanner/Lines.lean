import Workbench.Proofs.Scanner.Run
import Workbench.Proofs.Text.Lines

/-!
# Scanning by lines

A table is `LineLocal` if no match of its rules depends on what follows the next newline.  Then a
scan of a text that ends in a newline is the first part of every scan of a text that goes on behind
it (`Run.append`, `scan_append`), and so the lines of a scan by lines have the tokens and the stacks
of a scan of the whole: `tokens_scanLines`, `stacks_scanLines`.
-/

namespace Workbench.Scanner

variable {S K : Type} [ScannerState S]

/-- tokens moved twice -/
theorem map_shift_shift (ts : List (Token K)) (m n : Nat) :
    (ts.map (·.shift m)).map (·.shift n) = ts.map (·.shift (m + n)) := by
  rw [List.map_map]
  exact List.map_congr_left fun t _ => t.shift_shift m n

namespace RuleTable

/-! ## tables that look no further than a newline -/

/-- where a rule matches does not depend on what follows a newline -/
def LineLocal (table : RuleTable S K) : Prop :=
  ∀ s, ∀ r ∈ table.rules s, ∀ a : Text, '\n' ∈ a → ∀ b : Text,
    r.matchEnd? (a ++ b) = r.matchEnd? a

theorem le_of_select {table : RuleTable S K} {s : S} {t : Text} {r : Rule S K} {n : Nat}
    (h : table.select s t = some (r, n)) : n ≤ t.length := by
  obtain ⟨q, -, hq⟩ := List.exists_of_findSome?_eq_some h
  obtain ⟨m, hm, hqm⟩ := Option.map_eq_some_iff.1 hq
  injection hqm with _ hmn
  exact hmn ▸ q.matchEnd?_le t m hm

variable {table : RuleTable S K} {st st' : StateStack S}

theorem LineLocal.select_append (h : table.LineLocal) (s : S) {a : Text} (ha : '\n' ∈ a)
    (b : Text) : table.select s (a ++ b) = table.select s a := by
  have hr : ∀ rs : List (Rule S K), (∀ r ∈ rs, r ∈ table.rules s) →
      rs.findSome? (fun r => (r.matchEnd? (a ++ b)).map (r, ·))
        = rs.findSome? fun r => (r.matchEnd? a).map (r, ·) := by
    intro rs hrs
    induction rs with
    | nil => rfl
    | cons r rs ih =>
      rw [List.findSome?_cons, List.findSome?_cons, h s r (hrs r List.mem_cons_self) a ha b,
        ih fun q hq => hrs q (List.mem_cons_of_mem _ hq)]
  exact hr _ fun _ hr => hr

variable [ScannerKind K]

theorem LineLocal.move_append (h : table.LineLocal) (st : StateStack S) {c : Char} {t : Text}
    (ht : '\n' ∈ c :: t) (b : Text) : table.move st c (t ++ b) = table.move st c t := by
  have hs := h.select_append st.top ht b
  rw [List.cons_append] at hs
  unfold move
  rw [hs]
  cases hsel : table.select st.top (c :: t) with
  | none => rfl
  | some p =>
    obtain ⟨r, n⟩ := p
    cases n with
    | zero => rfl
    | succ n =>
      have hn : n + 1 ≤ t.length + 1 := le_of_select hsel
      simp only [List.take_append_of_le_length (Nat.le_of_succ_le_succ hn)]

/-- a run on a text that ends in a newline is a run on every text that goes on behind it -/
theorem Run.append (h : table.LineLocal) {t t' : Text} {ms : List (Move S K)}
    (run : table.Run st t ms st' t') (ht : t.Ended) (b : Text) :
    table.Run st (t ++ b) ms st' (t' ++ b) := by
  induction run with
  | done => exact .done _ _
  | @move st st' c t rest t' m ms hm htm _ ih =>
    have hmove : table.move st c (t ++ b) = m :=
      (h.move_append st (ht.mem (List.cons_ne_nil c t)) b).trans hm
    have hrest : c :: (t ++ b) = m.lexeme ++ (rest ++ b) := by
      rw [← List.append_assoc, ← htm, List.cons_append]
    exact .move hmove hrest (ih (htm ▸ ht).of_append)

/-- a scan goes on behind a newline with the stack that it has there -/
theorem scan_append (h : table.LineLocal) (st : StateStack S) (a b : Text)
    (ha : b ≠ [] → a.Ended) :
    table.scan st (a ++ b) = ⟨(table.scan st a).tokens
        ++ (table.scan (table.scan st a).stack b).tokens.map (·.shift a.bytes),
      (table.scan (table.scan st a).stack b).stack⟩ := by
  have run : table.Run st (a ++ b) (table.moves st a) (table.scan st a).stack b := by
    by_cases hb : b = []
    · rw [hb, List.append_nil]
      exact table.run_moves st a
    · exact (table.run_moves st a).append h (ha hb) b
  rw [run.scan_eq, lexemes_moves]
  rfl

/-! ## lines -/

/-- what the lines of a text are: all but the last of them end in a newline -/
theorem ended_head {p : Text} {ps : List Text} (h : ∀ q ∈ (p :: ps).dropLast, Text.Ended q)
    (hps : ps.flatten ≠ []) : p.Ended := by
  cases ps with
  | nil => exact absurd rfl hps
  | cons q ps => exact h p (by rw [List.dropLast_cons_cons]; exact List.mem_cons_self)

theorem ended_tail {p : Text} {ps : List Text} (h : ∀ q ∈ (p :: ps).dropLast, Text.Ended q) :
    ∀ q ∈ ps.dropLast, Text.Ended q := by
  cases ps with
  | nil => intro q hq; cases hq
  | cons q ps =>
    intro x hx
    exact h x (by rw [List.dropLast_cons_cons]; exact List.mem_cons_of_mem _ hx)

theorem tokens_scanPieces (h : table.LineLocal) (line offset : Nat) (st : StateStack S)
    (ps : List Text) (hps : ∀ p ∈ ps.dropLast, Text.Ended p) :
    (table.scanPieces line offset st ps).flatMap LineScan.tokens
      = (table.scan st ps.flatten).tokens.map (·.shift offset) := by
  induction ps generalizing line offset st with
  | nil => rw [scanPieces, List.flatten_nil, scan, moves_nil]; rfl
  | cons p ps ih =>
    rw [scanPieces, List.flatMap_cons, ih _ _ _ (ended_tail hps), List.flatten_cons,
      scan_append h st p ps.flatten (ended_head hps), List.map_append, map_shift_shift,
      Nat.add_comm p.bytes]

/-- the stack of each line is that of a scan of all the text up to the end of the line; `a` is the
text in front of the lines -/
theorem stacks_scanPieces (h : table.LineLocal) (line : Nat) (st : StateStack S) (a : Text)
    (ps : List Text) (ha : a.Ended) (hps : ∀ p ∈ ps.dropLast, Text.Ended p) :
    (table.scanPieces line a.bytes (table.scan st a).stack ps).map (fun l =>
        (Text.slice (a ++ ps.flatten) 0 l.span.stop).map fun b => (table.scan st b).stack)
      = (table.scanPieces line a.bytes (table.scan st a).stack ps).map fun l => some l.stack := by
  induction ps generalizing line a with
  | nil => rfl
  | cons p ps ih =>
    have hstack :
        (table.scan st (a ++ p)).stack = (table.scan (table.scan st a).stack p).stack := by
      rw [scan_append h st a p fun _ => ha]
    have hslice : Text.slice (a ++ (p ++ ps.flatten)) 0 (a.bytes + p.bytes) = some (a ++ p) := by
      have hs := Text.slice_append [] (a ++ p) ps.flatten
      rwa [Text.bytes_nil, Nat.zero_add, Text.bytes_append, List.nil_append,
        List.append_assoc] at hs
    rw [scanPieces, List.map_cons, List.map_cons, List.flatten_cons]
    congr 1
    · rw [hslice, Option.map_some, hstack]
    · cases ps with
      | nil => rfl
      | cons q ps =>
        have hp : p.Ended := hps p (by rw [List.dropLast_cons_cons]; exact List.mem_cons_self)
        have ih' := ih (line + 1) (a ++ p) (ha.append hp) (ended_tail hps)
        rwa [hstack, Text.bytes_append, List.append_assoc] at ih'

/-- the lines have the tokens of the whole -/
theorem LineLocal.tokens_scanLines (h : table.LineLocal) (st : StateStack S) (t : Text) :
    (table.scanLines st t).flatMap LineScan.tokens = (table.scan st t).tokens := by
  rw [scanLines, tokens_scanPieces h 0 0 st t.pieces t.ended_of_mem_pieces, Text.flatten_pieces]
  simp

/-- each line has the stack of the text up to its end -/
theorem LineLocal.stacks_scanLines (h : table.LineLocal) (st : StateStack S) (t : Text) :
    (table.scanLines st t).map (fun l =>
        (Text.slice t 0 l.span.stop).map fun a => (table.scan st a).stack)
      = (table.scanLines st t).map fun l => some l.stack := by
  have hnil : (table.scan st []).stack = st := by rw [scan, moves_nil]; rfl
  have hp := stacks_scanPieces h 0 st [] t.pieces Text.ended_nil t.ended_of_mem_pieces
  rwa [hnil, Text.bytes_nil, List.nil_append, Text.flatten_pieces] at hp

end RuleTable

end Workbench.Scanner
