import Workbench.Scanner.Scan

/-!
# Runs of the scanner

A run goes from a stack at a text to a stack at what is left of the text, by a list of moves.  The
runs that begin where a scan begins are the token boundaries of the scan: each first part of its
moves is a run (`exists_run_of_moves_eq`), and each run is a first part (`Run.moves_eq`).

* `Run.lexemes`     the lexemes of a run and what it leaves make up the text;
* `Run.trans`       a run goes on from where another ends;
* `Run.scan_eq`     the scan of the text is the tokens of the run, then the scan of what is left;
* `scan_of_run`     a run to the end of the text is the whole scan.
-/

namespace Workbench.Scanner

variable {S K : Type}

namespace RuleTable

/-! ## lists of moves -/

@[simp] theorem finalStack_cons (st : StateStack S) (m : Move S K) (ms : List (Move S K)) :
    finalStack st (m :: ms) = finalStack m.after ms := by
  cases ms with
  | nil => rfl
  | cons m' ms =>
    show ((m :: m' :: ms).getLast?.map Move.after).getD st
      = ((m' :: ms).getLast?.map Move.after).getD m.after
    rw [List.getLast?_cons_cons, List.getLast?_eq_some_getLast (List.cons_ne_nil m' ms)]
    rfl

theorem flatten_pieces_eq_lexemes (ms : List (Move S K)) :
    ((ms.map Move.piece).map Prod.snd).flatten = (ms.map Move.lexeme).flatten := by
  rw [List.map_map]
  rfl

@[simp] theorem kinds_layout (n : Nat) (ps : List (K × Text)) :
    (layout n ps).map Token.kind = ps.map Prod.fst := by
  induction ps generalizing n with
  | nil => rfl
  | cons p ps ih =>
    obtain ⟨k, t⟩ := p
    rw [layout_cons, List.map_cons, List.map_cons, ih]

/-- the tokens of moves have the kinds of the moves -/
theorem kind_of_mem_layout {P : K → Prop} {n : Nat} {ms : List (Move S K)}
    (h : ∀ m ∈ ms, P m.kind) : ∀ token ∈ layout n (ms.map Move.piece), P token.kind := by
  intro token htoken
  have hkind : token.kind ∈ (ms.map Move.piece).map Prod.fst := by
    rw [← kinds_layout n]
    exact List.mem_map_of_mem htoken
  rw [List.map_map] at hkind
  obtain ⟨m, hm, hmk⟩ := List.mem_map.1 hkind
  exact hmk ▸ h m hm

variable [ScannerState S] [ScannerKind K]

/-! ## one move -/

/-- the lexeme of a move is not empty -/
theorem lexeme_move_ne_nil (table : RuleTable S K) (st : StateStack S) (c : Char) (t : Text) :
    (table.move st c t).lexeme ≠ [] := by
  rw [lexeme_move]
  exact List.cons_ne_nil _ _

/-- a move takes its lexeme from the front of the text -/
theorem lexeme_append_drop (table : RuleTable S K) (st : StateStack S) (c : Char) (t : Text) :
    (table.move st c t).lexeme ++ t.drop ((table.move st c t).lexeme.length - 1) = c :: t := by
  conv => lhs; arg 1; rw [lexeme_move]
  rw [List.cons_append, List.take_append_drop]

/-- what a move does with the rule that it finds; it takes at least a character -/
theorem move_of_select {table : RuleTable S K} {st : StateStack S} {c : Char} {t : Text}
    {r : Rule S K} {n : Nat} (h : table.select st.top (c :: t) = some (r, n)) :
    table.move st c t = ⟨st, if n = 0 then .forced else .matched, r.kind,
      (c :: t).take (max 1 n), r.action⟩ := by
  unfold move
  rw [h]
  cases n with
  | zero => rfl
  | succ n =>
    have hmax : max 1 (n + 1) = n + 1 := by omega
    simp only [hmax, Nat.succ_ne_zero, if_false, List.take_succ_cons]

/-! ## runs -/

/-- `table.Run st t ms st' t'`: from the stack `st` at the text `t` the moves `ms` lead to the stack
`st'` at `t'` -/
inductive Run (table : RuleTable S K) :
    StateStack S → Text → List (Move S K) → StateStack S → Text → Prop where
  | done (st : StateStack S) (t : Text) : table.Run st t [] st t
  | move {st st' : StateStack S} {c : Char} {t rest t' : Text} {m : Move S K}
      {ms : List (Move S K)} (hm : table.move st c t = m) (ht : c :: t = m.lexeme ++ rest)
      (run : table.Run m.after rest ms st' t') : table.Run st (c :: t) (m :: ms) st' t'

namespace Run

variable {table : RuleTable S K} {st st' st'' : StateStack S} {t t' t'' : Text}
  {ms ms' : List (Move S K)}

/-- a run of a single move -/
theorem single {c : Char} {rest : Text} {m : Move S K} (hm : table.move st c t = m)
    (ht : c :: t = m.lexeme ++ rest) : table.Run st (c :: t) [m] m.after rest :=
  .move hm ht (.done _ _)

theorem trans (h : table.Run st t ms st' t') (h' : table.Run st' t' ms' st'' t'') :
    table.Run st t (ms ++ ms') st'' t'' := by
  induction h with
  | done => exact h'
  | move hm ht _ ih => exact .move hm ht (ih h')

/-- the lexemes of a run and what it leaves make up the text -/
theorem lexemes (h : table.Run st t ms st' t') : (ms.map Move.lexeme).flatten ++ t' = t := by
  induction h with
  | done => rfl
  | move hm ht _ ih => rw [List.map_cons, List.flatten_cons, List.append_assoc, ih, ht]

theorem lexemes_of_drop {n : Nat} (h : table.Run st t ms st' (t.drop n)) :
    (ms.map Move.lexeme).flatten = t.take n :=
  List.append_cancel_right (h.lexemes.trans (List.take_append_drop n t).symm)

/-- what holds of every move holds of the moves of a run -/
theorem forall_moves {P : Move S K → Prop} (hP : ∀ st c t, P (table.move st c t))
    (h : table.Run st t ms st' t') : ∀ m ∈ ms, P m := by
  induction h with
  | done => exact fun m hm => absurd hm List.not_mem_nil
  | @move st st' c t rest t' m ms hm _ _ ih => exact List.forall_mem_cons.2 ⟨hm ▸ hP st c t, ih⟩

/-- each move of a run takes characters -/
theorem lexeme_ne_nil (h : table.Run st t ms st' t') : ∀ m ∈ ms, m.lexeme ≠ [] :=
  h.forall_moves table.lexeme_move_ne_nil

/-- the stack where a run ends is the one after its last move -/
theorem finalStack_eq (h : table.Run st t ms st' t') : finalStack st ms = st' := by
  induction h with
  | done => rfl
  | move hm ht _ ih => rw [finalStack_cons, ih]

/-- a run is a first part of the moves on the text -/
theorem moves_eq (h : table.Run st t ms st' t') : table.moves st t = ms ++ table.moves st' t' := by
  induction h with
  | done => rfl
  | @move st st' c t rest t' m ms hm ht _ ih =>
    have hrest : t.drop (m.lexeme.length - 1) = rest := by
      have h := table.lexeme_append_drop st c t
      rw [hm, ht] at h
      exact List.append_cancel_left h
    rw [moves_cons, hm, hrest, ih, List.cons_append]

end Run

/-! ## runs and scans -/

/-- each first part of the moves on a text is a run -/
theorem exists_run_of_moves_eq (table : RuleTable S K) {st : StateStack S} {t : Text}
    {ms ms' : List (Move S K)} (h : table.moves st t = ms ++ ms') :
    ∃ t', table.Run st t ms (finalStack st ms) t' ∧ table.moves (finalStack st ms) t' = ms' := by
  induction ms generalizing st t with
  | nil => exact ⟨t, .done st t, h⟩
  | cons m ms ih =>
    cases t with
    | nil => rw [moves_nil] at h; cases h
    | cons c t =>
      rw [moves_cons, List.cons_append, List.cons.injEq] at h
      obtain ⟨hm, hms⟩ := h
      rw [hm] at hms
      obtain ⟨t', run, hend⟩ := ih hms
      rw [finalStack_cons]
      refine ⟨t', .move hm ?_ run, hend⟩
      rw [← hm, lexeme_append_drop]

/-- the moves on a text are a run to its end -/
theorem run_moves (table : RuleTable S K) (st : StateStack S) (t : Text) :
    table.Run st t (table.moves st t) (table.scan st t).stack [] := by
  obtain ⟨t', run, hend⟩ := table.exists_run_of_moves_eq (List.append_nil (table.moves st t)).symm
  cases t' with
  | nil => exact run
  | cons c t' => rw [moves_cons] at hend; cases hend

/-- a run to the end of a text is the whole scan -/
theorem scan_of_run {table : RuleTable S K} {st st' : StateStack S} {t : Text}
    {ms : List (Move S K)} (h : table.Run st t ms st' []) :
    table.scan st t = ⟨layout 0 (ms.map Move.piece), st'⟩ := by
  have hms : table.moves st t = ms := by rw [h.moves_eq, moves_nil, List.append_nil]
  rw [scan, hms, h.finalStack_eq]

/-- a scan is the tokens of a run, then the scan of what the run leaves -/
theorem Run.scan_eq {table : RuleTable S K} {st st' : StateStack S} {t t' : Text}
    {ms : List (Move S K)} (h : table.Run st t ms st' t') :
    table.scan st t = ⟨layout 0 (ms.map Move.piece)
        ++ (table.scan st' t').tokens.map (·.shift (Text.bytes (ms.map Move.lexeme).flatten)),
      (table.scan st' t').stack⟩ := by
  rw [scan_of_run (h.trans (table.run_moves st' t')), List.map_append, layout_append,
    flatten_pieces_eq_lexemes, ← layout_shift]
  rfl

end RuleTable

end Workbench.Scanner
