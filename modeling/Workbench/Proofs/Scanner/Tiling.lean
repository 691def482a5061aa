import Mathlib.Data.List.Forall2
import Workbench.Proofs.Scanner.Run
import Workbench.Proofs.Text.Lines

/-!
# The tokens of a scan tile the text

Whatever the rules are and whatever they match, the tokens of a scan lie end to end from the start
of the text to its end, none of them is empty, each span can be cut out of the text, and what is cut
out makes up the text again.  The lines of a scan by lines tile the text in the same way, and the
tokens of each line tile the line.

* `Tiles`         spans end to end between two offsets, none of them empty;
* `Token.piece?`  what a token shows of the text: its kind and its lexeme;
* `Covers`        tokens that tile a part of a text and whose texts make up that part;
* `CoversLines`   lines that tile a text, each of them covered by its tokens;
* `scan_covers`   both, for every table, every stack and every text.

The first two are proved of `layout`, which gives the pieces of a scan their spans; the pieces are
the lexemes of the moves, which take at least a character each and lose nothing.
-/

namespace Workbench.Scanner

variable {S K : Type}

/-! ## tilings -/

/-- spans that lie end to end between two offsets, none of them empty -/
def Tiles : Nat → List Span → Nat → Prop
  | start, [], stop => start = stop
  | start, s :: ss, stop => s.start = start ∧ start < s.stop ∧ Tiles s.stop ss stop

@[simp] theorem tiles_nil (n : Nat) : Tiles n [] n := rfl

theorem tiles_cons {start stop mid : Nat} {ss : List Span} (h : start < mid)
    (hs : Tiles mid ss stop) : Tiles start (⟨start, mid⟩ :: ss) stop := ⟨rfl, h, hs⟩

/-- a text that is not empty takes at least a byte -/
theorem bytes_pos {t : Text} (h : t ≠ []) : 0 < t.bytes :=
  Nat.lt_of_lt_of_le (List.length_pos_iff.2 h) t.length_le_bytes

theorem tiles_layout (n : Nat) (ps : List (K × Text)) (h : ∀ p ∈ ps, p.2 ≠ []) :
    Tiles n ((layout n ps).map Token.span) (n + Text.bytes (ps.map Prod.snd).flatten) := by
  induction ps generalizing n with
  | nil => exact tiles_nil n
  | cons p ps ih =>
    obtain ⟨k, t⟩ := p
    have ht : 0 < t.bytes := bytes_pos (h (k, t) List.mem_cons_self)
    have ih' := ih (n + t.bytes) fun p hp => h p (List.mem_cons_of_mem _ hp)
    rw [layout_cons, List.map_cons, List.map_cons, List.flatten_cons, Text.bytes_append,
      ← Nat.add_assoc]
    exact tiles_cons (by omega) ih'

/-! ## pieces -/

/-- the kind of a token, with the text that it shows -/
def Token.piece? (u : Token K) (t : Text) : Option (K × Text) := (u.text? t).map (u.kind, ·)

@[simp] theorem Token.map_snd_piece? (u : Token K) (t : Text) :
    (u.piece? t).map Prod.snd = u.text? t := by
  rw [piece?, Option.map_map]
  exact congrFun Option.map_id _

/-- the pieces that are laid out behind `a` are what their tokens show of the text -/
theorem pieces_layout (a b : Text) (ps : List (K × Text)) :
    (layout a.bytes ps).map (·.piece? (a ++ (ps.map Prod.snd).flatten ++ b)) = ps.map some := by
  induction ps generalizing a with
  | nil => rfl
  | cons p ps ih =>
    obtain ⟨k, t⟩ := p
    have ih' := ih (a ++ t)
    rw [Text.bytes_append] at ih'
    rw [layout_cons, List.map_cons, List.map_cons, List.map_cons, List.flatten_cons,
      ← List.append_assoc, ih']
    congr 1
    rw [Token.piece?, Token.text?, List.append_assoc, Text.slice_append]
    rfl

theorem texts_of_pieces {t : Text} {tokens : List (Token K)} {ps : List (K × Text)}
    (h : tokens.map (·.piece? t) = ps.map some) :
    tokens.map (·.text? t) = (ps.map Prod.snd).map some := by
  have htexts := congrArg (List.map (Option.map Prod.snd)) h
  simpa [Function.comp_def] using htexts

/-! ## what a scan has to cover -/

/-- the tokens tile the text from `start` to `stop`, and their texts make up `part` -/
structure Covers (t : Text) (start : Nat) (part : Text) (stop : Nat) (tokens : List (Token K)) :
    Prop where
  tiles : Tiles start (tokens.map Token.span) stop
  texts : ∃ lexemes : List Text,
    tokens.map (·.text? t) = lexemes.map some ∧ lexemes.flatten = part

/-- a line that its tokens cover; a newline can be its last character only -/
structure CoversLine (t : Text) (l : LineScan S K) (part : Text) : Prop where
  text : Text.slice t l.span.start l.span.stop = some part
  newline : '\n' ∉ part.dropLast
  tokens : Covers t l.span.start part l.span.stop l.tokens

/-- lines that tile a text, with the parts of the text that they cover; all but the last end in a
newline -/
structure CoversLines (t : Text) (lines : List (LineScan S K)) (parts : List Text) : Prop where
  tiles : Tiles 0 (lines.map LineScan.span) t.bytes
  numbers : lines.map LineScan.line = List.range lines.length
  covered : List.Forall₂ (CoversLine t) lines parts
  text : parts.flatten = t
  ended : ∀ p ∈ parts.dropLast, ∃ l, p = l ++ ['\n']

theorem covers_layout (a b : Text) (ps : List (K × Text)) (h : ∀ p ∈ ps, p.2 ≠ []) :
    Covers (a ++ (ps.map Prod.snd).flatten ++ b) a.bytes (ps.map Prod.snd).flatten
      (a.bytes + Text.bytes (ps.map Prod.snd).flatten) (layout a.bytes ps) :=
  ⟨tiles_layout _ _ h, _, texts_of_pieces (pieces_layout a b ps), rfl⟩

namespace RuleTable

variable [ScannerState S] [ScannerKind K]

/-! ## scans -/

/-- the tokens of the scan of a part of a text, moved to where the part stands, cover the part -/
theorem covers_scan_part (table : RuleTable S K) (st : StateStack S) (a p b : Text) :
    Covers (a ++ p ++ b) a.bytes p (a.bytes + p.bytes)
      ((table.scan st p).tokens.map (·.shift a.bytes)) := by
  have hp : (((table.moves st p).map Move.piece).map Prod.snd).flatten = p := by
    rw [List.map_map]
    exact table.lexemes_moves st p
  have hne : ∀ q ∈ (table.moves st p).map Move.piece, q.2 ≠ [] := by
    intro q hq
    obtain ⟨m, hm, rfl⟩ := List.mem_map.1 hq
    exact (table.run_moves st p).lexeme_ne_nil m hm
  have h := covers_layout a b ((table.moves st p).map Move.piece) hne
  rw [hp] at h
  rw [scan, layout_shift, Nat.zero_add]
  exact h

/-- the tokens of a scan cover the text -/
theorem covers_scan (table : RuleTable S K) (st : StateStack S) (t : Text) :
    Covers t 0 t t.bytes (table.scan st t).tokens := by
  have h := table.covers_scan_part st [] t []
  simpa using h

/-- the tokens of a scan show the pieces of its moves -/
theorem pieces_scan (table : RuleTable S K) (st : StateStack S) (t : Text) :
    (table.scan st t).tokens.map (·.piece? t)
      = ((table.moves st t).map Move.piece).map some := by
  have h := pieces_layout [] [] ((table.moves st t).map Move.piece)
  rwa [flatten_pieces_eq_lexemes, table.lexemes_moves, List.nil_append, List.append_nil] at h

theorem texts_scan (table : RuleTable S K) (st : StateStack S) (t : Text) :
    (table.scan st t).tokens.map (·.text? t)
      = (table.moves st t).map fun m => some m.lexeme := by
  rw [texts_of_pieces (table.pieces_scan st t), List.map_map, List.map_map]
  rfl

/-! ## scans by lines -/

@[simp] theorem length_scanPieces (table : RuleTable S K) (line offset : Nat) (st : StateStack S)
    (ps : List Text) : (table.scanPieces line offset st ps).length = ps.length := by
  induction ps generalizing line offset st with
  | nil => rfl
  | cons p ps ih => rw [scanPieces, List.length_cons, List.length_cons, ih]

theorem numbers_scanPieces (table : RuleTable S K) (line offset : Nat) (st : StateStack S)
    (ps : List Text) :
    (table.scanPieces line offset st ps).map LineScan.line = List.range' line ps.length := by
  induction ps generalizing line offset st with
  | nil => rfl
  | cons p ps ih =>
    rw [scanPieces, List.map_cons, ih, List.length_cons, List.range'_succ]

theorem tiles_scanPieces (table : RuleTable S K) (line offset : Nat) (st : StateStack S)
    (ps : List Text) (h : ∀ p ∈ ps, p ≠ []) :
    Tiles offset ((table.scanPieces line offset st ps).map LineScan.span)
      (offset + Text.bytes ps.flatten) := by
  induction ps generalizing line offset st with
  | nil => exact tiles_nil offset
  | cons p ps ih =>
    have hp := bytes_pos (h p List.mem_cons_self)
    rw [scanPieces, List.map_cons, List.flatten_cons, Text.bytes_append, ← Nat.add_assoc]
    exact tiles_cons (by omega) (ih _ _ _ fun q hq => h q (List.mem_cons_of_mem _ hq))

/-- the lines cover the pieces one by one -/
theorem covers_scanPieces (table : RuleTable S K) (line : Nat) (st : StateStack S) (a : Text)
    (ps : List Text) (h : ∀ p ∈ ps, '\n' ∉ p.dropLast) :
    List.Forall₂ (CoversLine (a ++ ps.flatten)) (table.scanPieces line a.bytes st ps) ps := by
  induction ps generalizing line st a with
  | nil => exact .nil
  | cons p ps ih =>
    have ih' := ih (line + 1) (table.scan st p).stack (a ++ p) fun q hq =>
      h q (List.mem_cons_of_mem _ hq)
    rw [Text.bytes_append, List.append_assoc] at ih'
    rw [scanPieces, List.flatten_cons]
    refine .cons ⟨?_, h p List.mem_cons_self, ?_⟩ ih'
    · rw [← List.append_assoc, Text.slice_append]
    · rw [← List.append_assoc]
      exact table.covers_scan_part st a p ps.flatten

/-- the lines of a scan by lines are those of the text -/
theorem coversLines_scanLines (table : RuleTable S K) (st : StateStack S) (t : Text) :
    CoversLines t (table.scanLines st t) t.pieces := by
  refine ⟨?_, ?_, ?_, t.flatten_pieces, t.ended_of_mem_dropLast⟩
  · have h := table.tiles_scanPieces 0 0 st t.pieces t.pieces_ne_nil
    rwa [Text.flatten_pieces, Nat.zero_add] at h
  · rw [scanLines, numbers_scanPieces, length_scanPieces, List.range_eq_range']
  · have h := table.covers_scanPieces 0 st [] t.pieces t.newline_not_mem_dropLast
    rwa [List.nil_append, Text.flatten_pieces] at h

/-- Every scan covers the text with its tokens, and every scan by lines with its lines. -/
theorem scan_covers (table : RuleTable S K) (st : StateStack S) (t : Text) :
    Covers t 0 t t.bytes (table.scan st t).tokens
      ∧ ∃ parts, CoversLines t (table.scanLines st t) parts :=
  ⟨table.covers_scan st t, t.pieces, table.coversLines_scanLines st t⟩

end RuleTable

end Workbench.Scanner
