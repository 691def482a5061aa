import Workbench.Scanner.Rule
import Workbench.Text.Lines

/-!
# Scanning

The scanner goes through a text in moves.  A move asks the rules of the top state for the first that
matches what is left, takes the matched characters and applies the rule's action.  A match of no
characters, and a text that no rule matches, still take one character, so every move makes the rest
shorter and the lexemes of the moves put together are the text (`lexemes_moves`).

`scanLines` scans line by line and hands the stack from each line to the next.
-/

namespace Workbench.Scanner

variable {S K : Type} [ScannerState S] [ScannerKind K]

/-! ## moves -/

/-- how a move came to its characters -/
inductive Advance where
  | matched
  /-- the rule matched no characters, so one is taken -/
  | forced
  /-- no rule matched, so one character is taken -/
  | unmatched
  deriving DecidableEq, Repr

structure Move (S K : Type) where
  /-- the stack before the move -/
  stack : StateStack S
  how : Advance
  kind : K
  lexeme : Text
  action : Action S
  deriving DecidableEq, Repr

namespace Move

/-- the stack after the move -/
def after (m : Move S K) : StateStack S := m.stack.apply m.action

def piece (m : Move S K) : K × Text := (m.kind, m.lexeme)

end Move

namespace RuleTable

/-- the first rule of a state that matches, and how many characters end its match -/
def select (table : RuleTable S K) (s : S) (rest : Text) : Option (Rule S K × Nat) :=
  (table.rules s).findSome? fun r => (r.matchEnd? rest).map (r, ·)

/-- the move from a stack on a text that begins with `c` -/
def move (table : RuleTable S K) (st : StateStack S) (c : Char) (rest : Text) : Move S K :=
  match table.select st.top (c :: rest) with
  | some (r, n + 1) => ⟨st, .matched, r.kind, c :: rest.take n, r.action⟩
  | some (r, 0) => ⟨st, .forced, r.kind, [c], r.action⟩
  | none => ⟨st, .unmatched, ScannerKind.plain, [c], .stay⟩

/-- all moves on a text -/
def moves (table : RuleTable S K) (st : StateStack S) : Text → List (Move S K)
  | [] => []
  | c :: rest =>
    let m := table.move st c rest
    m :: table.moves m.after (rest.drop (m.lexeme.length - 1))
  termination_by t => t.length
  decreasing_by
    simp only [List.length_drop, List.length_cons]
    omega

@[simp] theorem moves_nil (table : RuleTable S K) (st : StateStack S) : table.moves st [] = [] := by
  rw [moves]

theorem moves_cons (table : RuleTable S K) (st : StateStack S) (c : Char) (rest : Text) :
    table.moves st (c :: rest)
      = table.move st c rest :: table.moves (table.move st c rest).after
          (rest.drop ((table.move st c rest).lexeme.length - 1)) := by
  rw [moves]

/-- a move takes the first character and some that follow it -/
theorem lexeme_move (table : RuleTable S K) (st : StateStack S) (c : Char) (rest : Text) :
    (table.move st c rest).lexeme
      = c :: rest.take ((table.move st c rest).lexeme.length - 1) := by
  unfold move
  split
  · next r n h =>
    simp only [List.length_cons, List.length_take, Nat.add_sub_cancel]
    rw [List.take_eq_take_iff.2]
    omega
  · simp
  · simp

/-- the moves lose nothing of the text -/
@[simp] theorem lexemes_moves (table : RuleTable S K) (st : StateStack S) (t : Text) :
    ((table.moves st t).map Move.lexeme).flatten = t := by
  induction h : t.length using Nat.strongRecOn generalizing st t with
  | _ n ih =>
    cases t with
    | nil => rw [moves_nil]; rfl
    | cons c rest =>
      rw [moves_cons, List.map_cons, List.flatten_cons,
        ih _ (by rw [← h, List.length_drop, List.length_cons]; omega) _ _ rfl]
      conv => lhs; arg 1; rw [lexeme_move]
      rw [List.cons_append, List.take_append_drop]

/-- the stack after a list of moves that begins with the given stack -/
def finalStack (st : StateStack S) (ms : List (Move S K)) : StateStack S :=
  (ms.getLast?.map Move.after).getD st

end RuleTable

/-! ## scans -/

structure Scan (S K : Type) where
  tokens : List (Token K)
  /-- the stack at the end of the text, from which the next text can go on -/
  stack : StateStack S
  deriving DecidableEq, Repr

/-- one line of a scan by lines; offsets count from the start of the text -/
structure LineScan (S K : Type) where
  /-- the number of the line, from 0 -/
  line : Nat
  /-- the line with its newline -/
  span : Span
  tokens : List (Token K)
  /-- the stack at the end of the line -/
  stack : StateStack S
  deriving DecidableEq, Repr

namespace RuleTable

def scan (table : RuleTable S K) (st : StateStack S) (t : Text) : Scan S K :=
  let ms := table.moves st t
  ⟨layout 0 (ms.map Move.piece), finalStack st ms⟩

/-- the scans of lines that follow each other, from a line number, an offset and a stack on -/
def scanPieces (table : RuleTable S K) : Nat → Nat → StateStack S → List Text → List (LineScan S K)
  | _, _, _, [] => []
  | line, offset, st, p :: ps =>
    let scan := table.scan st p
    ⟨line, ⟨offset, offset + p.bytes⟩, scan.tokens.map (·.shift offset), scan.stack⟩
      :: table.scanPieces (line + 1) (offset + p.bytes) scan.stack ps

def scanLines (table : RuleTable S K) (st : StateStack S) (t : Text) : List (LineScan S K) :=
  table.scanPieces 0 0 st t.pieces

end RuleTable

end Workbench.Scanner
