import Workbench.Log.Event
import Workbench.Scanner.Scan

/-!
# The events of a scan

What the scanner reports about a scan, read off its moves: the text and stack it begins with, each
token, and each push and pop.  Offsets count from the start of the scanned text, so in a scan by
lines they start again with every line.
-/

namespace Workbench.Scanner

open Log (Event)

variable {S K : Type} [ScannerState S] [ScannerKind K]

/-- a list of names in brackets -/
def bracketed (names : List String) : String := "[" ++ ", ".intercalate names ++ "]"

/-- the names of the states, bottom first, as messages show them -/
def StateStack.labels (st : StateStack S) : String := bracketed (st.toList.map ScannerState.label)

/-- the events of a move that begins at an offset -/
def Move.events (offset : Nat) (m : Move S K) : List Event :=
  let state := ScannerState.label m.stack.top
  let place := [("state", state), ("offset", toString offset)]
  let advance : List Event :=
    match m.how with
    | .matched => []
    | .forced => [⟨.trace, .lexer, "Empty match, forcing one unit", place⟩]
    | .unmatched => [⟨.debug, .lexer, "No rule matched, consuming one unit", place⟩]
  let token : Event :=
    ⟨.trace, .lexer, "Produced token",
      [("state", state), ("kind", ScannerKind.label m.kind), ("start", toString offset),
        ("end", toString (offset + m.lexeme.bytes))]⟩
  let change : List Event :=
    match m.action with
    | .push next =>
      [⟨.debug, .lexer, "Push state",
        [("from", state), ("to", ScannerState.label next),
          ("depth", toString (m.stack.depth + 1))]⟩]
    | .pop =>
      [⟨.debug, .lexer, "Pop state", [("from", state), ("depth", toString m.stack.depth)]⟩]
    | _ => []
  advance ++ token :: change

def movesEvents : Nat → List (Move S K) → List Event
  | _, [] => []
  | offset, m :: ms => m.events offset ++ movesEvents (offset + m.lexeme.bytes) ms

namespace RuleTable

/-- the events of a scan -/
def scanEvents (table : RuleTable S K) (st : StateStack S) (t : Text) : List Event :=
  ⟨.trace, .lexer, "Scanning input", [("len", toString t.bytes), ("stack", st.labels)]⟩
    :: movesEvents 0 (table.moves st t)

/-- the events of a scan of lines that follow each other -/
def piecesEvents (table : RuleTable S K) : StateStack S → List Text → List Event
  | _, [] => []
  | st, p :: ps => table.scanEvents st p ++ table.piecesEvents (table.scan st p).stack ps

/-- the events of a scan by lines -/
def scanLinesEvents (table : RuleTable S K) (st : StateStack S) (t : Text) : List Event :=
  table.piecesEvents st t.pieces

end RuleTable

end Workbench.Scanner
