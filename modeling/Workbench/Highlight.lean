import Workbench.Registry
import Workbench.Settings.Basic
import Workbench.Scanner.Trace

/-!
# Highlighting

Highlighting looks up a mode, scans the text and, if the settings ask for it, joins neighbours of
one kind.  Joining happens behind the scan: it changes the tokens and never the stack.  By lines,
it happens in each line by itself.
-/

namespace Workbench

open Scanner (coalesce LineScan StackError StateStack Token)
open Log (Event)

inductive HighlightError where
  | mode (e : ModeError)
  | stack (e : StackError)
  deriving DecidableEq, Repr

namespace HighlightError

def message : HighlightError → String
  | .mode e => e.message
  | .stack e => e.message

/-- what was being done -/
def phase : HighlightError → String
  | .mode _ => "mode"
  | .stack _ => "stack"

end HighlightError

structure Highlight where
  /-- the name of the mode -/
  mode : String
  tokens : List (Token Riff.Kind)
  /-- the stack at the end, from which the next text can go on -/
  stack : Riff.Stack
  deriving DecidableEq, Repr

namespace Highlight

def findMode (settings : LexerSettings) : Except HighlightError Mode :=
  (Registry.standard.find settings.mode).mapError .mode

/-- the tokens as the settings want them -/
def arrange (settings : LexerSettings) (tokens : List (Token Riff.Kind)) :
    List (Token Riff.Kind) :=
  if settings.coalesce then coalesce tokens else tokens

/-- highlights a text from a saved stack, or from a fresh one -/
def ofText (settings : LexerSettings) (initial : Option Riff.Stack) (t : Text) :
    Except HighlightError Highlight :=
  match findMode settings with
  | .error e => .error e
  | .ok mode =>
    let scan := mode.scan t initial
    .ok ⟨mode.name, arrange settings scan.tokens, scan.stack⟩

/-- highlights a text line by line -/
def lines (settings : LexerSettings) (t : Text) :
    Except HighlightError (List (LineScan Riff.State Riff.Kind)) :=
  match findMode settings with
  | .error e => .error e
  | .ok mode =>
    .ok ((mode.scanLines t none).map fun l => { l with tokens := arrange settings l.tokens })

/-- the stack of saved states, bottom first -/
def restoreStack (states : List Riff.State) : Except HighlightError Riff.Stack :=
  (StateStack.ofList states).mapError .stack

/-! ## events -/

def events (settings : LexerSettings) (initial : Option Riff.Stack) (t : Text) : List Event :=
  match findMode settings with
  | .error _ => []
  | .ok mode =>
    ⟨.debug, .lexer, "Highlighting",
      [("mode", String.ofList (Text.quote mode.name.toList)), ("len", toString t.bytes)]⟩
      :: mode.table.scanEvents (initial.getD .fresh) t

def linesEvents (settings : LexerSettings) (t : Text) : List Event :=
  match findMode settings with
  | .error _ => []
  | .ok mode => mode.table.scanLinesEvents .fresh t

end Highlight

end Workbench
