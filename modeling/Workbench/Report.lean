import Workbench.Highlight
import Workbench.Position

/-!
# Token reports

A row is a token with its position and its text.  A row prints as one line whatever its text, since
the text is quoted.  A report by lines groups the rows by line and gives the stack behind each line.

The text of a token is missing only if its span does not fit the source, which the tokens of a scan
of that source always do.
-/

namespace Workbench

open Scanner (LineScan Token)

structure Row where
  kind : Riff.Kind
  start : Nat
  stop : Nat
  line : Nat
  column : Nat
  utf16Column : Nat
  text : Text
  deriving DecidableEq, Repr

namespace Row

/-- the row of a token -/
def ofToken? (source : Text) (index : LineIndex) (t : Token Riff.Kind) : Option Row :=
  match index.position? source t.span.start, t.text? source with
  | some p, some text =>
    some ⟨t.kind, t.span.start, t.span.stop, p.line, p.column, p.utf16Column, text⟩
  | _, _ => none

/-- the rows of tokens of a source -/
def ofTokens? (source : Text) (index : LineIndex) (ts : List (Token Riff.Kind)) :
    Option (List Row) :=
  ts.mapM (ofToken? source index)

/-- position, kind and quoted text -/
def format (r : Row) : String :=
  toString r.line ++ ":" ++ toString r.column ++ " " ++ r.kind.name ++ " "
    ++ String.ofList (Text.quote r.text)

end Row

/-- the states of a stack, bottom first, in brackets -/
def formatStack (st : Riff.Stack) : String := Scanner.bracketed (st.toList.map Riff.State.name)

/-- the rows of one line and the stack behind it -/
structure LineReport where
  /-- from 1 -/
  line : Nat
  rows : List Row
  stack : Riff.Stack
  deriving DecidableEq, Repr

namespace LineReport

def ofLine? (source : Text) (index : LineIndex) (l : LineScan Riff.State Riff.Kind) :
    Option LineReport :=
  (Row.ofTokens? source index l.tokens).map fun rows => ⟨l.line + 1, rows, l.stack⟩

def ofLines? (source : Text) (index : LineIndex) (ls : List (LineScan Riff.State Riff.Kind)) :
    Option (List LineReport) :=
  ls.mapM (ofLine? source index)

end LineReport

end Workbench
