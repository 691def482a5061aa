import Workbench.Json.Value
import Workbench.Report

/-!
# Token dumps

A dump shows the tokens of a source, all together or line by line, as plain text or as JSON.  In
plain text each row takes one line, and so does each stack.
-/

namespace Workbench

open Scanner (LineScan)

namespace TokenDump

/-! ## plain text -/

/-- a line of output -/
def outputLine (s : String) : Text := s.toList ++ ['\n']

def plainRows (rows : List Row) : Text := rows.flatMap fun r => outputLine r.format

/-- the rows of a source, and the stack at its end -/
def plain (rows : List Row) (stack : Riff.Stack) : Text :=
  plainRows rows ++ outputLine ("-- stack " ++ formatStack stack)

/-- the rows of a line, and the stack behind it -/
def plainReport (r : LineReport) : Text :=
  plainRows r.rows
    ++ outputLine ("-- line " ++ toString r.line ++ " stack " ++ formatStack r.stack)

def plainReports (rs : List LineReport) : Text := rs.flatMap plainReport

/-! ## JSON -/

open Json (Value)

def rowValue (r : Row) : Value :=
  .object [("kind", .string r.kind.name.toList), ("start", .number r.start),
    ("end", .number r.stop),
    ("line", .number r.line), ("column", .number r.column), ("utf16_column", .number r.utf16Column),
    ("text", .string r.text)]

def stackValue (st : Riff.Stack) : Value :=
  .list (st.toList.map fun s => .string s.name.toList)

/-- the rows of a source with the members of each object in the order of their names -/
def value (mode : String) (rows : List Row) (stack : Riff.Stack) : Value :=
  Value.sorted (.object [("mode", .string mode.toList), ("tokens", .list (rows.map rowValue)),
    ("stack", stackValue stack)])

def reportValue (r : LineReport) : Value :=
  .object [("line", .number r.line), ("tokens", .list (r.rows.map rowValue)),
    ("stack", stackValue r.stack)]

def json (v : Value) : Text := v.write ++ ['\n']

/-! ## dumps of a source -/

structure Options where
  json : Bool := false
  byLine : Bool := false
  deriving DecidableEq, Repr

/-- the dump of a source that is highlighted as a whole -/
def ofHighlight (o : Options) (source : Text) (h : Highlight) : Option Text :=
  (Row.ofTokens? source (LineIndex.ofText source) h.tokens).map fun rows =>
    if o.json then json (value h.mode rows h.stack) else plain rows h.stack

/-- the dump of a source that is highlighted line by line -/
def ofLines (o : Options) (source : Text) (ls : List (LineScan Riff.State Riff.Kind)) :
    Option Text :=
  (LineReport.ofLines? source (LineIndex.ofText source) ls).map fun rs =>
    if o.json then json (.list (rs.map reportValue)) else plainReports rs

/-- The dump of a source.  It is missing only if a token does not fit the source. -/
def ofText (o : Options) (settings : LexerSettings) (source : Text) :
    Except HighlightError (Option Text) :=
  if o.byLine then (Highlight.lines settings source).map (ofLines o source)
  else (Highlight.ofText settings none source).map (ofHighlight o source)

/-- the events of making a dump -/
def events (o : Options) (settings : LexerSettings) (source : Text) : List Log.Event :=
  if o.byLine then Highlight.linesEvents settings source
  else Highlight.events settings none source

end TokenDump

end Workbench
