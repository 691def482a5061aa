import Workbench.Log.Event

/-!
# Settings

What can be set, and what holds where nothing is.
-/

namespace Workbench

structure LogSettings where
  /-- the level of every target that has none of its own -/
  level : Level := .info
  /-- the level of the lexer, if it differs -/
  lexer : Option Level := none
  deriving DecidableEq, Repr

/-- the level that holds for the lexer -/
def LogSettings.lexerLevel (s : LogSettings) : Level := s.lexer.getD s.level

structure LexerSettings where
  /-- the name or MIME type of the mode -/
  mode : String := "riff"
  /-- whether neighbours of one kind are joined -/
  coalesce : Bool := false
  deriving DecidableEq, Repr

/-- how the interpreter is called -/
structure InterpreterSettings where
  program : String := "riff"
  /-- stands before the program text -/
  evalFlag : String := "-e"
  /-- asks for the instructions instead of a run -/
  disassembleFlag : String := "-l"
  versionFlag : String := "-v"
  deriving DecidableEq, Repr

structure Settings where
  log : LogSettings := {}
  lexer : LexerSettings := {}
  interpreter : InterpreterSettings := {}
  deriving DecidableEq, Repr

end Workbench
