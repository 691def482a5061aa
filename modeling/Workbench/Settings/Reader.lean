import Workbench.Json.Typed
import Workbench.Settings.Basic

/-!
# Reading settings

Settings are written as JSON with three sections, `log`, `lexer` and `interpreter`.  Every section
and every setting in it may be missing, and then has its default; members with other names are
passed over.  Levels are written in lower case.
-/

namespace Workbench

open Json (Member Reader Refusal)

def Level.read : Reader Level := Json.choice (Level.all.map fun l => (l.name, l))

namespace LogSettings

def members : List (Member LogSettings) :=
  [.of "level" Level.read fun s l => { s with level := l },
    .of "lexer" (Json.optional Level.read) fun s l => { s with lexer := l }]

def read : Reader LogSettings := Json.record "struct LogConfig" members {}

end LogSettings

namespace LexerSettings

def members : List (Member LexerSettings) :=
  [.of "mode" Json.string fun s m => { s with mode := m },
    .of "coalesce" Json.boolean fun s b => { s with coalesce := b }]

def read : Reader LexerSettings := Json.record "struct LexerConfig" members {}

end LexerSettings

namespace InterpreterSettings

def members : List (Member InterpreterSettings) :=
  [.of "program" Json.string fun s p => { s with program := p },
    .of "eval_flag" Json.string fun s f => { s with evalFlag := f },
    .of "disassemble_flag" Json.string fun s f => { s with disassembleFlag := f },
    .of "version_flag" Json.string fun s f => { s with versionFlag := f }]

def read : Reader InterpreterSettings := Json.record "struct InterpreterConfig" members {}

end InterpreterSettings

namespace Settings

def members : List (Member Settings) :=
  [.of "log" LogSettings.read fun s l => { s with log := l },
    .of "lexer" LexerSettings.read fun s l => { s with lexer := l },
    .of "interpreter" InterpreterSettings.read fun s i => { s with interpreter := i }]

def read : Reader Settings := Json.record "struct PlaygroundConfig" members {}

/-- the settings of a document -/
def ofText (t : Text) : Except Refusal Settings := Json.readDocument read t

end Settings

end Workbench
