/-!
# Log events

The library does not write a log.  Where something worth recording happens, the event is a value: a
level, the target that emits it, a message and named fields, whose text is already in its printed
form.  Whoever runs the library decides which events to show and how.
-/

namespace Workbench

/-- how much is logged, from the quietest level to the loudest -/
inductive Level where
  | error
  | warn
  | info
  | debug
  | trace
  deriving DecidableEq, Repr

namespace Level

def all : List Level := [.error, .warn, .info, .debug, .trace]

/-- the place in the order of loudness -/
def rank : Level → Nat
  | .error => 0
  | .warn => 1
  | .info => 2
  | .debug => 3
  | .trace => 4

/-- whether an event of level `e` is shown where level `l` is wanted -/
def shows (l e : Level) : Bool := e.rank ≤ l.rank

def name : Level → String
  | .error => "error"
  | .warn => "warn"
  | .info => "info"
  | .debug => "debug"
  | .trace => "trace"

def upperName : Level → String
  | .error => "ERROR"
  | .warn => "WARN"
  | .info => "INFO"
  | .debug => "DEBUG"
  | .trace => "TRACE"

def title : Level → String
  | .error => "Error"
  | .warn => "Warn"
  | .info => "Info"
  | .debug => "Debug"
  | .trace => "Trace"

/--
The level of a name in any case; `silent` is another name of `error`.  No letter outside ASCII has a
lower case that occurs in these names, so ASCII case is enough.
-/
def parse? (s : String) : Option Level :=
  match String.ofList (s.toList.map Char.toLower) with
  | "silent" => some .error
  | "error" => some .error
  | "warn" => some .warn
  | "info" => some .info
  | "debug" => some .debug
  | "trace" => some .trace
  | _ => none

end Level

namespace Log

/-- who emits an event -/
inductive Target where
  | lexer
  | registry
  | session
  | commandLine
  deriving DecidableEq, Repr

def Target.name : Target → String
  | .lexer => "riff::lexer"
  | .registry => "riff::registry"
  | .session => "riff::playground"
  | .commandLine => "riff::cli"

structure Event where
  level : Level
  target : Target
  message : String
  fields : List (String × String)
  deriving DecidableEq, Repr

end Log

end Workbench
