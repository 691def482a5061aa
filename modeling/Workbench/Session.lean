import Workbench.Decimal.Shortest
import Workbench.Interpreter.Basic

/-!
# Sessions

A session runs programs in an interpreter.  It asks for the version once, at its beginning, and does
without one if the interpreter has none.  The output buffer is cleared before each run, so a report
holds what its own run printed; a run that fails is reported without an exit code.
-/

namespace Workbench

open Log (Event)

/-! ## reports -/

structure RunReport where
  output : Text
  /-- missing if the run failed -/
  exitCode : Option Int
  elapsed : Duration
  deriving DecidableEq, Repr

namespace RunReport

def succeeded (r : RunReport) : Bool := r.exitCode == some 0

/-- the time in seconds, from whole milliseconds, as the shortest text of a number of double
precision -/
def secondsText (d : Duration) : String :=
  match (Binary64.ofNat d.milliseconds).div (.ofNat 1000) with
  | .finite m e => Decimal.positional (Decimal.shortest m e)
  | .infinite => "inf"

/-- the version of the interpreter and the time of a run -/
def metrics (version : Text) (r : RunReport) : Text :=
  "riff ".toList ++ version ++ " / ".toList ++ (secondsText r.elapsed).toList ++ ['s']

end RunReport

/-! ## sessions -/

structure Session (σ : Type) where
  interpreter : Interpreter σ
  /-- what the interpreter remembers -/
  memory : σ
  /-- empty if the interpreter has none -/
  version : Text
  output : OutputBuffer

namespace Session

variable {σ : Type}

/-- a new session with an interpreter -/
def start (i : Interpreter σ) (memory : σ) : Session σ :=
  let (version, memory') := i.version memory
  ⟨i, memory', version.toOption.getD [], {}⟩

/-- runs a program -/
def run (s : Session σ) (mode : ExecutionMode) (source : Text) : RunReport × Session σ :=
  let (e, memory') := s.interpreter.execute s.memory mode source
  let output := s.output.clear.printAll e.printed
  (⟨output.text, e.result.toOption, e.elapsed⟩, { s with memory := memory', output })

/-- runs programs one after another -/
def runAll (s : Session σ) : List (ExecutionMode × Text) → List RunReport × Session σ
  | [] => ([], s)
  | (mode, source) :: rest =>
    let (report, s') := s.run mode source
    let (reports, s'') := s'.runAll rest
    (report :: reports, s'')

/-! ## events -/

def startEvents (i : Interpreter σ) (memory : σ) : List Event :=
  match (i.version memory).1 with
  | .ok version =>
    [⟨.info, .session, "Riff interpreter version detected", [("version", String.ofList version)]⟩]
  | .error e =>
    [⟨.error, .session, "Error detecting Riff interpreter version", [("error", e.message)]⟩]

/-- an exit code as an event shows it -/
def exitText : Except InterpreterError Int → String
  | .ok code => "Some(" ++ toString code ++ ")"
  | .error _ => "None"

def failureEvents : Except InterpreterError Int → List Event
  | .ok _ => []
  | .error e => [⟨.warn, .session, "Interpreter run failed", [("error", e.message)]⟩]

def runEvents (s : Session σ) (mode : ExecutionMode) (source : Text) : List Event :=
  let e := (s.interpreter.execute s.memory mode source).1
  ⟨.debug, .session, "Running program", [("mode", mode.label), ("len", toString source.bytes)]⟩
    :: e.events ++ failureEvents e.result
    ++ [⟨.info, .session, "Run finished",
      [("exit_code", exitText e.result), ("elapsed_ms", toString e.elapsed.milliseconds)]⟩]

end Session

end Workbench
