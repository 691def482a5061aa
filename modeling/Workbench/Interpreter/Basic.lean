import Workbench.Interpreter.Output
import Workbench.Log.Event

/-!
# Interpreters

An interpreter tells its version and executes programs.  While it executes one it prints lines, and
then it ends with an exit code or fails.  It may remember what it did, so both operations take its
state and return the next one.  Nothing else about an interpreter is assumed.
-/

namespace Workbench

/-- whether a program is run or its instructions are listed -/
inductive ExecutionMode where
  | disassemble
  | execute
  deriving DecidableEq, Repr

namespace ExecutionMode

def all : List ExecutionMode := [.disassemble, .execute]

def code : ExecutionMode → Int
  | .disassemble => 0
  | .execute => 1

def label : ExecutionMode → String
  | .disassemble => "Disassemble"
  | .execute => "Execute"

def ofCode? (code : Int) : Option ExecutionMode := all.find? (·.code == code)

@[simp] theorem ofCode?_code (m : ExecutionMode) : ofCode? m.code = some m := by cases m <;> rfl

end ExecutionMode

/-- why an interpreter gave no version or no exit code -/
inductive InterpreterError where
  | spawn (program : Text) (cause : String)
  | io (cause : String)
  /-- it ended without an exit code, such as by a signal -/
  | terminated
  | unavailable (reason : Text)
  deriving DecidableEq, Repr

def InterpreterError.message : InterpreterError → String
  | .spawn program cause => "cannot start '" ++ String.ofList program ++ "': " ++ cause
  | .io cause => "interpreter I/O failed: " ++ cause
  | .terminated => "interpreter terminated without an exit status"
  | .unavailable reason => "interpreter unavailable: " ++ String.ofList reason

/-- how long something took -/
structure Duration where
  seconds : Nat := 0
  nanoseconds : Nat := 0
  deriving DecidableEq, Repr

/-- whole milliseconds -/
def Duration.milliseconds (d : Duration) : Nat := d.seconds * 1000 + d.nanoseconds / 1000000

/-- what an interpreter did with a program -/
structure Execution where
  /-- the lines that it printed, in their order -/
  printed : List (Channel × Text) := []
  /-- its exit code, or how it failed -/
  result : Except InterpreterError Int
  elapsed : Duration := {}
  events : List Log.Event := []

structure Interpreter (σ : Type) where
  version : σ → Except InterpreterError Text × σ
  execute : σ → ExecutionMode → (source : Text) → Execution × σ

end Workbench
