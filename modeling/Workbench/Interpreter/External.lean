import Workbench.Files
import Workbench.Interpreter.Basic
import Workbench.Settings.Basic
import Workbench.Text.Classes

/-!
# Interpreters that are programs

An external interpreter is a program that is started anew for every question.  The settings say
which program it is and which flags it takes.  How programs are started is left open: a launcher
takes a program and its arguments, and tells what the program wrote and how it ended.  A program
may change files; these are what such an interpreter remembers.
-/

namespace Workbench

open Text (Bytes)
open Log (Event)

/-- what a program wrote to its two channels, and its exit code, if no signal ended it -/
structure Outcome where
  out : Bytes := []
  err : Bytes := []
  exitCode : Option Nat := some 0
  deriving DecidableEq, Repr

/-- starts a program with arguments among some files, or tells why it cannot be started -/
abbrev Launcher :=
  Files → (program : Text) → (arguments : List Text) → Except String (Outcome × Files)

namespace Interpreter

/-- the arguments that make the interpreter run a program or list its instructions -/
def arguments (s : InterpreterSettings) (mode : ExecutionMode) (source : Text) : List Text :=
  match mode with
  | .disassemble => [s.disassembleFlag.toList, s.evalFlag.toList, source]
  | .execute => [s.evalFlag.toList, source]

/-- the words of a text, between blanks -/
def words (t : Text) : List Text := (t.splitOnP Text.isBlank).filter (· ≠ [])

/-- the last word of the first line that has one -/
def versionOf? (output : Text) : Option Text :=
  ((Text.lines output).findSome? fun l => (words l).getLast?)

/-- the error of a program that cannot be started -/
def spawnError (s : InterpreterSettings) (cause : String) : InterpreterError :=
  .spawn s.program.toList cause

/-- asks the program for its version -/
def askVersion (s : InterpreterSettings) (launch : Launcher) (fs : Files) :
    Except InterpreterError Text × Files :=
  match launch fs s.program.toList [s.versionFlag.toList] with
  | .error cause => (.error (spawnError s cause), fs)
  | .ok (o, fs') =>
    match versionOf? (Text.decodeLossy o.out) with
    | some version => (.ok version, fs')
    | none =>
      (.error (.unavailable
        ("'" ++ s.program ++ " " ++ s.versionFlag ++ "' printed no version").toList), fs')

/-- the lines of an outcome: those of the first channel, as they come, and then those of the
second -/
def printedLines (o : Outcome) : List (Channel × Text) :=
  (lineTexts o.out).map (Channel.out, ·) ++
    (Text.lines (Text.decodeLossy o.err)).map (Channel.err, ·)

/-- starts the program on a source -/
def executeSource (s : InterpreterSettings) (launch : Launcher) (fs : Files)
    (mode : ExecutionMode) (source : Text) : Execution × Files :=
  let events : List Event :=
    [⟨.debug, .session, "Spawning interpreter", [("program", s.program), ("mode", mode.label)]⟩]
  match launch fs s.program.toList (arguments s mode source) with
  | .error cause => ({ result := .error (spawnError s cause), events }, fs)
  | .ok (o, fs') =>
    match o.exitCode with
    | some code => ({ printed := printedLines o, result := .ok code, events }, fs')
    | none => ({ printed := printedLines o, result := .error .terminated, events }, fs')

/-- the interpreter of some settings, which remembers files -/
def external (s : InterpreterSettings) (launch : Launcher) : Interpreter Files where
  version fs := askVersion s launch fs
  execute fs mode source := executeSource s launch fs mode source

end Interpreter

end Workbench
