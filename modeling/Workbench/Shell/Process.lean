import Workbench.Files
import Workbench.Interpreter.Output
import Workbench.Shell.Arithmetic

/-!
# Processes

What a program is told when it is started, and what it leaves behind.  A program has no other way to
tell or to leave anything, so it is a function from the one to the other.
-/

namespace Workbench.Shell

open Text (Bytes)

/-- what a program is told when it is started -/
structure Start where
  /-- the name that it was called by -/
  called : Text
  arguments : List Text
  environment : Bindings := []
  input : Bytes := []
  files : Files

inductive Ending where
  | code (n : Nat)
  | signal (n : Nat)
  deriving DecidableEq, Repr

/-- what a program leaves behind -/
structure Ended where
  /-- what it wrote, in order -/
  written : List (Channel × Bytes) := []
  ending : Ending := .code 0
  /-- what it has not read -/
  input : Bytes
  files : Files

namespace Start

/-- a program that has written something and read nothing -/
def leaves (s : Start) (written : List (Channel × Bytes)) (code : Nat) : Ended :=
  { written, ending := .code code, input := s.input, files := s.files }

/-- a program that has failed with messages under its name -/
def fails (s : Start) (messages : List Text) : Ended :=
  s.leaves (messages.map fun m =>
    (.err, Octets.toBytes (s.called ++ ": ".toList ++ m ++ ['\n']))) 1

/-- a message that points to the help of the program -/
def withHelp (s : Start) (message : Text) : Text :=
  message ++ "\nTry '".toList ++ s.called ++ " --help' for more information.".toList

end Start

/-- starts a program, or tells why there is none to be started -/
abbrev Starter := Start → Except FileError Ended

end Workbench.Shell
