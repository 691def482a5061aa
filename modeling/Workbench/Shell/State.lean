import Workbench.Files
import Workbench.Interpreter.Output
import Workbench.Shell.Arithmetic

/-!
# The state of a shell

What a running shell holds: its files, variables and parameters, the status of the last command,
what it has written, and where its channels go.  A command takes the state and tells how it ended
and which state it left.
-/

namespace Workbench.Shell

open Text (Bytes)

/-- where a channel goes -/
inductive Stream where
  /-- out of the shell -/
  | out (c : Channel)
  /-- whatever is written is forgotten -/
  | nowhere
  | closed
  | file (place : List Text)
  /-- into what is collected, on the level that it was begun on -/
  | collected (level : Nat)
  deriving DecidableEq, Repr

structure State where
  /-- the name that messages begin with -/
  name : Text
  arguments : List Text := []
  files : Files := {}
  bindings : Bindings := []
  /-- the variables that programs are told -/
  exported : List Text := []
  /-- the variables that keep their values -/
  constant : List Text := []
  functions : List (Text × Command) := []
  /-- what is done when a signal comes, or when the shell ends, which counts as signal zero -/
  traps : List (Nat × Text) := []
  /-- how the last command ended; zero is success -/
  status : Nat := 0
  /-- the status of the last script whose output was used in the command that is running -/
  substituted : Nat := 0
  /-- what went out, the newest first -/
  written : List (Channel × Bytes) := []
  /-- what is collected, the innermost level first, and on each level the newest first -/
  collected : List (List Bytes) := []
  /-- the channels that are written -/
  channels : List (Nat × Stream) := [(1, .out .out), (2, .out .err)]
  /-- what is left to read; there is nothing to read from a closed channel -/
  input : Option Bytes := some []
  /-- whether the shell ends when a command fails -/
  stopsOnFailure : Bool := false
  /-- whether each command is written before it runs -/
  traces : Bool := false
  /-- whether a variable without a value is an error -/
  demandsValues : Bool := false
  /-- whether wildcards in words stand for themselves -/
  keepsWildcards : Bool := false
  /-- the number of loops around the command that is running -/
  loops : Nat := 0
  /-- inside of a function, what its own variables were before -/
  hidden : Option (List (Text × Option Text)) := none
  /-- the number of functions that are running inside of one another -/
  calls : Nat := 0
  /-- the built-in command that is running and names itself in messages -/
  running : Option Text := none
  /-- the line of the command that is running -/
  line : Nat := 1

/-- how a command ended -/
inductive Flow where
  /-- the status is in the state -/
  | done
  /-- the shell ends -/
  | exit
  /-- a signal ends the shell -/
  | killed (signal : Nat)
  /-- the shell has taken all the steps that it may take -/
  | exhausted
  /-- so many loops around it end -/
  | leave (levels : Nat)
  /-- the loop so many levels around it goes on with its next round -/
  | again (levels : Nat)
  /-- the function around it ends -/
  | returned
  deriving DecidableEq, Repr

abbrev Step := Flow × State

def finish (sh : State) (status : Nat) : Step := (.done, { sh with status })

def leaveShell (sh : State) (status : Nat) : Step := (.exit, { sh with status })

namespace State

/-! ## channels -/

def stream (sh : State) (channel : Nat) : Stream := (sh.channels.lookup channel).getD .closed

def setStream (sh : State) (channel : Nat) (s : Stream) : State :=
  { sh with channels := (channel, s) :: sh.channels.filter (·.1 ≠ channel) }

/-- adds bytes to what is collected on a level, counted from the outermost -/
def collect (sh : State) (level : Nat) (b : Bytes) : State :=
  { sh with collected := sh.collected.modify (sh.collected.length - 1 - level) (b :: ·) }

/-- sends bytes where a channel goes -/
def send (sh : State) (s : Stream) (b : Bytes) : State :=
  match s with
  | .out c => { sh with written := (c, b) :: sh.written }
  | .file place => { sh with files := sh.files.appendAt place b }
  | .collected level => sh.collect level b
  | .nowhere => sh
  | .closed => sh

/-- writes bytes on a channel -/
def write (sh : State) (channel : Nat) (b : Bytes) : State := sh.send (sh.stream channel) b

/-- writes a message about a line, with the built-in command that it comes from -/
def reportAt (sh : State) (line : Nat) (message : Text) : State :=
  let source := match sh.running with | some b => b ++ ": ".toList | none => []
  sh.write 2 (Octets.toBytes
    (sh.name ++ ": ".toList ++ (toString line).toList ++ ": ".toList ++ source ++ message ++
      ['\n']))

/-- writes a message about the line of the command that is running -/
def report (sh : State) (message : Text) : State := sh.reportAt sh.line message

/-! ## variables -/

def put (sh : State) (name value : Text) : State :=
  { sh with bindings := sh.bindings.put name value }

def forget (sh : State) (name : Text) : State :=
  { sh with bindings := sh.bindings.filter (·.1 ≠ name) }

/-- gives a variable the value that it had, or none -/
def putBack (sh : State) (name : Text) (value : Option Text) : State :=
  match value with
  | some v => sh.put name v
  | none => sh.forget name

/-- gives a value to a variable; one that keeps its value ends the shell -/
def assign (sh : State) (name value : Text) : Except Step State :=
  if sh.constant.contains name then
    .error (leaveShell (sh.report (name ++ ": is read only".toList)) 2)
  else .ok (sh.put name value)

/-- marks a variable as one that programs are told -/
def exportName (sh : State) (name : Text) : State :=
  if sh.exported.contains name then sh else { sh with exported := name :: sh.exported }

/-- the variables that programs are told -/
def environment (sh : State) : Bindings := sh.bindings.filter fun b => sh.exported.contains b.1

/-- stands for the number of the shell's own process -/
def processNumber : Text := "4242".toList

/-- the options that are on, by their letters -/
def optionLetters (sh : State) : Text :=
  [('e', sh.stopsOnFailure), ('f', sh.keepsWildcards), ('x', sh.traces), ('u', sh.demandsValues)]
    |>.filterMap fun o => if o.2 then some o.1 else none

/-- the characters at which values are taken apart -/
def separators (sh : State) : Text := (sh.bindings.lookup "IFS".toList).getD [' ', '\t', '\n']

/-- texts with a blank between neighbours -/
def joined (ts : List Text) : Text := [' '].intercalate ts

/-- the arguments with the first separator between neighbours -/
def joinedArguments (sh : State) : Text := (sh.separators.take 1).intercalate sh.arguments

/-- the value of a variable or parameter, if it has one -/
def value? (sh : State) (name : Text) : Option Text :=
  match name with
  | ['?'] => some (toString sh.status).toList
  | ['#'] => some (toString sh.arguments.length).toList
  | ['@'] => if sh.arguments = [] then none else some (joined sh.arguments)
  | ['*'] => if sh.arguments = [] then none else some sh.joinedArguments
  | ['$'] => some processNumber
  | ['!'] => none
  | ['-'] => some sh.optionLetters
  | c :: r =>
    if c.isDigit then
      match (leadingNumber 10 9 0 (c :: r)).1 with
      | 0 => some sh.name
      | n + 1 => sh.arguments[n]?
    else sh.bindings.lookup (c :: r)
  | [] => none

/-! ## copies -/

/-- a copy of the shell, which runs commands of its own -/
def copy (sh : State) : State := { sh with traps := sh.traps.filter fun t => t.2.isEmpty }

/-- the shell when a copy has ended: what the copy wrote and read and its status are kept -/
def rejoin (sh inside : State) : State :=
  { sh with
    written := inside.written, collected := inside.collected, input := inside.input,
    files := { inside.files with here := sh.files.here }, status := inside.status }

end State

end Workbench.Shell
