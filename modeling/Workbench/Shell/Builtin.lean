import Workbench.Shell.Printf
import Workbench.Shell.Signal
import Workbench.Shell.Test
import Workbench.Shell.Wildcard

/-!
# Built-in commands

The commands that the shell runs by itself, apart from those that need the evaluator.  Each takes
its arguments and the state, and ends with a status or in another way.  Some of them are special: an
error in one of those ends the shell, and variables that are given values in front of them keep
these.
-/

namespace Workbench.Shell

open Text (Bytes)

/-- fails with a message -/
def failWith (sh : State) (message : Text) : Step := finish (sh.report message) 2

/-- ends the shell with a message -/
def leaveWith (sh : State) (message : Text) : Step := leaveShell (sh.report message) 2

/-- writes to the first channel, which fails if that is closed -/
def finishWith (sh : State) (b : Bytes) : Step :=
  if sh.stream 1 = .closed ∧ b ≠ [] then
    finish (sh.report (sh.running.getD [] ++ ": I/O error".toList)) 1
  else finish (sh.write 1 b) 0

/-- writes a line -/
def finishLine (sh : State) (t : Text) : Step := finishWith sh (Octets.toBytes (t ++ ['\n']))

/-- a number from zero up to the greatest of 31 bits -/
def natural? (t : Text) : Option Nat :=
  match decimal? t with
  | some n => if 0 ≤ n ∧ n < Int.pow 2 31 then some n.toNat else none
  | none => none

def illegalNumber (t : Text) : Text := "Illegal number: ".toList ++ t

def illegalOption (c : Char) : Text := "Illegal option -".toList ++ [c]

/-! ## output -/

/-- the escapes of an echoed text -/
def echoStyle : EscapeStyle := { zero := true, stop := true }

def formatStyle : FormatStyle := ⟨{}, .double, false⟩

/-- the texts with a blank between neighbours, and a newline unless `-n` is first -/
def echo (sh : State) (args : List Text) : Step :=
  let (ended, args') := match args with | ['-', 'n'] :: r => (false, r) | r => (true, r)
  let (b, stop) := expandEscapes echoStyle (State.joined args')
  finishWith sh (if ended ∧ ¬ stop then b ++ [10] else b)

def Misfit.description : Misfit → Text
  | .noNumber => "expected numeric value".toList
  | .continued => "not completely converted".toList
  | .outOfRange => "Numerical result out of range".toList
  | .ignored _ => "more than one character".toList

/-- writes a format and its arguments, behind what is wrong with them -/
def writeFormat (sh : State) (f : Text) (args : List Text) : Step :=
  let (w, bad) := format formatStyle f args
  let warned := w.misfits.foldl
    (fun sh m => sh.report (m.1 ++ ": ".toList ++ m.2.description)) sh
  match bad with
  | some t =>
    let message :=
      if t = ['%'] then "missing format character".toList else t ++ ": invalid directive".toList
    finish (finishWith (warned.report message) w.bytes).2 2
  | none =>
    let (flow, sh') := finishWith warned w.bytes
    if w.misfits.isEmpty then (flow, sh') else finish sh' 1

def printf (sh : State) (args : List Text) : Step :=
  match args with
  | ['-', '-'] :: f :: rest => writeFormat sh f rest
  | ['-', '-'] :: [] => failWith sh "usage: printf format [arg ...]".toList
  | ('-' :: c :: _) :: _ => failWith sh (illegalOption c)
  | f :: rest => writeFormat sh f rest
  | [] => failWith sh "usage: printf format [arg ...]".toList

/-! ## tests -/

def testCommand (sh : State) (args : List Text) : Step :=
  match test sh.files args with
  | .ok b => finish sh (if b then 0 else 1)
  | .error message => failWith sh message

def bracket (sh : State) (args : List Text) : Step :=
  if args.getLast? = some [']'] then testCommand sh args.dropLast
  else failWith sh "missing ]".toList

/-! ## signals -/

/-- sends a signal to processes; the shell itself is the only one that is there -/
def send (signal : Nat) : (targets : List Text) → (status : Nat) → State → Step
  | [], status, sh => finish sh status
  | t :: ts, status, sh =>
    if t = State.processNumber ∨ t = ['0'] then
      if harmless.contains signal then send signal ts status sh
      else (.killed signal, { sh with status })
    else if (decimal? t).isNone then failWith sh (illegalNumber t)
    else send signal ts 1 (sh.report "No such process\n".toList)

def killUsage : Text :=
  "Usage: kill [-s sigspec | -signum | -sigspec] [pid | job]... or\nkill -l [exitstatus]".toList

/-- sends a signal, if there is a process to send it to -/
def sendTo (sh : State) (signal : Nat) (targets : List Text) : Step :=
  if targets = [] then failWith sh killUsage else send signal targets 0 sh

/-- the names of all signals, or that of one, by its number or by the status that it leaves -/
def listSignals (sh : State) (args : List Text) : Step :=
  match args with
  | [] =>
    finishLine sh (['\n'].intercalate (['0'] :: signals.map (·.2.toList)))
  | t :: _ =>
    match natural? t with
    | none => failWith sh (illegalNumber t)
    | some n =>
      match signals.lookup (if 128 < n then n - 128 else n) with
      | some name => finishLine sh name.toList
      | none => failWith sh ("invalid signal number or exit status: ".toList ++ t)

def kill (sh : State) (args : List Text) : Step :=
  match args with
  | [] => failWith sh killUsage
  | ['-', 'l'] :: rest => listSignals sh rest
  | ['-', 's'] :: [] => failWith sh "No arg for -s option".toList
  | ['-', 's'] :: t :: rest =>
    match signal? t with
    | some n => sendTo sh n rest
    | none => failWith sh ("invalid signal number or name: ".toList ++ t)
  | ['-', '-'] :: rest => sendTo sh 15 rest
  | ('-' :: c :: cs) :: rest =>
    match signal? (c :: cs) with
    | some n => sendTo sh n rest
    | none => failWith sh (illegalOption c)
  | targets => sendTo sh 15 targets

/-- a text in single quotes, but for its own single quotes, which stand in double ones -/
def inQuotes (t : Text) : Text :=
  let runs := t.splitBy fun a b => (a = '\'') = (b = '\'')
  let quoted := runs.flatMap fun r =>
    if r.head? = some '\'' then '"' :: r ++ ['"'] else '\'' :: r ++ ['\'']
  if t.head?.all (· = '\'') then '\'' :: '\'' :: quoted else quoted

/-- the actions of signals as commands -/
def listTraps (sh : State) : Step :=
  let lines := (sh.traps.mergeSort fun a b => a.1 ≤ b.1).flatMap fun t =>
    "trap -- ".toList ++ inQuotes t.2 ++ ' ' :: signalName t.1 ++ ['\n']
  finishWith sh (Octets.toBytes lines)

/-- sets the action of signals, or takes it away -/
def setTraps (action : Option Text) : List Text → State → Step
  | [], sh => finish sh 0
  | t :: ts, sh =>
    match signal? t with
    | none => finish (sh.write 2 (Octets.toBytes ("trap: ".toList ++ t ++ ": bad trap\n".toList))) 1
    | some n =>
      let others := sh.traps.filter (·.1 ≠ n)
      setTraps action ts
        { sh with traps := match action with | some a => (n, a) :: others | none => others }

def trap (sh : State) (args : List Text) : Step :=
  match args with
  | [] => listTraps sh
  | ['-', '-'] :: [] => listTraps sh
  | [t] => setTraps none [t] sh
  | ['-'] :: ts => setTraps none ts sh
  | ['-', '-'] :: action :: ts => setTraps (some action) ts sh
  | action :: ts => setTraps (some action) ts sh

/-! ## parameters and variables -/

def exit (sh : State) (args : List Text) : Step :=
  match args with
  | [] => leaveShell sh sh.status
  | t :: _ =>
    match natural? t with
    | some n => leaveShell sh (n % 256)
    | none => leaveWith sh (illegalNumber t)

def return' (sh : State) (args : List Text) : Step :=
  match args with
  | [] => (.returned, sh)
  | t :: _ =>
    match natural? t with
    | some n => (.returned, { sh with status := n })
    | none => leaveWith sh (illegalNumber t)

/-- leaves loops or goes on with one of them, as many as there are -/
def jump (flow : Nat → Flow) (sh : State) (args : List Text) : Step :=
  match natural? (args.headD ['1']) with
  | none => leaveWith sh (illegalNumber (args.headD []))
  | some 0 => leaveWith sh (illegalNumber (args.headD []))
  | some n =>
    if sh.loops = 0 then finish sh 0 else (flow (min n sh.loops), { sh with status := 0 })

def shift (sh : State) (args : List Text) : Step :=
  match natural? (args.headD ['1']) with
  | none => leaveWith sh (illegalNumber (args.headD []))
  | some n =>
    if n ≤ sh.arguments.length then finish { sh with arguments := sh.arguments.drop n } 0
    else leaveWith sh "can't shift that many".toList

/-- turns an option on or off, if it is one; not all of them have an effect -/
def setOption (on : Bool) (sh : State) (c : Char) : Except Text State :=
  match c with
  | 'e' => .ok { sh with stopsOnFailure := on }
  | 'f' => .ok { sh with keepsWildcards := on }
  | 'u' => .ok { sh with demandsValues := on }
  | 'x' => .ok { sh with traces := on }
  | c => if "abCEiIlmnsvV".toList.contains c then .ok sh else .error (illegalOption c)

/-- the letter of an option with a name -/
def optionLetter (name : Text) : Except Text Char :=
  match String.ofList name with
  | "errexit" => .ok 'e'
  | "noglob" => .ok 'f'
  | "nounset" => .ok 'u'
  | "xtrace" => .ok 'x'
  | "allexport" => .ok 'a'
  | "noclobber" => .ok 'C'
  | "noexec" => .ok 'n'
  | "verbose" => .ok 'v'
  | "monitor" => .ok 'm'
  | "notify" => .ok 'b'
  | _ => .error ("Illegal option -o ".toList ++ name)

/-- options, and new arguments behind them -/
def setParameters : List Text → State → Except Text State
  | [], sh => .ok sh
  | ['-', '-'] :: args, sh => .ok { sh with arguments := args }
  | ['-', 'o'] :: name :: args, sh => do
    setParameters args (← setOption true sh (← optionLetter name))
  | ['+', 'o'] :: name :: args, sh => do
    setParameters args (← setOption false sh (← optionLetter name))
  | ('-' :: c :: cs) :: args, sh => do
    setParameters args (← (c :: cs).foldlM (setOption true) sh)
  | ('+' :: c :: cs) :: args, sh => do
    setParameters args (← (c :: cs).foldlM (setOption false) sh)
  | args, sh => .ok { sh with arguments := args }

def setCommand (sh : State) (args : List Text) : Step :=
  match setParameters args sh with
  | .ok sh' => finish sh' 0
  | .error message => leaveWith sh message

/-- a name with the value behind its equals sign -/
def splitAssignment (t : Text) : Text × Option Text :=
  match t.dropWhile (· ≠ '=') with
  | _ :: v => (t.takeWhile (· ≠ '='), some v)
  | [] => (t, none)

/-- does something with variables that may get values on the way -/
def eachVariable (f : State → Text → State) : List Text → State → Step
  | [], sh => finish sh 0
  | t :: ts, sh =>
    let (name, value) := splitAssignment t
    if ¬ isName name then leaveWith sh (name ++ ": bad variable name".toList)
    else
      let sh' := f sh name
      match value with
      | none => eachVariable f ts sh'
      | some v =>
        match sh'.assign name v with
        | .ok sh'' => eachVariable f ts sh''
        | .error e => e

def exportCommand (sh : State) (args : List Text) : Step :=
  eachVariable State.exportName (args.filter (· ≠ ['-', 'p'])) sh

/-- gives values to variables, and then keeps these -/
def readonlyCommand (sh : State) (args : List Text) : Step :=
  let args := args.filter (· ≠ ['-', 'p'])
  match eachVariable (fun sh _ => sh) args sh with
  | (.done, sh') =>
    (.done, { sh' with constant := args.map (splitAssignment · |>.1) ++ sh'.constant })
  | s => s

/-- makes variables those of the function that is running -/
def localCommand (sh : State) (args : List Text) : Step :=
  if sh.hidden.isNone then leaveWith sh "not in a function".toList
  else
    eachVariable (fun sh name =>
      { sh with hidden := sh.hidden.map ((name, sh.bindings.lookup name) :: ·) }) args sh

/-- takes values from variables; the first name that cannot lose one ends the shell -/
def unsetVariables (sh : State) (names : List Text) : Step :=
  let isBad (name : Text) : Bool := !isName (splitAssignment name).1
  match names.find? fun name => isBad name || sh.constant.contains name with
  | some name =>
    leaveWith sh (name ++ (if isBad name then ": bad variable name" else ": is read only").toList)
  | none => finish (names.foldl State.forget sh) 0

def unset (sh : State) (args : List Text) : Step :=
  match args with
  | ['-', 'f'] :: names =>
    finish { sh with functions := sh.functions.filter fun f => !names.contains f.1 } 0
  | ['-', 'v'] :: names => unsetVariables sh names
  | ['-', '-'] :: names => unsetVariables sh names
  | ('-' :: c :: _) :: _ => leaveWith sh (illegalOption c)
  | names => unsetVariables sh names

/-! ## input -/

/-- the first line of an input with its backslashes, whether it was ended, and the rest; a backslash
joins lines unless it is kept -/
def readInputLine (keeps : Bool) : (fuel : Nat) → Bytes → List Glyph × Bool × Bytes
  | 0, b => ([], false, b)
  | fuel + 1, b =>
    let line := b.takeWhile (· ≠ 10)
    let rest := b.drop (line.length + 1)
    let isEnded := line.length < b.length
    let glyphs := unescape keeps (Octets.ofBytes line)
    if ¬ keeps ∧ isEnded ∧ (line.reverse.takeWhile (· = 92)).length % 2 = 1 then
      let (more, ended, rest') := readInputLine keeps fuel rest
      (glyphs ++ more, ended, rest')
    else (glyphs, isEnded, rest)
where
  /-- resolves backslashes; what stood behind one is quoted -/
  unescape (keeps : Bool) : Text → List Glyph
    | '\\' :: c :: t => if keeps then ('\\', false) :: unescape keeps (c :: t)
      else (c, true) :: unescape keeps t
    | ['\\'] => if keeps then [('\\', false)] else []
    | c :: t => (c, false) :: unescape keeps t
    | [] => []

/-- gives the words of a line to variables; the last gets all that is left -/
def giveWords (separators : Text) : List Text → List Glyph → State → Except Step State
  | [], _, sh => .ok sh
  | name :: names, line, sh =>
    let isBlank (g : Glyph) : Bool := !g.2 && separators.contains g.1 && isSpace g.1
    let isSeparator (g : Glyph) : Bool := !g.2 && separators.contains g.1
    let line := line.dropWhile isBlank
    if names = [] then sh.assign name ((line.reverse.dropWhile isBlank).reverse.map (·.1))
    else
      let word := line.takeWhile fun g => !isSeparator g
      let rest := (line.drop word.length).dropWhile isBlank
      let rest := match rest with
        | g :: r => if isSeparator g then r else g :: r
        | [] => []
      match sh.assign name (word.map (·.1)) with
      | .ok sh' => giveWords separators names rest sh'
      | .error e => .error e

def readCommand (sh : State) (args : List Text) : Step :=
  let keeps := args.head? = some ['-', 'r']
  let names := if keeps then args.tail else args
  match sh.input with
  | none => finish sh 1
  | some b =>
    let (line, ended, rest) := readInputLine keeps (b.length + 1) b
    match giveWords sh.separators names line { sh with input := some rest } with
    | .ok sh' => finish sh' (if ended then 0 else 1)
    | .error e => e

/-! ## places -/

def changeDirectory (sh : State) (args : List Text) : Step :=
  match args with
  | [] => finish sh 0
  | path :: _ =>
    match sh.files.enter (Octets.toText path) with
    | .ok files => finish { sh with files } 0
    | .error _ => failWith sh ("can't cd to ".toList ++ path)

def showDirectory (sh : State) (_args : List Text) : Step :=
  finishLine sh (Octets.ofText ('/' :: ['/'].intercalate sh.files.here))

def umask (sh : State) (args : List Text) : Step :=
  match args with
  | [] => finishLine sh "0022".toList
  | ['-', 'S'] :: _ => finishLine sh "u=rwx,g=rx,o=rx".toList
  | _ => finish sh 0

/-- there are no processes to wait for -/
def wait (sh : State) (args : List Text) : Step := finish sh (if args = [] then 0 else 127)

/-! ## commands by name -/

/-- the special commands that need no evaluator -/
def specialBuiltin? (name : String) : Option (State → List Text → Step) :=
  match name with
  | ":" => some fun sh _ => finish sh 0
  | "break" => some (jump .leave)
  | "continue" => some (jump .again)
  | "exit" => some exit
  | "export" => some exportCommand
  | "local" => some localCommand
  | "readonly" => some readonlyCommand
  | "return" => some return'
  | "set" => some setCommand
  | "shift" => some shift
  | "times" => some fun sh _ =>
    finishLine sh "0m0.000000s 0m0.000000s\n0m0.000000s 0m0.000000s".toList
  | "trap" => some trap
  | "unset" => some unset
  | _ => none

/-- the other commands that need no evaluator -/
def plainBuiltin? (name : String) : Option (State → List Text → Step) :=
  match name with
  | "true" => some fun sh _ => finish sh 0
  | "false" => some fun sh _ => finish sh 1
  | "alias" | "hash" | "jobs" | "unalias" => some fun sh _ => finish sh 0
  | "[" => some bracket
  | "cd" => some changeDirectory
  | "echo" => some echo
  | "kill" => some kill
  | "printf" => some printf
  | "pwd" => some showDirectory
  | "read" => some readCommand
  | "test" => some testCommand
  | "ulimit" => some fun sh args =>
    if args.length < 2 then finishLine sh "unlimited".toList else finish sh 0
  | "umask" => some umask
  | "wait" => some wait
  | _ => none

end Workbench.Shell
