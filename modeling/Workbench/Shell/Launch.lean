import Workbench.Interpreter.External
import Workbench.Shell.Evaluate

/-!
# Starting programs

The shell stands for an external program.  It is no part of the playground, which starts whatever
program its settings name; it is only the launcher that is handed to `Interpreter.external`, so that
a run can be followed to its end.  Nothing that is said of the playground depends on how it works.

A program is found by its name, or in one of the directories of programs.  No other file can be run.
A shell starts programs in turn, among them shells, but not without end.
-/

namespace Workbench.Shell

open Text (Bytes)

/-! ## the shell as a program -/

/-- what the arguments of the shell ask for -/
structure Invocation where
  /-- the script is an argument and not a file -/
  command : Bool := false
  /-- the script is read, wherever its arguments are -/
  reads : Bool := false
  /-- the script is looked at and not run -/
  onlyLooks : Bool := false
  /-- a shell with the options that are asked for -/
  shell : State := { name := [] }

/-- reads the letters of an option, or tells what is wrong with them -/
def readOption (on : Bool) (i : Invocation) : List Char → Except Text Invocation
  | [] => .ok i
  | 'c' :: cs => readOption on { i with command := true } cs
  | 's' :: cs => readOption on { i with reads := true } cs
  | 'n' :: cs => readOption on { i with onlyLooks := on } cs
  | c :: cs =>
    match setOption on i.shell c with
    | .ok shell => readOption on { i with shell } cs
    | .error message => .error message

/-- the options of the shell, and the arguments behind them -/
def readOptions (i : Invocation) : List Text → Except Text (Invocation × List Text)
  | [] => .ok (i, [])
  | ['-', '-'] :: args => .ok (i, args)
  | ['-'] :: args => .ok (i, args)
  | ['-', 'o'] :: name :: args => do
    let shell ← setOption true i.shell (← optionLetter name)
    readOptions { i with shell } args
  | ('-' :: cs) :: args => do readOptions (← readOption true i cs) args
  | ('+' :: cs) :: args => do readOptions (← readOption false i cs) args
  | args => .ok (i, args)

/-- runs a script as a shell of its own -/
def runInvocation (start : Starter) (i : Invocation) (s : Start) (name : Text) (args : List Text)
    (script : Text) : Ended :=
  let sh : State :=
    { i.shell with
      name, arguments := args, files := s.files, bindings := s.environment,
      exported := s.environment.map (·.1), input := some s.input }
  let read := Script.read script
  let (flow, sh') := runShell start (if i.onlyLooks then { read with lines := [] } else read) sh
  { written := sh'.written.reverse, input := sh'.input.getD [], files := sh'.files,
    ending :=
      match flow with
      | .killed n => .signal n
      | .exhausted => .signal 9
      | _ => .code (sh'.status % 256) }

/-- the shell; without a script among its arguments it reads one -/
def shellProgram (start : Starter) (s : Start) : Ended :=
  -- messages of a shell that has not begun
  let refuse (message : Text) : Ended :=
    s.leaves [(.err, Octets.toBytes (s.called ++ ": 0: ".toList ++ message ++ ['\n']))] 2
  match readOptions {} s.arguments with
  | .error message => refuse message
  | .ok (i, rest) =>
    match i.command, rest with
    | true, [] => refuse "-c requires an argument".toList
    | true, script :: more => runInvocation start i s (more.headD s.called) more.tail script
    | false, rest =>
      let reads := runInvocation start i { s with input := [] } s.called rest
        (Octets.ofBytes s.input)
      match rest with
      | [] => reads
      | path :: more =>
        if i.reads then reads
        else
          match s.files.read (Octets.toText path) with
          | .ok b => runInvocation start i s path more (Octets.ofBytes b)
          | .error e => refuse (openError "open" "No such file" path e)

/-! ## starting programs -/

/-- the directories of programs -/
def programDirectories : List Text := ["/bin/".toList, "/usr/bin/".toList]

/-- the name of a program in one of their directories -/
def installedName (path : Text) : Text :=
  match programDirectories.find? (·.isPrefixOf path) with
  | some d => path.drop d.length
  | none => path

/-- the reason why a path that leads to no program cannot be started -/
def refusal (fs : Files) (path : Text) : FileError :=
  if path.contains '/' then
    match fs.find (Octets.toText path) with
    | .error e => e
    | .ok _ => .denied
  else if path = ['.'] ∨ path = ['.', '.'] then .denied
  else .notFound

/-- starts a program; shells can be inside of each other so many times -/
def startProgram : (depth : Nat) → Starter
  | 0, s => .error (refusal s.files s.called)
  | depth + 1, s =>
    let name := String.ofList (installedName s.called)
    if shellNames.contains name then .ok (shellProgram (startProgram depth) s)
    else
      match program? name with
      | some run => .ok (run s)
      | none => .error (refusal s.files s.called)

/-- how many shells can be inside of each other -/
def deepest : Nat := 100

/-- starts a program in a directory; no argument can hold NUL -/
def launch : Launcher := fun files program args =>
  if (program :: args).any (·.contains '\x00') then .error "nul byte found in provided data"
  else
    let started : Start :=
      { called := Octets.ofText program, arguments := args.map Octets.ofText, files }
    match startProgram deepest started with
    | .error e => .error e.message
    | .ok e =>
      let outcome : Outcome :=
        { out := (e.written.filter (·.1 = .out)).flatMap (·.2),
          err := (e.written.filter (·.1 = .err)).flatMap (·.2),
          exitCode := match e.ending with | .code n => some n | .signal _ => none }
      .ok (outcome, e.files)

end Workbench.Shell
