import Workbench.Shell.Builtin
import Workbench.Shell.Expansion
import Workbench.Shell.Parser
import Workbench.Shell.Program

/-!
# Running scripts

The evaluator runs a command in a state.  Loops need not end, so it takes fuel, and a shell that
runs out of it is told apart from one that ended.  Where a command is only tested, its failure never
ends the shell.  How programs are started is left open.
-/

namespace Workbench.Shell

open Text (Bytes)

/-! ## redirections -/

/-- the reason why a file cannot be written or read -/
def openError (verb missing : String) (path : Text) (e : FileError) : Text :=
  let reason :=
    match e with
    | .notFound => missing
    | .notDirectory => missing
    | e => e.reason
  "cannot ".toList ++ verb.toList ++ ' ' :: path ++ ": ".toList ++ reason.toList

/-- sends a channel to a file -/
def redirectToFile (channel : Nat) (path : Text) (append : Bool) (sh : State) :
    Except Text State :=
  match sh.files.writable (Octets.toText path) with
  | .error e => .error (openError "create" "Directory nonexistent" path e)
  | .ok none => .ok (sh.setStream channel .nowhere)
  | .ok (some place) =>
    let files := if append then sh.files.appendAt place [] else sh.files.clearAt place
    .ok ({ sh with files }.setStream channel (.file place))

/-- sends a channel where another one goes -/
def redirectToChannel (channel : Nat) (goal : Text) (sh : State) : Except Text State :=
  match goal with
  | ['-'] =>
    .ok (if channel = 0 then { sh with input := none } else sh.setStream channel .closed)
  | [c] =>
    let n := c.toNat - '0'.toNat
    if ¬ c.isDigit then .error SyntaxError.badChannel.message
    else if n = 0 ∧ sh.input.isSome then .ok sh
    else if sh.stream n = .closed then .error ([c] ++ ": Bad file descriptor".toList)
    else .ok (sh.setStream channel (sh.stream n))
  | _ => .error SyntaxError.badChannel.message

/-- lets a channel read bytes -/
def redirectFrom (channel : Nat) (b : Bytes) (sh : State) : State :=
  if channel = 0 then { sh with input := some b } else sh

/-- sends channels elsewhere, up to one for which that is impossible -/
def redirect (capture : Capture) : List Redirection → Expanding (Option Text)
  | [] => return none
  | r :: rs => do
    let result ←
      match r.goal with
      | .channel w => do
        let goal ← expandWhole capture w
        pure (redirectToChannel r.channel goal (← get))
      | .write w append => do
        let path ← expandWhole capture w
        pure (redirectToFile r.channel path append (← get))
      | .read w => do
        let path ← expandWhole capture w
        let sh ← get
        match sh.files.read (Octets.toText path) with
        | .ok b => pure (.ok (redirectFrom r.channel b sh))
        | .error e => pure (.error (openError "open" "No such file" path e))
      | .here w => do
        let body ← expandWhole capture w
        pure (.ok (redirectFrom r.channel (Octets.toBytes body) (← get)))
    match result with
    | .error message => return some message
    | .ok sh =>
      set sh
      redirect capture rs

/-- puts the channels back as they were before some redirections -/
def restore (before : State) (rs : List Redirection) (s : Step) : Step :=
  let input := if rs.any (·.channel = 0) then before.input else s.2.input
  (s.1, { s.2 with channels := before.channels, input })

/-! ## ends of commands -/

/-- ends the shell if a command failed and the shell ends then -/
def check (tested : Bool) (s : Step) : Step :=
  match s with
  | (.done, sh) => if sh.stopsOnFailure ∧ ¬ tested ∧ sh.status ≠ 0 then (.exit, sh) else (.done, sh)
  | s => s

/-- what is left when a copy of the shell has ended -/
def rejoinStep (sh : State) (s : Step) : Step :=
  let flow :=
    match s.1 with
    | .killed n => .killed n
    | .exhausted => .exhausted
    | _ => .done
  (flow, sh.rejoin s.2)

/-- a copy of the shell whose first channel is collected -/
def collecting (sh : State) : State :=
  let inside := sh.copy
  { inside with collected := [] :: inside.collected }.setStream 1 (.collected sh.collected.length)

/-- what a copy has collected, and the step without that -/
def takeCollected (s : Step) : Bytes × Step :=
  ((s.2.collected.headD []).reverse.flatten,
    (s.1, { s.2 with collected := s.2.collected.tail }))

/-- the text of an output: without NUL, and without the newlines at its end -/
def outputText (b : Bytes) : Text :=
  ((Octets.ofBytes (b.filter (· ≠ 0))).reverse.dropWhile (· = '\n')).reverse

/-! ## simple commands -/

/-- gives values to variables one after another -/
def assignAll (capture : Capture) :
    List (Text × Word) → Expanding (List (Text × Text))
  | [] => return []
  | (name, w) :: rest => do
    let v ← expandWhole capture w
    match (← get).assign name v with
    | .error s => throw s
    | .ok sh =>
      set sh
      return (name, v) :: (← assignAll capture rest)

/-- writes a command before it runs, where messages go -/
def trace (goal : Stream) (assigned : List (Text × Text)) (fields : List Text) (sh : State) :
    State :=
  if sh.traces then
    let words := (assigned.map fun a => a.1 ++ '=' :: a.2) ++ fields
    sh.send goal (Octets.toBytes ('+' :: ' ' :: State.joined words ++ ['\n']))
  else sh

/-- whether a command is special -/
def isSpecialBuiltin (name : Text) : Bool :=
  let s := String.ofList name
  (specialBuiltin? s).isSome || ["eval", "exec", "."].contains s

/-- whether a command is built in -/
def isBuiltin (name : Text) : Bool :=
  let s := String.ofList name
  isSpecialBuiltin name || (plainBuiltin? s).isSome || ["command", "type"].contains s

/-- runs a built-in command under its name -/
def runBuiltin (f : State → List Text → Step) (name : Text) (args : List Text) (sh : State) :
    Step :=
  let (flow, sh') := f { sh with running := some name } args
  (flow, { sh' with running := sh.running })

/-- starts a program; the reason why it cannot be started comes under a name, if there is one -/
def runProgram (start : Starter) (name : Text) (args : List Text) (sh : State) : Step :=
  match start ⟨name, args, sh.environment, sh.input.getD [], sh.files⟩ with
  | .error e =>
    let (reason, status) :=
      match e with
      | .notFound => if name = [] then ("Permission denied", 127) else ("not found", 127)
      | .notDirectory => ("not found", 127)
      | e => (e.reason, 126)
    finish (sh.report (name ++ ": ".toList ++ reason.toList)) status
  | .ok e =>
    let wrote := e.written.foldl (fun sh w =>
      sh.write (match w.1 with | .out => 1 | .err => 2) w.2) sh
    let sh' :=
      { wrote with
        files := { e.files with here := sh.files.here }, input := sh.input.map fun _ => e.input }
    match e.ending with
    | .code n => finish sh' n
    | .signal n =>
      let said := obituary n
      finish (if said = [] then sh' else sh'.write 2 (Octets.toBytes (said ++ ['\n']))) (128 + n)

/-- what a name stands for as a command, in words and in short -/
def describeCommand (sh : State) (name : Text) : Option (Text × Text) :=
  if reserved.contains name then some (" is a shell keyword".toList, name)
  else if isSpecialBuiltin name then some (" is a special shell builtin".toList, name)
  else if (sh.functions.lookup name).isSome then some (" is a shell function".toList, name)
  else if isBuiltin name then some (" is a shell builtin".toList, name)
  else (locate? name).map fun path => (" is ".toList ++ path, path)

/-- tells what names stand for -/
def typeCommand (sh : State) (args : List Text) : Step :=
  let lines := args.map fun name =>
    match describeCommand sh name with
    | some (words, _) => (name ++ words, true)
    | none => (name ++ ": not found".toList, false)
  let text := lines.flatMap fun l => l.1 ++ ['\n']
  let (flow, sh') := finishWith sh (Octets.toBytes text)
  if lines.all (·.2) then (flow, sh') else finish sh' 127

/-- tells what a name stands for in short -/
def showCommand (sh : State) (args : List Text) : Step :=
  match args.head?.bind (describeCommand sh) with
  | some (_, short) => finishLine sh short
  | none => finish sh 127

/-- the file of a script that is read into the shell; only a path with a slash leads to one -/
def sourceFile (sh : State) (path : Text) : Except Text Text :=
  if ¬ path.contains '/' then .error (path ++ ": not found".toList)
  else
    match sh.files.read (Octets.toText path) with
    | .ok b => .ok (Octets.ofBytes b)
    | .error e => .error (openError "open" "No such file" path e)

/-! ## the evaluator -/

/-- how many functions can run inside of one another -/
def mostCalls : Nat := 1000

mutual

/-- runs a command -/
def run (start : Starter) (fuel : Nat) (tested : Bool) (c : Command) (sh : State) : Step :=
  match fuel with
  | 0 => (.exhausted, sh)
  | fuel + 1 =>
    match c with
    | .skip => (.done, sh)
    | .simple line assignments words rs =>
      runSimple start fuel tested assignments words rs { sh with line, substituted := 0 }
    | .sequence a b =>
      match run start fuel tested a sh with
      | (.done, sh') => run start fuel tested b sh'
      | s => s
    | .pipeline a b =>
      let (bytes, s) :=
        takeCollected (conclude start fuel (run start fuel tested a (collecting sh)))
      match rejoinStep sh s with
      | (.done, sh') =>
        let inside := { sh'.copy with input := some bytes, status := sh.status }
        let (flow, sh'') := rejoinStep sh' (conclude start fuel (run start fuel tested b inside))
        check tested (flow, { sh'' with input := sh'.input })
      | s => s
    | .onSuccess a b =>
      match run start fuel true a sh with
      | (.done, sh') => if sh'.status = 0 then run start fuel tested b sh' else (.done, sh')
      | s => s
    | .onFailure a b =>
      match run start fuel true a sh with
      | (.done, sh') => if sh'.status ≠ 0 then run start fuel tested b sh' else (.done, sh')
      | s => s
    | .not a =>
      match run start fuel true a sh with
      | (.done, sh') => finish sh' (if sh'.status = 0 then 1 else 0)
      | s => s
    | .branch condition yes no =>
      match run start fuel true condition sh with
      | (.done, sh') =>
        if sh'.status = 0 then run start fuel tested yes sh'
        else if no.isSkip then finish sh' 0
        else run start fuel tested no sh'
      | s => s
    | .loop while' condition body =>
      let (flow, sh') :=
        runLoop start fuel tested while' condition body 0 { sh with loops := sh.loops + 1 }
      (flow, { sh' with loops := sh.loops })
    | .each line name values body =>
      match expandAll (capture start fuel) values { sh with line } with
      | .error s => s
      | .ok (vs, sh') =>
        let (flow, sh'') :=
          runEach start fuel tested name vs body { sh' with loops := sh.loops + 1 }
        let status := if vs = [] then 0 else sh''.status
        (flow, { sh'' with loops := sh.loops, status })
    | .choose line subject arms =>
      match expandWhole (capture start fuel) subject { sh with line } with
      | .error s => s
      | .ok (t, sh') => runArms start fuel tested t arms sh'
    | .define name body =>
      finish { sh with functions := (name, body) :: sh.functions.filter (·.1 ≠ name) } 0
    | .redirected line a rs =>
      let sh := { sh with line }
      match redirect (capture start fuel) rs sh with
      | .error s => s
      | .ok (some message, sh') =>
        let s := finish ({ sh' with channels := sh.channels }.report message) 2
        check tested (restore sh rs s)
      | .ok (none, sh') => restore sh rs (run start fuel tested a sh')
    | .inner line a =>
      let sh := { sh with line }
      check tested (rejoinStep sh (conclude start fuel (run start fuel tested a sh.copy)))
    | .background a =>
      let inside := { sh.copy with input := some [] }
      let (flow, sh') := rejoinStep sh (conclude start fuel (run start fuel true a inside))
      (flow, { sh' with input := sh.input, status := 0 })

/-- runs a simple command -/
def runSimple (start : Starter) (fuel : Nat) (tested : Bool) (assignments : List (Text × Word))
    (words : List Word) (rs : List Redirection) (sh : State) : Step :=
  match fuel with
  | 0 => (.exhausted, sh)
  | fuel + 1 =>
    match expandAll (capture start fuel) words sh with
    | .error s => s
    | .ok (fields, sh) =>
      let special := fields.head?.any isSpecialBuiltin
      match redirect (capture start fuel) rs sh with
      | .error s => s
      | .ok (some message, sh') =>
        let (_, failed) :=
          restore sh rs (finish ({ sh' with channels := sh.channels }.report message) 2)
        if special then (.exit, failed) else check tested (.done, failed)
      | .ok (none, redirected) =>
        match assignAll (capture start fuel) assignments redirected with
        | .error s => restore sh rs s
        | .ok (assigned, sh') =>
          let sh' := trace (sh.stream 2) assigned fields sh'
          match fields with
          | [] => check tested (restore sh rs (finish sh' sh'.substituted))
          | name :: args =>
            if name = "exec".toList then replace start fuel args sh'
            else if special then
              check tested (restore sh rs (dispatch start fuel tested name args sh'))
            else
              let told := assigned.foldl (fun sh a => sh.exportName a.1) sh'
              let (flow, sh'') := dispatch start fuel tested name args told
              let putBack := assigned.foldl (fun s a => s.putBack a.1 (sh.bindings.lookup a.1)) sh''
              let exported := if assigned = [] then sh''.exported else sh.exported
              check tested (restore sh rs (flow, { putBack with exported }))

/-- runs the program that takes the place of the shell, or keeps the channels as they are -/
def replace (start : Starter) (fuel : Nat) (args : List Text) (sh : State) : Step :=
  match fuel with
  | 0 => (.exhausted, sh)
  | _ + 1 =>
    match args with
    | [] => finish sh 0
    | name :: args =>
      let (_, sh') := runBuiltin (fun sh _ => runProgram start name args sh) "exec".toList [] sh
      (.exit, { sh' with traps := [] })

/-- runs a command by its name -/
def dispatch (start : Starter) (fuel : Nat) (tested : Bool) (name : Text) (args : List Text)
    (sh : State) : Step :=
  match fuel with
  | 0 => (.exhausted, sh)
  | fuel + 1 =>
    let s := String.ofList name
    match specialBuiltin? s with
    | some f => runBuiltin f name args sh
    | none =>
      if s = "eval" then
        runBuiltin (fun sh args => evaluate start fuel tested (State.joined args)
          { sh with status := 0 })
          name args sh
      else if s = "." then runBuiltin (fun sh args => source start fuel tested args sh)
        name args sh
      else
        match sh.functions.lookup name with
        | some body => call start fuel tested body args sh
        | none => dispatchPlain start fuel tested name args sh

/-- runs a command that is neither special nor a function -/
def dispatchPlain (start : Starter) (fuel : Nat) (tested : Bool) (name : Text)
    (args : List Text) (sh : State) : Step :=
  match fuel with
  | 0 => (.exhausted, sh)
  | fuel + 1 =>
    let s := String.ofList name
    match plainBuiltin? s with
    | some f => handle start fuel (runBuiltin f name args sh)
    | none =>
      if s = "type" then runBuiltin typeCommand name args sh
      else if s = "command" then
        match args with
        | [] => finish sh 0
        | ['-', 'v'] :: names => runBuiltin showCommand name names sh
        | ['-', 'V'] :: names => runBuiltin typeCommand name names sh
        | ['-', 'p'] :: name' :: args' => runCommand start fuel tested name' args' sh
        | name' :: args' => runCommand start fuel tested name' args' sh
      else runProgram start name args sh

/-- runs a command by its name, but no function -/
def runCommand (start : Starter) (fuel : Nat) (tested : Bool) (name : Text) (args : List Text)
    (sh : State) : Step :=
  match fuel with
  | 0 => (.exhausted, sh)
  | fuel + 1 =>
    if isSpecialBuiltin name then dispatch start fuel tested name args sh
    else dispatchPlain start fuel tested name args sh

/-- runs a function with arguments of its own, unless too many are running already -/
def call (start : Starter) (fuel : Nat) (tested : Bool) (body : Command) (args : List Text)
    (sh : State) : Step :=
  match fuel with
  | 0 => (.exhausted, sh)
  | fuel + 1 =>
    if sh.calls = mostCalls then
      leaveWith sh
        ("Maximum function recursion depth (".toList ++ (toString mostCalls).toList
          ++ ") reached".toList)
    else
      let inside :=
        { sh with arguments := args, loops := 0, hidden := some [], calls := sh.calls + 1 }
      let (flow, sh') := run start fuel tested body inside
      let restored := (sh'.hidden.getD []).foldl (fun s h => s.putBack h.1 h.2) sh'
      let left :=
        { restored with
          arguments := sh.arguments, loops := sh.loops, hidden := sh.hidden, calls := sh.calls }
      match flow with
      | .returned => (.done, left)
      | .leave _ => (.done, left)
      | .again _ => (.done, left)
      | flow => (flow, left)

/-- runs a text as a script of its own -/
def evaluate (start : Starter) (fuel : Nat) (tested : Bool) (text : Text) (sh : State) : Step :=
  match fuel with
  | 0 => (.exhausted, sh)
  | fuel + 1 => runScript start fuel tested (Script.read text) sh

/-- runs a file as a script of its own -/
def source (start : Starter) (fuel : Nat) (tested : Bool) (args : List Text)
    (sh : State) : Step :=
  match fuel with
  | 0 => (.exhausted, sh)
  | fuel + 1 =>
    match args with
    | [] => finish sh 0
    | path :: _ =>
      match sourceFile sh path with
      | .error message => leaveWith sh message
      | .ok text =>
        match runScript start fuel tested (Script.read text) { sh with status := 0 } with
        | (.returned, sh') => (.done, sh')
        | s => s

/-- does what is to be done when a signal comes -/
def handle (start : Starter) (fuel : Nat) (s : Step) : Step :=
  match fuel, s with
  | fuel + 1, (.killed n, sh) =>
    match if n = 9 then none else sh.traps.lookup n with
    | none => (.killed n, sh)
    | some action =>
      match evaluate start fuel true action { sh with running := none } with
      | (.done, sh') => finish sh' sh.status
      | s => s
  | _, s => s

/-- does what is to be done when a shell ends -/
def conclude (start : Starter) (fuel : Nat) (s : Step) : Step :=
  match fuel, s with
  | _, (.killed n, sh) => (.killed n, sh)
  | _, (.exhausted, sh) => (.exhausted, sh)
  | 0, s => s
  | fuel + 1, (flow, sh) =>
    match sh.traps.lookup 0 with
    | none => (flow, sh)
    | some action =>
      let rest := sh.traps.filter (·.1 ≠ 0)
      match evaluate start fuel true action { sh with running := none, traps := rest } with
      | (.done, sh') => (flow, { sh' with status := sh.status })
      | s => s

/-- the output of a script that begins on a line -/
def capture (start : Starter) (fuel : Nat) (script : Text) (line : Nat) (sh : State) :
    Except Step (Text × State) :=
  match fuel with
  | 0 => .error (.exhausted, sh)
  | fuel + 1 =>
    let s := Script.readFrom line script
    match s.error? with
    | some (e, line) => .error (leaveShell (sh.reportAt line e.message) 2)
    | none =>
      let inside := { collecting sh with running := none, loops := 0 }
      let ended := conclude start fuel (runLines start fuel false s.lines inside)
      let (bytes, s) := takeCollected ended
      match rejoinStep sh s with
      | (.done, sh') =>
        .ok (outputText bytes, { sh' with status := sh.status, substituted := sh'.status })
      | s => .error s

/-- runs the lines of a script, and reports the error behind them -/
def runScript (start : Starter) (fuel : Nat) (tested : Bool) (s : Script) (sh : State) : Step :=
  match fuel with
  | 0 => (.exhausted, sh)
  | fuel + 1 =>
    match runLines start fuel tested s.lines sh with
    | (.done, sh') =>
      match s.error? with
      | none => (.done, sh')
      | some (e, line) => leaveShell (sh'.reportAt line e.message) 2
    | s => s

/-- runs lines one after another -/
def runLines (start : Starter) (fuel : Nat) (tested : Bool) (lines : List Command)
    (sh : State) : Step :=
  match fuel with
  | 0 => (.exhausted, sh)
  | fuel + 1 =>
    match lines with
    | [] => (.done, sh)
    | c :: cs =>
      match run start fuel tested c sh with
      | (.done, sh') => runLines start fuel tested cs sh'
      | s => s

/-- runs the rounds of a loop; `status` is that of the last round -/
def runLoop (start : Starter) (fuel : Nat) (tested while' : Bool) (condition body : Command)
    (status : Nat) (sh : State) : Step :=
  match fuel with
  | 0 => (.exhausted, sh)
  | fuel + 1 =>
    match run start fuel true condition sh with
    | (.done, sh') =>
      if (sh'.status = 0) = while' then
        match run start fuel tested body sh' with
        | (.done, sh'') => runLoop start fuel tested while' condition body sh''.status sh''
        | (.leave (n + 2), sh'') => (.leave (n + 1), sh'')
        | (.leave _, sh'') => (.done, sh'')
        | (.again (n + 2), sh'') => (.again (n + 1), sh'')
        | (.again _, sh'') => runLoop start fuel tested while' condition body sh''.status sh''
        | s => s
      else finish sh' status
    | (.leave (n + 2), sh') => (.leave (n + 1), sh')
    | (.leave _, sh') => (.done, sh')
    | (.again (n + 2), sh') => (.again (n + 1), sh')
    | (.again _, sh') => runLoop start fuel tested while' condition body sh'.status sh'
    | s => s

/-- runs the rounds of a loop over values -/
def runEach (start : Starter) (fuel : Nat) (tested : Bool) (name : Text) (values : List Text)
    (body : Command) (sh : State) : Step :=
  match fuel with
  | 0 => (.exhausted, sh)
  | fuel + 1 =>
    match values with
    | [] => (.done, sh)
    | v :: vs =>
      match sh.assign name v with
      | .error s => s
      | .ok sh =>
        match run start fuel tested body sh with
        | (.done, sh') => runEach start fuel tested name vs body sh'
        | (.leave (n + 2), sh') => (.leave (n + 1), sh')
        | (.leave _, sh') => (.done, sh')
        | (.again (n + 2), sh') => (.again (n + 1), sh')
        | (.again _, sh') => runEach start fuel tested name vs body sh'
        | s => s

/-- runs the body of the first arm that matches -/
def runArms (start : Starter) (fuel : Nat) (tested : Bool) (subject : Text)
    (arms : List (List Word × Command)) (sh : State) : Step :=
  match fuel with
  | 0 => (.exhausted, sh)
  | fuel + 1 =>
    match arms with
    | [] => finish sh 0
    | (patterns, body) :: rest =>
      match matchAny start fuel subject patterns sh with
      | .error s => s
      | .ok (true, sh') =>
        if body.isSkip then finish sh' 0 else run start fuel tested body sh'
      | .ok (false, sh') => runArms start fuel tested subject rest sh'

/-- whether a text fits one of some patterns, which are expanded up to the first that fits -/
def matchAny (start : Starter) (fuel : Nat) (subject : Text) (patterns : List Word)
    (sh : State) : Except Step (Bool × State) :=
  match fuel with
  | 0 => .error (.exhausted, sh)
  | fuel + 1 =>
    match patterns with
    | [] => .ok (false, sh)
    | w :: ws =>
      match expandPattern (capture start fuel) w sh with
      | .error s => .error s
      | .ok (p, sh') =>
        if p.fits subject then .ok (true, sh') else matchAny start fuel subject ws sh'

end

/-- how many steps a shell may take -/
def budget : Nat := 1000000

/-- runs a script from its beginning to its end -/
def runShell (start : Starter) (s : Script) (sh : State) : Step :=
  conclude start budget (runScript start budget false s sh)

end Workbench.Shell
