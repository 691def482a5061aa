import Workbench.Text.Bytes
import Workbench.TokenDump

/-!
# Arguments of the command line

A command line has options that hold for every command, the name of a command, and what belongs to
that command.  The general options may stand before or behind the name; those behind it win.  An
option that takes a value takes it behind an equals sign or as the next argument.  Arguments are
read from the left, and the first that is wrong decides.
-/

namespace Workbench.CommandLine

/-- how log events are written -/
inductive LogFormat where
  | pretty
  | compact
  | json
  deriving DecidableEq, Repr

def LogFormat.ofName? (name : Text) : Option LogFormat :=
  if name = "pretty".toList then some .pretty
  else if name = "compact".toList then some .compact
  else if name = "json".toList then some .json
  else none

/-- the general options -/
structure Options where
  config : Option Text := none
  logFormat : Option LogFormat := none
  logFile : Option Text := none
  logLevel : Option Text := none
  deriving DecidableEq, Repr

/-- options where they were given, and else those of another place -/
def Options.orElse (o p : Options) : Options :=
  ⟨o.config <|> p.config, o.logFormat <|> p.logFormat, o.logFile <|> p.logFile,
    o.logLevel <|> p.logLevel⟩

inductive Command where
  | tokens (file : Text) (dump : TokenDump.Options) (coalesce : Bool) (mode : Option Text)
  | run (file : Text) (disassemble : Bool)
  deriving DecidableEq, Repr

/-- what a command line asks for -/
inductive Request where
  | help
  | version
  | command (o : Options) (c : Command)
  deriving DecidableEq, Repr

inductive UsageError where
  | unexpected (argument : Text)
  | missingValue (option : Text)
  | invalidValue (option value : Text)
  | repeated (option : Text)
  | missingCommand
  | unknownCommand (name : Text)
  | missingFile
  deriving DecidableEq, Repr

def UsageError.message : UsageError → String
  | .unexpected a => "unexpected argument '" ++ String.ofList a ++ "' found"
  | .missingValue o => "a value is required for '" ++ String.ofList o ++ "' but none was supplied"
  | .invalidValue o v =>
    "invalid value '" ++ String.ofList v ++ "' for '" ++ String.ofList o ++ "'"
  | .repeated o => "the argument '" ++ String.ofList o ++ "' cannot be used multiple times"
  | .missingCommand => "a command is required"
  | .unknownCommand n => "unrecognized subcommand '" ++ String.ofList n ++ "'"
  | .missingFile => "the file is missing"

/-! ## single arguments -/

/-- whether an argument is an option and not a value -/
def isFlag (a : Text) : Bool := a.head? = some '-' ∧ a ≠ ['-']

/-- whether an argument asks for help; letters behind a short option are not looked at any more -/
def isHelp (a : Text) : Bool := a = "--help".toList ∨ ['-', 'h'].isPrefixOf a

/-- whether an argument asks for the version -/
def isVersion (a : Text) : Bool := a = "--version".toList ∨ ['-', 'V'].isPrefixOf a

/-- the name of an option, and the value behind its equals sign -/
def splitFlag (a : Text) : Text × Option Text :=
  match a.dropWhile (· ≠ '=') with
  | _ :: v => (a.takeWhile (· ≠ '='), some v)
  | [] => (a, none)

/-- the value of an option and the arguments behind it -/
def takeValue (option : Text) (inline? : Option Text) (rest : List Text) :
    Except UsageError (Text × List Text) :=
  match inline?, rest with
  | some v, _ => .ok (v, rest)
  | none, v :: rest' => if isFlag v then .error (.missingValue option) else .ok (v, rest')
  | none, [] => .error (.missingValue option)

/-- the value of an option that may be given once -/
def giveOnce {α : Type} (option : Text) (old : Option α) (new : α) : Except UsageError (Option α) :=
  match old with
  | some _ => .error (.repeated option)
  | none => .ok (some new)

/-- turns on a flag that takes no value and may be given once -/
def turnOn (option : Text) (old : Bool) (inline? : Option Text) : Except UsageError Bool :=
  match old, inline? with
  | _, some _ => .error (.unexpected option)
  | true, none => .error (.repeated option)
  | false, none => .ok true

/-- a path, which is not empty -/
def path (option value : Text) : Except UsageError Text :=
  if value = [] then .error (.missingValue option) else .ok value

/-- reads a general option and its value, if the argument is one -/
def readOption (o : Options) (a : Text) (rest : List Text) :
    Except UsageError (Option (Options × List Text)) := do
  let (name, inline?) := splitFlag a
  match String.ofList name with
  | "--config" =>
    let (v, rest') ← takeValue name inline? rest
    let config ← giveOnce name o.config (← path name v)
    return some ({ o with config }, rest')
  | "--log-file" =>
    let (v, rest') ← takeValue name inline? rest
    let logFile ← giveOnce name o.logFile (← path name v)
    return some ({ o with logFile }, rest')
  | "--log-level" =>
    let (v, rest') ← takeValue name inline? rest
    let logLevel ← giveOnce name o.logLevel v
    return some ({ o with logLevel }, rest')
  | "--log-format" =>
    let (v, rest') ← takeValue name inline? rest
    match LogFormat.ofName? v with
    | none => throw (.invalidValue name v)
    | some f =>
      let logFormat ← giveOnce name o.logFormat f
      return some ({ o with logFormat }, rest')
  | _ => return none

/-! ## commands -/

/-- what has been read of a command -/
structure Draft where
  options : Options := {}
  file : Option Text := none
  dump : TokenDump.Options := {}
  coalesce : Bool := false
  mode : Option Text := none
  disassemble : Bool := false

/-- reads a flag of the `tokens` command and its value, if the argument is one -/
def readTokensFlag (d : Draft) (a : Text) (rest : List Text) :
    Except UsageError (Draft × List Text) := do
  let (name, inline?) := splitFlag a
  match String.ofList name with
  | "--json" => return ({ d with dump.json := ← turnOn name d.dump.json inline? }, rest)
  | "--lines" => return ({ d with dump.byLine := ← turnOn name d.dump.byLine inline? }, rest)
  | "--coalesce" => return ({ d with coalesce := ← turnOn name d.coalesce inline? }, rest)
  | "--mode" =>
    let (v, rest') ← takeValue name inline? rest
    return ({ d with mode := ← giveOnce name d.mode v }, rest')
  | _ => throw (.unexpected a)

/-- reads a flag of the `run` command, if the argument is one -/
def readRunFlag (d : Draft) (a : Text) (rest : List Text) :
    Except UsageError (Draft × List Text) := do
  let (name, inline?) := splitFlag a
  match String.ofList name with
  | "--disassemble" => return ({ d with disassemble := ← turnOn name d.disassemble inline? }, rest)
  | _ => throw (.unexpected a)

/-- takes an argument as the file of a command -/
def giveFile (d : Draft) (a : Text) : Except UsageError Draft :=
  match d.file with
  | some _ => .error (.unexpected a)
  | none => (path a a).map fun f => { d with file := some f }

/-- reads the arguments of a command; there is no draft if they ask for help -/
def readDraft (readFlag : Draft → Text → List Text → Except UsageError (Draft × List Text)) :
    (fuel : Nat) → Draft → List Text → Except UsageError (Option Draft)
  | 0, d, _ => .ok (some d)
  | _ + 1, d, [] => .ok (some d)
  | fuel + 1, d, a :: rest =>
    if a = ['-', '-'] then (rest.foldlM giveFile d).map some
    else if isHelp a then .ok none
    else if isFlag a then
      match readOption d.options a rest with
      | .error e => .error e
      | .ok (some (options, rest')) => readDraft readFlag fuel { d with options } rest'
      | .ok none =>
        match readFlag d a rest with
        | .error e => .error e
        | .ok (d', rest') => readDraft readFlag fuel d' rest'
    else
      match giveFile d a with
      | .error e => .error e
      | .ok d' => readDraft readFlag fuel d' rest

/-- reads a command behind its name -/
def readCommand (o : Options)
    (readFlag : Draft → Text → List Text → Except UsageError (Draft × List Text))
    (make : Draft → Text → Command) (rest : List Text) : Except UsageError Request :=
  match readDraft readFlag (rest.length + 1) {} rest with
  | .error e => .error e
  | .ok none => .ok .help
  | .ok (some d) =>
    match d.file with
    | none => .error .missingFile
    | some f => .ok (.command (d.options.orElse o) (make d f))

/-! ## command lines -/

/-- whether a name is that of a command -/
def isCommandName (a : Text) : Bool :=
  a = "help".toList ∨ a = "tokens".toList ∨ a = "run".toList

/-- reads what help is asked for: all of it, or that for one command -/
def readHelp : List Text → Except UsageError Request
  | [] => .ok .help
  | a :: rest =>
    if ¬ isCommandName a then .error (.unknownCommand a)
    else match rest with
      | [] => .ok .help
      | b :: _ => .error (.unknownCommand b)

/-- reads arguments up to the name of a command, and those of the command -/
def readFrom : (fuel : Nat) → Options → List Text → Except UsageError Request
  | 0, _, _ => .error .missingCommand
  | _ + 1, _, [] => .error .missingCommand
  | fuel + 1, o, a :: rest =>
    if isVersion a then .ok .version
    else if isHelp a then .ok .help
    else
      match String.ofList a with
      | "help" => readHelp rest
      | "tokens" =>
        readCommand o readTokensFlag (fun d f => .tokens f d.dump d.coalesce d.mode) rest
      | "run" => readCommand o readRunFlag (fun d f => .run f d.disassemble) rest
      | _ =>
        if isFlag a then
          match readOption o a rest with
          | .error e => .error e
          | .ok (some (o', rest')) => readFrom fuel o' rest'
          | .ok none => .error (.unexpected a)
        else .error (.unknownCommand a)

/-- what the arguments ask for -/
def read (args : List Text) : Except UsageError Request := readFrom (args.length + 1) {} args

end Workbench.CommandLine
