import Workbench.CommandLine.LogLine
import Workbench.Log.Filter
import Workbench.Session
import Workbench.Settings.Loading
import Workbench.Shell.Launch

/-!
# The command line

What a command line does to a directory of files: it reads settings and a source, writes a token
dump or runs the source in the interpreter, and may add to a log file.  Everything it prints and
leaves behind is a value here (`Completed`).
-/

namespace Workbench.CommandLine

open Log (Event)

def programName : String := "riff-playground"
def programVersion : String := "0.1.0"

/-- what is left when a command line has run -/
structure Completed where
  code : Int
  out : Text := []
  /-- what the terminal shows besides the output -/
  err : Text := []
  files : Files

/-- why a command line failed -/
inductive Failure where
  | settings (e : SettingsError)
  | logLevel (name : Text)
  | logFile (e : FileError)
  | source (path : Text) (e : FileError)
  | highlight (e : HighlightError)
  /-- a token does not fit its source -/
  | misplaced
  deriving DecidableEq, Repr

def Failure.message : Failure → String
  | .settings e => e.message
  | .logLevel name => "Unknown log level '" ++ String.ofList name ++ "'"
  | .logFile e => "Cannot open log file: " ++ e.message
  | .source path e => "Cannot read source file '" ++ String.ofList path ++ "': " ++ e.message
  | .highlight e => e.message
  | .misplaced => "a token does not fit its source"

/-- how a command ended: its output and exit code or its failure, its events, and the files that it
left -/
structure Report where
  result : Except Failure (Text × Int)
  events : List Event
  files : Files

/-! ## commands -/

/-- the settings of the lexer, as a command changes them -/
def lexerSettings (s : Settings) (coalesce : Bool) (mode : Option Text) : LexerSettings :=
  ⟨(mode.map String.ofList).getD s.lexer.mode, coalesce || s.lexer.coalesce⟩

/-- looking up a mode for the first time registers those that are always there -/
def lookupEvents : List Event := [Registry.registerEvent .riff]

def dumpTokens (s : Settings) (dump : TokenDump.Options) (coalesce : Bool) (mode : Option Text)
    (fs : Files) (source : Text) : Report :=
  let lexer := lexerSettings s coalesce mode
  let result : Except Failure (Text × Int) :=
    match TokenDump.ofText dump lexer source with
    | .error e => .error (.highlight e)
    | .ok none => .error .misplaced
    | .ok (some t) => .ok (t, 0)
  ⟨result, lookupEvents ++ TokenDump.events dump lexer source, fs⟩

def runProgram (s : Settings) (disassemble : Bool) (fs : Files) (source : Text) : Report :=
  let mode : ExecutionMode := if disassemble then .disassemble else .execute
  let i := Interpreter.external s.interpreter Shell.launch
  let session := Session.start i fs
  let (report, session') := session.run mode source
  let started : Event :=
    ⟨.info, .commandLine, "Starting run",
      [("program", String.ofList (Text.quote s.interpreter.program.toList)), ("mode", mode.label)]⟩
  { result := .ok
      (report.output ++ report.metrics session'.version ++ ['\n'], report.exitCode.getD 1),
    events := started :: Session.startEvents i fs ++ session.runEvents mode source,
    files := session'.memory }

/-- runs a command with its source -/
def perform (fs : Files) (s : Settings) (c : Command) : Report :=
  let withSource (path : Text) (k : Files → Text → Report) : Report :=
    match fs.readText path with
    | .error e => ⟨.error (.source path e), [], fs⟩
    | .ok source => k fs source
  match c with
  | .tokens file dump coalesce mode => withSource file (dumpTokens s dump coalesce mode)
  | .run file disassemble => withSource file (runProgram s disassemble)

/-! ## command lines -/

/-- the settings with the level that the options give -/
def settleLevel (o : Options) (s : Settings) : Except Failure Settings :=
  match o.logLevel with
  | none => .ok s
  | some name =>
    match Level.parse? (String.ofList name) with
    | none => .error (.logLevel name)
    | some level => .ok { s with log.level := level }

/-- opens the log file, if there is one, so that it is there even if it stays empty -/
def openLog (o : Options) (fs : Files) : Except Failure Files :=
  match o.logFile with
  | none => .ok fs
  | some path => (fs.append path []).mapError .logFile

/-- the path of the settings -/
def configPath (o : Options) : Text := o.config.getD "riff.json".toList

/-- all that comes before the command: the settings, and the files with the log file among them -/
def prepare (fs : Files) (o : Options) : Except Failure (Settings × Files) :=
  match Settings.loadOrDefault fs (configPath o) with
  | .error e => .error (.settings e)
  | .ok s =>
    match settleLevel o s with
    | .error e => .error e
    | .ok s' => (openLog o fs).map fun fs' => (s', fs')

/-- lines, each with the newline that ends it -/
def textOfLines (lines : List String) : Text := lines.flatMap fun l => l.toList ++ ['\n']

/-- what the terminal shows of a failure -/
def errorLine (f : Failure) : String := "Error: " ++ f.message

/-- writes events to the log file, if there is one -/
def writeLog (o : Options) (events : List Event) (fs : Files) : Files :=
  match o.logFile with
  | none => fs
  | some path =>
    (fs.append path (Text.encode (textOfLines (events.map fullLine)))).toOption.getD fs

/-- runs a command under some options -/
def runCommand (fs : Files) (o : Options) (c : Command) : Completed :=
  match prepare fs o with
  | .error e => { code := 1, err := textOfLines [errorLine e], files := fs }
  | .ok (s, fs') =>
    let loaded : Event :=
      ⟨.debug, .commandLine, "Configuration loaded", [("config", String.ofList (configPath o))]⟩
    let report := perform fs' s c
    let shown := (Log.Filter.ofSettings s.log).apply (loaded :: report.events)
    let lines := shown.map (logLine (o.logFormat.getD .compact))
    let files := writeLog o shown report.files
    match report.result with
    | .error e => { code := 1, err := textOfLines (lines ++ [errorLine e]), files }
    | .ok (out, code) => { code, out, err := textOfLines lines, files }

/-- how the program is called -/
def usage : List String :=
  ["Usage: " ++ programName ++ " [OPTIONS] <COMMAND>",
    "",
    "Commands:",
    "  tokens <FILE> [--json] [--lines] [--coalesce] [--mode <MODE>]",
    "  run <FILE> [--disassemble]",
    "",
    "Options:",
    "  --config <CONFIG>      settings, by default riff.json if it is there",
    "  --log-format <FORMAT>  pretty, compact or json",
    "  --log-file <PATH>      also adds the log to this file",
    "  --log-level <LEVEL>    silent, error, warn, info, debug or trace",
    "  -h, --help",
    "  -V, --version"]

/-- runs a command line in a directory -/
def run (fs : Files) (args : List Text) : Completed :=
  match read args with
  | .error e =>
    { code := 2, err := textOfLines (("error: " ++ e.message) :: "" :: usage), files := fs }
  | .ok .help => { code := 0, out := textOfLines usage, files := fs }
  | .ok .version =>
    { code := 0, out := textOfLines [programName ++ " " ++ programVersion], files := fs }
  | .ok (.command o c) => runCommand fs o c

end Workbench.CommandLine
