import Workbench.CommandLine.Arguments
import Workbench.Log.Event

/-!
# Log lines

An event is one line of a log, whatever its form: compact on the terminal, with its target in a
file.  There is no clock here, so no line has a time.
-/

namespace Workbench.CommandLine

open Log (Event)

/-- the fields of an event, each behind a blank -/
def fieldsText (e : Event) : String :=
  String.join (e.fields.map fun f => " " ++ f.1 ++ "=" ++ f.2)

/-- the name of a level, with blanks in front up to the longest -/
def levelText (l : Level) : String :=
  String.ofList (List.replicate (5 - l.upperName.length) ' ') ++ l.upperName

def compactLine (e : Event) : String := levelText e.level ++ " " ++ e.message ++ fieldsText e

def fullLine (e : Event) : String :=
  levelText e.level ++ " " ++ e.target.name ++ ": " ++ e.message ++ fieldsText e

/-- an event as an object on one line -/
def jsonLine (e : Event) : String :=
  let member (name value : String) : Text :=
    Json.quote name.toList ++ ':' :: Json.quote value.toList
  let members (ms : List (String × String)) : Text :=
    [','].intercalate (ms.map fun m => member m.1 m.2)
  String.ofList ("\x7b\"level\":".toList ++ Json.quote e.level.upperName.toList
    ++ ",\"fields\":\x7b".toList ++ members (("message", e.message) :: e.fields)
    ++ "\x7d,\"target\":".toList ++ Json.quote e.target.name.toList ++ ['\x7d'])

def logLine : LogFormat → Event → String
  | .compact => compactLine
  | .pretty => fullLine
  | .json => jsonLine

end Workbench.CommandLine
