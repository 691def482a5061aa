import Workbench.Log.Event
import Workbench.Riff.Rules
import Workbench.Text.Quoted

/-!
# Modes and their registry

A mode is a rule table under a name and a MIME type.  A registry keeps every registration, newest
first, so a look-up finds the last one.  A MIME type is bound to the name of a mode, not to the
mode: what it finds is the mode registered last under that name.
-/

namespace Workbench

open Log (Event)

/-! ## modes -/

structure Mode where
  name : String
  mime : String
  table : Scanner.RuleTable Riff.State Riff.Kind

inductive ModeError where
  | unknown (key : String)
  deriving DecidableEq, Repr

def ModeError.message : ModeError → String
  | .unknown key => "unknown mode or MIME type '" ++ key ++ "'"

namespace Mode

/-- the mode of Riff -/
def riff : Mode := ⟨"riff", "text/x-riff", Riff.table⟩

def scan (m : Mode) (t : Text) (initial : Option Riff.Stack) : Scanner.Scan Riff.State Riff.Kind :=
  m.table.scan (initial.getD .fresh) t

def scanLines (m : Mode) (t : Text) (initial : Option Riff.Stack) :
    List (Scanner.LineScan Riff.State Riff.Kind) :=
  m.table.scanLines (initial.getD .fresh) t

end Mode

/-! ## registries -/

structure Registry where
  /-- the registered modes, newest first -/
  modes : List Mode
  /-- MIME types and the names they are bound to, newest first -/
  mimes : List (String × String)

namespace Registry

def empty : Registry := ⟨[], []⟩

/-- registers a mode and binds its MIME type to its name -/
def register (r : Registry) (m : Mode) : Registry := ⟨m :: r.modes, (m.mime, m.name) :: r.mimes⟩

/-- binds one more MIME type to a name -/
def defineMime (r : Registry) (mime name : String) : Registry :=
  { r with mimes := (mime, name) :: r.mimes }

/-- the mode registered last under a name -/
def named? (r : Registry) (name : String) : Option Mode := r.modes.find? (·.name == name)

/-- the mode of a name, or else of the name that a MIME type is bound to -/
def find (r : Registry) (key : String) : Except ModeError Mode :=
  match r.named? key with
  | some m => .ok m
  | none =>
    match (r.mimes.lookup key).bind r.named? with
    | some m => .ok m
    | none => .error (.unknown key)

/-- puts a name into a sorted list that lacks it -/
def insertName (name : String) : List String → List String
  | [] => [name]
  | n :: ns =>
    if name < n then name :: n :: ns
    else if name = n then n :: ns
    else n :: insertName name ns

/-- the names ever registered, each once, in increasing order -/
def names (r : Registry) : List String := r.modes.foldr (fun m ns => insertName m.name ns) []

/-- the event of a registration -/
def registerEvent (m : Mode) : Event :=
  ⟨.debug, .registry, "Registering mode",
    [("name", String.ofList (Text.quote m.name.toList)),
      ("mime", String.ofList (Text.quote m.mime.toList))]⟩

/-- the registry of the modes that are always there -/
def standard : Registry := empty.register .riff

end Registry

end Workbench
