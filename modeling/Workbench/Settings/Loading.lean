import Workbench.Files
import Workbench.Settings.Reader

/-!
# Loading settings

Settings come from a text or from a file.  A text that cannot be read is reported with its place.
-/

namespace Workbench

open Json (Refusal)

inductive SettingsError where
  | file (path : Text) (e : FileError)
  /-- the refusal of a whole text -/
  | text (whole : Text) (r : Refusal)
  deriving DecidableEq, Repr

/-- what is wrong, and where: lines from 1, columns in bytes -/
def Json.Refusal.placedMessage (whole : Text) (r : Refusal) : String :=
  let (line, column) := r.place whole
  r.problem.message ++ " at line " ++ toString line ++ " column " ++ toString column

def SettingsError.message : SettingsError → String
  | .file path e => "cannot read '" ++ String.ofList path ++ "': " ++ e.message
  | .text whole r => "invalid configuration: " ++ r.placedMessage whole

namespace Settings

/-- the settings of a text -/
def parse (t : Text) : Except SettingsError Settings := (ofText t).mapError (.text t)

/-- the settings of a file -/
def load (fs : Files) (path : Text) : Except SettingsError Settings :=
  match fs.readText path with
  | .error e => .error (.file path e)
  | .ok t => parse t

/-- the settings of a file, or the defaults if there is none -/
def loadOrDefault (fs : Files) (path : Text) : Except SettingsError Settings :=
  if fs.isPresent path then load fs path else .ok {}

end Settings

end Workbench
