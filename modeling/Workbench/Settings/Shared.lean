import Workbench.Settings.Basic

/-!
# Shared settings

The settings that a whole program shares are given once, before anything asks for them.
-/

namespace Workbench

inductive SharedError where
  | alreadyInitialized
  deriving DecidableEq, Repr

namespace SharedError

def message : SharedError → String
  | .alreadyInitialized => "global configuration is already initialized"

/-- what was being done -/
def phase : SharedError → String
  | .alreadyInitialized => "config"

end SharedError

/-- the shared settings, if they were given -/
structure SharedSettings where
  settings? : Option Settings := none
  deriving DecidableEq, Repr

namespace SharedSettings

def isInitialized (s : SharedSettings) : Bool := s.settings?.isSome

/-- gives the settings -/
def give (s : SharedSettings) (settings : Settings) : Except SharedError SharedSettings :=
  if s.isInitialized then .error .alreadyInitialized else .ok ⟨some settings⟩

end SharedSettings

end Workbench
