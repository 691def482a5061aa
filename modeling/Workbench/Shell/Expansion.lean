import Workbench.Shell.State
import Workbench.Shell.Wildcard

/-!
# Expansion of words

Before a command runs, its words become fields.  Parameters, expressions and outputs are replaced by
their values; values that are not quoted are taken apart at the separators; fields with wildcards
become the paths that they match.  How a script is run for its output is left open here.
-/

namespace Workbench.Shell

/-- something that is made of words; it may change the shell or end it -/
abbrev Expanding (α : Type) := StateT State (Except Step) α

/-- how a script, which begins on a line, is run for its output -/
abbrev Capture := (script : Text) → (line : Nat) → Expanding Text

/-- ends the shell with a message -/
def refuseExpansion {α : Type} (message : Text) : Expanding α := do
  throw (leaveShell ((← get).report message) 2)

/-! ## fields -/

/-- the fields of a word so far: those that are complete, newest first, and the one in the making,
whose last glyph comes first -/
structure Fields where
  done : List Wildcard := []
  current : Option Wildcard := none
  /-- whether a blank ended the last field, so that a separator behind it ends no other -/
  afterBlank : Bool := false

namespace Fields

def add (f : Fields) (w : Wildcard) : Fields :=
  { f with current := some (w.reverse ++ f.current.getD []), afterBlank := false }

/-- completes the field in the making -/
def cut (f : Fields) : Fields :=
  match f.current with
  | some w => { f with done := w.reverse :: f.done, current := none }
  | none => f

/-- what a separator does -/
def separate (f : Fields) (c : Char) : Fields :=
  let isBlank := c = ' ' ∨ c = '\t' ∨ c = '\n'
  match f.current with
  | some _ => { f.cut with afterBlank := isBlank }
  | none =>
    if isBlank then f
    else if f.afterBlank then { f with afterBlank := false }
    else { f with done := [] :: f.done }

/-- adds a value that is taken apart at separators -/
def addSplit (f : Fields) (separators t : Text) : Fields :=
  t.foldl (fun f c => if separators.contains c then f.separate c else f.add [(c, false)]) f

def toList (f : Fields) : List Wildcard := f.cut.done.reverse

end Fields

/-- how the values of a word are added to its fields -/
structure Manner where
  /-- values that are not quoted are taken apart -/
  splits : Bool
  /-- so are literals, since the word itself stands in for a value -/
  standsIn : Bool := false

/-- adds a value -/
def addValue (m : Manner) (quoted : Bool) (t : Text) (f : Fields) : Expanding Fields := do
  if quoted ∨ ¬ m.splits then return f.add (t.map (·, quoted))
  else return f.addSplit (← get).separators t

/-- adds the arguments of the shell, each in fields of its own -/
def addArguments (quoted : Bool) (f : Fields) : Expanding Fields := do
  let sh ← get
  let add (f : Fields) (t : Text) : Fields :=
    if quoted then f.add (t.map (·, true)) else f.addSplit sh.separators t
  match sh.arguments with
  | [] =>
    -- the quotes around nothing leave no field
    return if quoted ∧ f.current.any List.isEmpty then { f with current := none } else f
  | a :: as => return as.foldl (fun f t => add f.cut t) (add f a)

/-- the value of a parameter; to have none can be an error -/
def demandedValue (name : Text) : Expanding (Option Text) := do
  let sh ← get
  match sh.value? name with
  | some t => return some t
  | none =>
    if sh.demandsValues ∧ name ≠ ['@'] ∧ name ≠ ['*'] then
      refuseExpansion (name ++ ": parameter not set".toList)
    else return none

/-- adds the value of a parameter, if it has one -/
def addParameter (m : Manner) (name : Text) (quoted : Bool) (f : Fields) : Expanding Fields := do
  if m.splits ∧ (name = ['@'] ∨ (name = ['*'] ∧ ¬ quoted)) then addArguments quoted f
  else
    match ← demandedValue name with
    | some t => addValue m quoted t f
    | none => return f

/-- gives a value to a parameter that can have one -/
def giveValue (name t : Text) : Expanding Unit := do
  if ¬ isName name then refuseExpansion (name ++ ": bad variable name".toList)
  else
    match (← get).assign name t with
    | .ok sh => set sh
    | .error e => throw e

/-- the value of an expression -/
def evaluateExpression (source : Text) : Expanding Text := do
  let sh ← get
  match evaluateText source sh.bindings with
  | .error e => refuseExpansion (e.message source)
  | .ok (n, bindings) =>
    set { sh with bindings }
    return (toString n).toList

mutual

/-- adds the parts of a word to fields -/
def addParts (capture : Capture) (m : Manner) :
    List Part → Fields → Expanding Fields
  | [], f => pure f
  | p :: ps, f => do addParts capture m ps (← addPart capture m p f)

/-- adds a part of a word to fields -/
def addPart (capture : Capture) (m : Manner) : Part → Fields → Expanding Fields
  | .literal t quoted, f =>
    if m.standsIn ∧ ¬ quoted then addValue m false t f else pure (f.add (t.map (·, quoted)))
  | .arithmetic e quoted, f => do
    let source ← addParts capture ⟨false, false⟩ e {}
    addValue m quoted (← evaluateExpression (source.toList.flatten.map (·.1))) f
  | .output _ script line quoted, f => do addValue m quoted (← capture script line) f
  | .parameter name use quoted, f => addUse capture m name quoted use f

/-- adds what is made of a parameter to fields -/
def addUse (capture : Capture) (m : Manner) (name : Text) (quoted : Bool) :
    Use → Fields → Expanding Fields
  | .value, f => addParameter m name quoted f
  | .length, f => do
    let t := (← demandedValue name).getD []
    addValue m quoted (toString t.length).toList f
  | .orElse emptyToo w, f => do
    if has emptyToo ((← get).value? name) then addParameter m name quoted f
    else addParts capture { m with standsIn := true } w f
  | .orAssign emptyToo w, f => do
    if has emptyToo ((← get).value? name) then addParameter m name quoted f
    else
      let value ← addParts capture ⟨false, false⟩ w {}
      let t := value.toList.flatten.map (·.1)
      giveValue name t
      addValue m quoted t f
  | .orFail emptyToo w, f => do
    if has emptyToo ((← get).value? name) then addParameter m name quoted f
    else
      let message ← addParts capture ⟨false, false⟩ w {}
      let t := message.toList.flatten.map (·.1)
      let t :=
        if t ≠ [] then t
        else if emptyToo then "parameter not set or null".toList
        else "parameter not set".toList
      refuseExpansion (name ++ ": ".toList ++ t)
  | .andThen emptyToo w, f => do
    if has emptyToo ((← get).value? name) then addParts capture { m with standsIn := true } w f
    else return f
  | .without atEnd longest w, f => do
    let pattern ← addParts capture ⟨false, false⟩ w {}
    let pattern := pattern.toList.flatten
    let t := (← demandedValue name).getD []
    let t := if atEnd then Wildcard.dropEnd pattern longest t
      else Wildcard.dropStart pattern longest t
    addValue m quoted t f
  | .bad, _ => refuseExpansion "Bad substitution".toList
where
  /-- whether there is a value that no word has to stand in for -/
  has (emptyToo : Bool) : Option Text → Bool
    | some t => !(emptyToo && t.isEmpty)
    | none => false

end

/-! ## paths -/

/-- the paths that patterns match, one pattern for each step from a place -/
def matchPaths (fs : Files) : List Wildcard → (place : List Text) → (path : Text) → List Text
  | [], _, path => [path]
  | w :: ws, place, path =>
    let isShown (name : Text) : Bool := name.head? ≠ some '.' || w.head?.any (·.1 = '.')
    let names :=
      if w.isOpen then
        (((fs.namesIn place).map Octets.ofText).filter fun n => isShown n && w.fits n).mergeSort
          fun a b => String.ofList a ≤ String.ofList b
      else [w.map (·.1)]
    names.flatMap fun n =>
      let place' := Files.resolve place (Files.names (Octets.toText n))
      if (fs.entry? place').isNone then []
      else matchPaths fs ws place' (if ws.isEmpty then path ++ n else path ++ n ++ ['/'])

/-- the paths that a field matches, or the field itself -/
def pathsOf (sh : State) (w : Wildcard) : List Text :=
  let text := w.map (·.1)
  if sh.keepsWildcards ∨ ¬ w.isOpen then [text]
  else
    let start := if text.head? = some '/' then [] else sh.files.here
    match matchPaths sh.files (w.splitOnP (·.1 = '/')) start [] with
    | [] => [text]
    | paths => paths

/-! ## words -/

/-- the fields of words -/
def expandAll (capture : Capture) : List Word → Expanding (List Text)
  | [] => pure []
  | w :: ws => do
    let f ← addParts capture ⟨true, false⟩ w {}
    let sh ← get
    return f.toList.flatMap (pathsOf sh) ++ (← expandAll capture ws)

/-- a word that is not taken apart, as a pattern -/
def expandPattern (capture : Capture) (w : Word) : Expanding Wildcard := do
  return (← addParts capture ⟨false, false⟩ w {}).toList.flatten

/-- the text of a word that is not taken apart -/
def expandWhole (capture : Capture) (w : Word) : Expanding Text := do
  return (← expandPattern capture w).map (·.1)

end Workbench.Shell
