import Workbench.Pattern.Parser
import Workbench.Pattern.Search
import Workbench.Scanner.Stack
import Workbench.Scanner.Token
import Workbench.Text.Quoted

/-!
# Rules and rule tables

A rule is a pattern, the kind of the tokens it makes and what it does to the stack.  A table has an
ordered list of rules for each state: the first rule of the list that matches wins.

A pattern is compiled between `^(?:` and `)`.  A rule can match the empty text; the last rule of
every list has to, so that there is always a rule for what the others leave.
-/

namespace Workbench.Scanner

open Pattern (Matcher PatternError Regex)

variable {S K : Type}

/-! ## rules -/

structure RuleSpec (S K : Type) where
  pattern : String
  kind : K
  action : Action S
  deriving DecidableEq, Repr

/-- the pattern held at the start of the text -/
def anchor (pattern : String) : Text := "^(?:".toList ++ pattern.toList ++ [')']

/-- a declared rule with the expression that its pattern denotes, made ready for searches -/
structure Rule (S K : Type) extends RuleSpec S K where
  regex : Regex
  parse_eq : Regex.parse (anchor pattern) = .ok regex
  matcher : Matcher
  matcher_eq : matcher = regex.matcher

def RuleSpec.compile (spec : RuleSpec S K) : Except PatternError (Rule S K) :=
  match h : Regex.parse (anchor spec.pattern) with
  | .ok regex => .ok ⟨spec, regex, h, regex.matcher, rfl⟩
  | .error e => .error e

namespace Rule

/-- how many characters of the text lie before the end of the match -/
def matchEnd? (r : Rule S K) (rest : Text) : Option Nat := r.matcher.matchEnd? rest

theorem matchEnd?_eq (r : Rule S K) (rest : Text) : r.matchEnd? rest = r.regex.matchEnd? rest := by
  rw [matchEnd?, r.matcher_eq, Regex.matchEnd?]

theorem matchEnd?_le (r : Rule S K) (rest : Text) : ∀ n ∈ r.matchEnd? rest, n ≤ rest.length := by
  rw [matchEnd?_eq]
  exact r.regex.matchEnd?_le rest

/-- the same in bytes -/
def matchLength? (r : Rule S K) (rest : Text) : Option Nat :=
  (r.matchEnd? rest).map fun n => Text.bytes (rest.take n)

/-- whether the rule matches the empty text -/
def isFallback (r : Rule S K) : Bool := (r.matchEnd? []).isSome

end Rule

/-! ## tables -/

/-- the rules of each state, at the index of the state -/
structure RuleTable (S K : Type) where
  lists : List (List (Rule S K))

namespace RuleTable

def empty : RuleTable S K := ⟨[]⟩

/-- the number of rules -/
def size (table : RuleTable S K) : Nat := table.lists.foldl (fun n rules => n + rules.length) 0

variable [ScannerState S]

/-- the rules of a state; a state without a place in the table has none -/
def rules (table : RuleTable S K) (s : S) : List (Rule S K) :=
  (table.lists[ScannerState.index s]?).getD []

end RuleTable

/-! ## building a table -/

inductive TableError (S : Type) where
  | invalidPattern (state : S) (pattern : String)
  | missingState (state : S)
  | duplicateState (state : S)
  | emptyState (state : S)
  | missingFallback (state : S)
  deriving DecidableEq, Repr

/-- the rules declared for each state, in the order of the declarations -/
abbrev Declarations (S K : Type) := List (S × List (RuleSpec S K))

section
variable [ScannerState S]

/-- the text of an error, without what the library of expressions says of a pattern -/
def TableError.message : TableError S → String
  | .invalidPattern s pattern =>
    "invalid pattern " ++ String.ofList (Text.quote pattern.toList) ++ " in state "
      ++ ScannerState.label s
  | .missingState s => "state " ++ ScannerState.label s ++ " has no rule list"
  | .duplicateState s => "state " ++ ScannerState.label s ++ " is declared twice"
  | .emptyState s => "state " ++ ScannerState.label s ++ " has an empty rule list"
  | .missingFallback s =>
    "last rule of state " ++ ScannerState.label s
      ++ " cannot match the empty string, scanning could stall"

/-- The whole text of an error.  Behind a pattern stands the report of the library of expressions on
the expression that it refused; `report` gives these reports. -/
def TableError.fullMessage (report : Text → String) (e : TableError S) : String :=
  match e with
  | .invalidPattern _ pattern => e.message ++ ": " ++ report (anchor pattern)
  | _ => e.message

def TableError.state : TableError S → S
  | .invalidPattern s _ | .missingState s | .duplicateState s | .emptyState s
  | .missingFallback s => s

/-- the text of an error names its state -/
theorem TableError.exists_fullMessage_eq (report : Text → String) (e : TableError S) :
    ∃ before behind, e.fullMessage report = before ++ ScannerState.label e.state ++ behind := by
  cases e with
  | invalidPattern s pattern =>
    refine ⟨"invalid pattern " ++ String.ofList (Text.quote pattern.toList) ++ " in state ",
      ": " ++ report (anchor pattern), ?_⟩
    rw [← String.append_assoc]
    rfl
  | missingState s => exact ⟨"state ", " has no rule list", rfl⟩
  | duplicateState s => exact ⟨"state ", " is declared twice", rfl⟩
  | emptyState s => exact ⟨"state ", " has an empty rule list", rfl⟩
  | missingFallback s =>
    exact ⟨"last rule of state ", " cannot match the empty string, scanning could stall", rfl⟩

/-- Compiles the rules of a state up to the first pattern that is refused.  The error holds the
pattern alone; why it is refused can be read off it again. -/
def compileAll (s : S) : List (RuleSpec S K) → Except (TableError S) (List (Rule S K))
  | [] => .ok []
  | spec :: specs =>
    match spec.compile with
    | .error _ => .error (.invalidPattern s spec.pattern)
    | .ok rule => (compileAll s specs).map (rule :: ·)

/-- the rules of a state, of which there is at least one and the last matches the empty text -/
def compileState (s : S) (specs : List (RuleSpec S K)) :
    Except (TableError S) (List (Rule S K)) :=
  match compileAll s specs with
  | .error e => .error e
  | .ok rules =>
    match rules.getLast? with
    | none => .error (.emptyState s)
    | some last => if last.isFallback then .ok rules else .error (.missingFallback s)

/-- takes up one declaration: its state needs a place, which must still be free -/
def declare (places : List (Option (List (Rule S K)))) (s : S) (specs : List (RuleSpec S K)) :
    Except (TableError S) (List (Option (List (Rule S K)))) :=
  match places[ScannerState.index s]? with
  | none => .error (.missingState s)
  | some (some _) => .error (.duplicateState s)
  | some none =>
    (compileState s specs).map fun rules => places.set (ScannerState.index s) (some rules)

def declareAll (places : List (Option (List (Rule S K)))) :
    Declarations S K → Except (TableError S) (List (Option (List (Rule S K))))
  | [] => .ok places
  | (s, specs) :: rest =>
    match declare places s specs with
    | .error e => .error e
    | .ok places' => declareAll places' rest

/-- the lists of all places, if each was declared -/
def collect : List S → List (Option (List (Rule S K))) →
    Except (TableError S) (List (List (Rule S K)))
  | s :: states, place :: places =>
    match place with
    | none => .error (.missingState s)
    | some rules => (collect states places).map (rules :: ·)
  | _, _ => .ok []

/-- The table of the declarations, or the first fault in their order. -/
def RuleTable.build (declarations : Declarations S K) : Except (TableError S) (RuleTable S K) :=
  match declareAll ((ScannerState.all (S := S)).map fun _ => none) declarations with
  | .error e => .error e
  | .ok places => (collect ScannerState.all places).map RuleTable.mk

end

end Workbench.Scanner
