import Workbench.Scanner.Stack

/-!
# States and kinds of Riff

A slash in Riff is a division behind a value and opens a regular expression elsewhere.  The scanner
keeps the two apart by its state: `start` expects an operand, `afterValue` an operator.  The other
states are the insides of comments, which nest, and of literals.
-/

namespace Workbench.Riff

open Scanner (ScannerState ScannerKind)

/-! ## states -/

inductive State where
  | start
  | afterValue
  | comment
  | string
  | char
  | regex
  deriving DecidableEq, Repr

namespace State

def all : List State := [.start, .afterValue, .comment, .string, .char, .regex]

def index : State → Nat
  | .start => 0
  | .afterValue => 1
  | .comment => 2
  | .string => 3
  | .char => 4
  | .regex => 5

/-- the name under which a state is saved -/
def name : State → String
  | .start => "start"
  | .afterValue => "infix"
  | .comment => "comment"
  | .string => "string"
  | .char => "char"
  | .regex => "regex_literal"

def label : State → String
  | .start => "Start"
  | .afterValue => "Infix"
  | .comment => "Comment"
  | .string => "String"
  | .char => "Char"
  | .regex => "RegexLiteral"

/-- comments nest, so a comment goes back to where it began, which must be on the stack -/
def pushOnly (s : State) : Bool := s == .comment

def ofName? (name : String) : Option State := all.find? (·.name == name)

@[simp] theorem all_index (s : State) : all[s.index]? = some s := by cases s <;> rfl

@[simp] theorem ofName?_name (s : State) : ofName? s.name = some s := by cases s <;> decide

instance : ScannerState State := ⟨all, index, .start, pushOnly, label⟩

end State

/-! ## kinds of tokens -/

inductive Kind where
  | comment
  | string
  | char
  | regex
  | number
  | operator
  | builtin
  | atom
  | keyword
  | identifier
  /-- an escape or a format specifier inside a literal -/
  | attribute
  | plain
  deriving DecidableEq, Repr

namespace Kind

def all : List Kind :=
  [.comment, .string, .char, .regex, .number, .operator, .builtin, .atom, .keyword, .identifier,
    .attribute, .plain]

def name : Kind → String
  | .comment => "comment"
  | .string => "string"
  | .char => "char"
  | .regex => "regex_literal"
  | .number => "number"
  | .operator => "operator"
  | .builtin => "builtin"
  | .atom => "atom"
  | .keyword => "keyword"
  | .identifier => "identifier"
  | .attribute => "attribute"
  | .plain => "plain_text"

def label : Kind → String
  | .comment => "Comment"
  | .string => "String"
  | .char => "Char"
  | .regex => "RegexLiteral"
  | .number => "Number"
  | .operator => "Operator"
  | .builtin => "Builtin"
  | .atom => "Atom"
  | .keyword => "Keyword"
  | .identifier => "Identifier"
  | .attribute => "Attribute"
  | .plain => "PlainText"

def ofName? (name : String) : Option Kind := all.find? (·.name == name)

@[simp] theorem ofName?_name (k : Kind) : ofName? k.name = some k := by cases k <;> decide

instance : ScannerKind Kind := ⟨.plain, label⟩

end Kind

end Workbench.Riff
