import Workbench.Riff.Patterns
import Workbench.Riff.Vocabulary
import Workbench.Scanner.Scan

/-!
# The rules of Riff

In `start` a value is expected.  A number or a name leads to `afterValue`; operators, keywords and
plain text stay, for what follows them is a value.  In `afterValue` all of these lead back to
`start`.  A slash leads back as well, since it divides there; in `start` it begins a regular
expression, which leads to `afterValue` if it closes on its line, and to `regex` if not.

The rest is the same in both.  Blanks and comments on a line change nothing, and the opener of a
comment puts `comment` on the stack.  A closing bracket ends a value and leads to `afterValue`.  A
quote leads to `string` or `char`.  Literals lead to `afterValue` where they close.
-/

namespace Workbench.Riff

open Scanner (Action RuleSpec RuleTable Declarations StateStack Scan LineScan)

abbrev Spec := RuleSpec State Kind
abbrev Stack := StateStack State

/-! ## the rules of each state -/

/-- blanks, newlines and comments, which do not change what is expected -/
def trivia : List Spec :=
  [⟨Pattern.blanks, .plain, .stay⟩,
    ⟨Pattern.newline, .plain, .stay⟩,
    ⟨Pattern.lineComment, .comment, .stay⟩,
    ⟨Pattern.commentOpen, .comment, .push .comment⟩]

/-- the rules that both positions share: `value` follows a value and `other` everything else -/
def operandRules (value other : Action State) : List Spec :=
  [⟨"\"", .string, .goto .string⟩,
    ⟨"'", .char, .goto .char⟩]
  ++ Pattern.numbers.map (fun p => ⟨p, .number, value⟩)
  ++ [⟨Pattern.range, .operator, other⟩,
    ⟨Pattern.builtins, .builtin, value⟩,
    ⟨Pattern.nullWord, .atom, value⟩,
    ⟨Pattern.keywords, .keyword, other⟩,
    ⟨Pattern.identifier, .identifier, value⟩,
    ⟨Pattern.closer, .operator, .goto .afterValue⟩,
    ⟨Pattern.operators, .operator, other⟩,
    ⟨Pattern.anything, .plain, other⟩]

def startRules : List Spec :=
  trivia
  ++ [⟨Pattern.regexWhole, .regex, .goto .afterValue⟩,
    ⟨Pattern.regexOpen, .regex, .goto .regex⟩]
  ++ operandRules (.goto .afterValue) .stay

def afterValueRules : List Spec :=
  trivia
  ++ [⟨"/=", .operator, .goto .start⟩,
    ⟨"/", .operator, .goto .start⟩]
  ++ operandRules (.goto .start) (.goto .start)

/-- comments nest -/
def commentRules : List Spec :=
  [⟨Pattern.commentOpen, .comment, .push .comment⟩,
    ⟨Pattern.commentClose, .comment, .pop⟩,
    ⟨"[^/*\\n]+", .comment, .stay⟩,
    ⟨Pattern.anything, .comment, .stay⟩]

def stringRules : List Spec :=
  [⟨Pattern.formatSpec, .attribute, .stay⟩,
    ⟨Pattern.escape, .attribute, .stay⟩,
    ⟨Pattern.unicodeEscape, .attribute, .stay⟩,
    ⟨"\"", .string, .goto .afterValue⟩,
    ⟨"[^\"\\\\%\\n]+", .string, .stay⟩,
    ⟨Pattern.anything, .string, .stay⟩]

def charRules : List Spec :=
  [⟨Pattern.escape, .attribute, .stay⟩,
    ⟨Pattern.unicodeEscape, .attribute, .stay⟩,
    ⟨"'", .char, .goto .afterValue⟩,
    ⟨"[^'\\\\\\n]+", .char, .stay⟩,
    ⟨Pattern.anything, .char, .stay⟩]

/-- a regular expression goes on over newlines up to a slash that no backslash precedes -/
def regexRules : List Spec :=
  [⟨Pattern.regexEnd, .regex, .goto .afterValue⟩,
    ⟨Pattern.regexInside, .regex, .stay⟩,
    ⟨Pattern.newline, .regex, .stay⟩,
    ⟨Pattern.anything, .regex, .stay⟩]

/-! ## the table -/

def rulesOf : State → List Spec
  | .start => startRules
  | .afterValue => afterValueRules
  | .comment => commentRules
  | .string => stringRules
  | .char => charRules
  | .regex => regexRules

def declarations : Declarations State Kind := State.all.map fun s => (s, rulesOf s)

/-- the rule table; the declarations are complete, so it is never the empty one -/
def table : RuleTable State Kind := (RuleTable.build declarations).toOption.getD .empty

/-! ## scanning Riff -/

/-- scans a text from a saved stack, or from a fresh one -/
def scan (t : Text) (initial : Option Stack) : Scan State Kind :=
  table.scan (initial.getD .fresh) t

/-- scans a text line by line -/
def scanLines (t : Text) (initial : Option Stack) : List (LineScan State Kind) :=
  table.scanLines (initial.getD .fresh) t

end Workbench.Riff
