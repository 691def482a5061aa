import Workbench.Text.Bytes

/-!
# The shell's language

A script is a sequence of commands.  A simple command has assignments, words and redirections; the
others put commands together.  A word is a list of parts, some of which are replaced when the
command runs.
-/

namespace Workbench.Shell

/-- how a script stands in a word -/
inductive Bracketing where
  | backquotes
  /-- behind a dollar sign -/
  | brackets
  /-- behind a dollar sign and a bracket that no other one closes -/
  | unclosed
  deriving DecidableEq, Repr

mutual

/-- a part of a word; the value of a quoted part is never taken apart -/
inductive Part where
  | literal (t : Text) (quoted : Bool)
  /-- the value of a variable or a special parameter, or what is made of it -/
  | parameter (name : Text) (use : Use) (quoted : Bool)
  /-- the value of an expression, which is itself a word -/
  | arithmetic (expression : List Part) (quoted : Bool)
  /-- what a script writes, which begins on a line -/
  | output (form : Bracketing) (script : Text) (line : Nat) (quoted : Bool)

/-- what is made of a parameter; a word may stand in for one that is missing, or also for one that
is empty -/
inductive Use where
  | value
  | length
  | orElse (emptyToo : Bool) (w : List Part)
  /-- as `orElse`, and the parameter gets the value -/
  | orAssign (emptyToo : Bool) (w : List Part)
  /-- ends the shell with a message -/
  | orFail (emptyToo : Bool) (message : List Part)
  /-- the word, unless the parameter is missing -/
  | andThen (emptyToo : Bool) (w : List Part)
  /-- the value without the part at one of its ends that a pattern matches -/
  | without (atEnd longest : Bool) (pattern : List Part)
  /-- no use that is known -/
  | bad

end

abbrev Word := List Part

/-- where a redirection sends a channel -/
inductive Goal where
  /-- where another channel goes, or nowhere -/
  | channel (number : Word)
  | write (path : Word) (append : Bool)
  | read (path : Word)
  /-- the channel reads a text of the script -/
  | here (body : Word)

structure Redirection where
  channel : Nat
  goal : Goal

inductive Command where
  /-- does nothing -/
  | skip
  | simple (line : Nat) (assignments : List (Text × Word)) (words : List Word)
      (redirections : List Redirection)
  | sequence (a b : Command)
  /-- what the first command writes is read by the second -/
  | pipeline (a b : Command)
  /-- the second command runs if the first ends with success, or with failure -/
  | onSuccess (a b : Command)
  | onFailure (a b : Command)
  | not (a : Command)
  | branch (condition yes no : Command)
  /-- the body runs while the condition ends with success, or until it does -/
  | loop (while' : Bool) (condition body : Command)
  | each (line : Nat) (name : Text) (values : List Word) (body : Command)
  /-- runs the body of the first arm with a pattern that the subject matches -/
  | choose (line : Nat) (subject : Word) (arms : List (List Word × Command))
  | define (name : Text) (body : Command)
  | redirected (line : Nat) (a : Command) (redirections : List Redirection)
  /-- runs in a copy of the shell -/
  | inner (line : Nat) (a : Command)
  /-- runs in a copy of the shell, and its status is never looked at -/
  | background (a : Command)

def Command.isSkip : Command → Bool
  | .skip => true
  | _ => false

/-- why a script cannot be read -/
inductive SyntaxError where
  | unterminatedQuote
  | unterminatedBackquote
  | missingBrace
  | missingBrackets
  | badLoopVariable
  | badFunctionName
  | badChannel
  | unexpected (what : Text) (expected : Option Text)
  | unexpectedEnd (expected : Option Text)
  deriving DecidableEq, Repr

namespace SyntaxError

/-- what should have stood in some place -/
def expectation : Option Text → Text
  | none => []
  | some e => " (expecting ".toList ++ e ++ [')']

/-- what is wrong -/
def description : SyntaxError → Text
  | .unterminatedQuote => "Unterminated quoted string".toList
  | .unterminatedBackquote => "EOF in backquote substitution".toList
  | .missingBrace => "Missing '\x7d'".toList
  | .missingBrackets => "Missing '))'".toList
  | .badLoopVariable => "Bad for loop variable".toList
  | .badFunctionName => "Bad function name".toList
  | .badChannel => "Bad fd number".toList
  | .unexpected what e => what ++ " unexpected".toList ++ expectation e
  | .unexpectedEnd e => "end of file unexpected".toList ++ expectation e

def message (e : SyntaxError) : Text := "Syntax error: ".toList ++ e.description

end SyntaxError

end Workbench.Shell
