import Workbench.Json.Typed
import Workbench.Json.Quoted
import Workbench.Riff.Rules

/-!
# Saved stacks

A stack is saved as a JSON list of the names of its states, bottom first.  A saved stack is read
back only if it is one that could have been saved: not empty, and with no push-only state at the
bottom.
-/

namespace Workbench.Riff

open Json (Reader Refusal)
open Scanner (StackError StateStack)

namespace State

def read : Reader State := Json.choice (all.map fun s => (s.name, s))

end State

inductive LoadError where
  | json (r : Refusal)
  | stack (e : StackError)
  deriving DecidableEq, Repr

namespace Stack

/-- names between brackets, with a comma behind all but the last -/
def savedNames : List State → Text
  | [] => []
  | [s] => Json.quote s.name.toList
  | s :: ss => Json.quote s.name.toList ++ ',' :: savedNames ss

def save (st : Stack) : Text := '[' :: savedNames st.toList ++ [']']

/-- a saved stack at the front of a text -/
def read (t : Text) : Except LoadError (Stack × Text) :=
  match Json.list State.read t with
  | .error r => .error (.json r)
  | .ok states =>
    match StateStack.ofList states.value with
    | .error e => .error (.stack e)
    | .ok st => .ok (st, states.rest)

/-- the stack of a saved text, which holds nothing else; a bad stack is reported before bad text
behind it -/
def load (t : Text) : Except LoadError Stack :=
  match read t with
  | .error e => .error e
  | .ok (st, rest) =>
    match Json.next? rest with
    | none => .ok st
    | some c => .error (.json (.next .trailing (c.value :: c.rest)))

end Stack

end Workbench.Riff
