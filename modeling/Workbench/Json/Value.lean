import Workbench.Json.Quoted

/-!
# Writing JSON

A value is written over several lines, indented by two blanks for each list or object around it; an
empty list or object stays on its line.  The members of an object are written in the order that it
has them in, or sorted by name.
-/

namespace Workbench.Json

inductive Value where
  | number (n : Nat)
  | string (t : Text)
  | list (items : List Value)
  | object (members : List (String × Value))
  deriving Repr

namespace Value

/-- puts a member in front of the first one with a greater name -/
def insertMember (m : String × Value) : List (String × Value) → List (String × Value)
  | [] => [m]
  | n :: ms => if m.1 < n.1 then m :: n :: ms else n :: insertMember m ms

mutual

/-- a value with the members of each object sorted by name -/
def sorted : Value → Value
  | .number n => .number n
  | .string t => .string t
  | .list items => .list (sortedItems items)
  | .object members => .object (sortedMembers members)

def sortedItems : List Value → List Value
  | [] => []
  | v :: vs => sorted v :: sortedItems vs

def sortedMembers : List (String × Value) → List (String × Value)
  | [] => []
  | (name, v) :: ms => insertMember (name, sorted v) (sortedMembers ms)

end

/-- a new line with so many steps of indentation -/
def newline (depth : Nat) : Text := '\n' :: List.replicate (2 * depth) ' '

mutual

/-- a value with so many lists and objects around it -/
def writeAt (depth : Nat) : Value → Text
  | .number n => Nat.toDigits 10 n
  | .string t => quote t
  | .list [] => ['[', ']']
  | .list (v :: vs) =>
    '[' :: newline (depth + 1) ++ writeAt (depth + 1) v ++ writeItems (depth + 1) vs
      ++ newline depth ++ [']']
  | .object [] => ['\x7b', '\x7d']
  | .object ((name, v) :: ms) =>
    '\x7b' :: newline (depth + 1) ++ quote name.toList ++ [':', ' '] ++ writeAt (depth + 1) v
      ++ writeMembers (depth + 1) ms ++ newline depth ++ ['\x7d']

/-- the items behind the first -/
def writeItems (depth : Nat) : List Value → Text
  | [] => []
  | v :: vs => ',' :: newline depth ++ writeAt depth v ++ writeItems depth vs

/-- the members behind the first -/
def writeMembers (depth : Nat) : List (String × Value) → Text
  | [] => []
  | (name, v) :: ms =>
    ',' :: newline depth ++ quote name.toList ++ [':', ' '] ++ writeAt depth v
      ++ writeMembers depth ms

end

def write (v : Value) : Text := writeAt 0 v

end Value

end Workbench.Json
