import Workbench.Shell.State

/-!
# Tests

The command `test` looks at texts, numbers and files.  Its arguments are words and operators, and
which is which depends on how many of them follow; so the arguments are read from the left, with
what is left of them in hand.
-/

namespace Workbench.Shell

/-- what an argument of a test is by itself -/
inductive TestWord where
  | unary
  | binary
  | and
  | or
  | not
  | opening
  | closing
  | operand
  | missing
  deriving DecidableEq, Repr

def unaryTests : List String :=
  ["-r", "-w", "-x", "-e", "-f", "-d", "-c", "-b", "-p", "-u", "-g", "-k", "-s", "-t", "-z", "-n",
    "-h", "-O", "-G", "-L", "-S"]

def binaryTests : List String :=
  ["=", "!=", "<", ">", "-eq", "-ne", "-ge", "-gt", "-le", "-lt", "-nt", "-ot", "-ef"]

def TestWord.of (t : Text) : TestWord :=
  let s := String.ofList t
  if unaryTests.contains s then .unary
  else if binaryTests.contains s then .binary
  else
    match s with
    | "-a" => .and
    | "-o" => .or
    | "!" => .not
    | "(" => .opening
    | ")" => .closing
    | _ => .operand

/-- what the first argument is, given those behind it -/
def TestWord.first : List Text → TestWord
  | [] => .missing
  | t :: rest =>
    match TestWord.of t, rest with
    | .unary, [] => .operand
    | .unary, [_] => .unary
    | .unary, s :: r :: _ =>
      if TestWord.of s = .binary ∧ TestWord.of r ≠ .closing then .operand else .unary
    | .opening, [] => .operand
    | w, _ => w

/-- whether a test of one argument holds -/
def holdsOne (fs : Files) (operator : Text) (t : Text) : Bool :=
  let entry := (fs.find (Octets.toText t)).toOption
  match String.ofList operator with
  | "-z" => t.isEmpty
  | "-n" => !t.isEmpty
  | "-e" | "-r" | "-w" | "-O" | "-G" => entry.isSome
  | "-f" => entry.any fun e => match e with | .file _ => true | _ => false
  | "-d" | "-x" => entry == some .directory
  | "-c" => entry == some .sink
  | "-s" => entry.any fun e =>
    match e with | .file b => !b.isEmpty | .directory => true | .sink => false
  | _ => false

/-- whether a comparison holds; numbers have to be numbers -/
def holdsTwo (a operator b : Text) : Except Text Bool :=
  let numbers (f : Int → Int → Bool) : Except Text Bool :=
    match decimal? a, decimal? b with
    | some m, some n => .ok (f m n)
    | none, _ => .error ("Illegal number: ".toList ++ a)
    | _, none => .error ("Illegal number: ".toList ++ b)
  match String.ofList operator with
  | "=" => .ok (a = b)
  | "!=" => .ok (a ≠ b)
  | "<" => .ok (String.ofList a < String.ofList b)
  | ">" => .ok (String.ofList b < String.ofList a)
  | "-eq" => numbers fun m n => m = n
  | "-ne" => numbers fun m n => m ≠ n
  | "-lt" => numbers fun m n => m < n
  | "-le" => numbers fun m n => m ≤ n
  | "-gt" => numbers fun m n => n < m
  | "-ge" => numbers fun m n => n ≤ m
  | "-ef" => .ok (a = b)
  | _ => .ok false

/-- whether a test holds, and the arguments behind it; or what is wrong with it -/
abbrev Tested := Except Text (Bool × List Text)

mutual

def testEither (fs : Files) (fuel : Nat) (plain : Bool) (ts : List Text) : Tested :=
  match fuel with
  | 0 => .ok (false, [])
  | fuel + 1 =>
    match testBoth fs fuel plain ts with
    | .error e => .error e
    | .ok (a, rest) =>
      if TestWord.first rest = .or then
        (testEither fs fuel false rest.tail).map fun r => (a || r.1, r.2)
      else .ok (a, rest)

def testBoth (fs : Files) (fuel : Nat) (plain : Bool) (ts : List Text) : Tested :=
  match fuel with
  | 0 => .ok (false, [])
  | fuel + 1 =>
    match testNot fs fuel plain ts with
    | .error e => .error e
    | .ok (a, rest) =>
      if TestWord.first rest = .and then
        (testBoth fs fuel false rest.tail).map fun r => (a && r.1, r.2)
      else .ok (a, rest)

def testNot (fs : Files) (fuel : Nat) (plain : Bool) (ts : List Text) : Tested :=
  match fuel with
  | 0 => .ok (false, [])
  | fuel + 1 =>
    if ¬ plain ∧ TestWord.first ts = .not then
      (testNot fs fuel false ts.tail).map fun r => (!r.1, r.2)
    else testPrimary fs fuel plain ts

/-- a test without connectives; the first argument is an operand if it is said to be -/
def testPrimary (fs : Files) (fuel : Nat) (plain : Bool) (ts : List Text) : Tested :=
  match fuel with
  | 0 => .ok (false, [])
  | fuel + 1 =>
    match ts, if plain then .operand else TestWord.first ts with
    | [], _ => .ok (false, [])
    | _ :: rest, .opening =>
      if TestWord.first rest = .closing then .ok (false, rest.tail)
      else
        match testEither fs fuel false rest with
        | .error e => .error e
        | .ok (a, rest') =>
          if TestWord.first rest' = .closing then .ok (a, rest'.tail)
          else .error "closing paren expected".toList
    | o :: rest, .unary =>
      match rest with
      | [] => .error (o ++ ": argument expected".toList)
      | t :: rest' => .ok (holdsOne fs o t, rest')
    | a :: rest, _ =>
      match rest, TestWord.first rest with
      | o :: b :: rest', .binary => (holdsTwo a o b).map (·, rest')
      | [o], .binary => .error (o ++ ": argument expected".toList)
      | _, _ => .ok (a ≠ [], rest)

end

/-- whether the test that the arguments are holds -/
def test (fs : Files) (args : List Text) : Except Text Bool :=
  let isBinary := args.length = 3 ∧ args[1]?.any fun t => TestWord.of t = .binary
  let isEnclosed := (args.length = 3 ∨ args.length = 4) ∧ args.head? = some ['(']
    ∧ args.getLast? = some [')']
  let ts := if ¬ isBinary ∧ isEnclosed then args.tail.dropLast else args
  match testEither fs (4 * ts.length + 8) isBinary ts with
  | .error e => .error e
  | .ok (b, []) => .ok b
  | .ok (_, rest) =>
    let last := (ts[ts.length - rest.length - 1]?).getD []
    .error (last ++ ": unexpected operator".toList)

end Workbench.Shell
