import Workbench.Shell.Escape
import Workbench.Shell.Token

/-!
# Arithmetic expressions

Expressions over whole numbers of 64 bits with the usual operators, which may also give values to
variables.  A variable stands for the number that it holds; one without a value counts as zero.  An
operand that decides nothing is never looked at.
-/

namespace Workbench.Shell

/-- the variables of a shell and their values -/
abbrev Bindings := List (Text × Text)

def Bindings.put (b : Bindings) (name value : Text) : Bindings :=
  (name, value) :: b.filter (·.1 ≠ name)

/-! ## numbers -/

/-- the number of 64 bits with a sign that agrees with a number -/
def wrap (n : Int) : Int := Int.bmod n (Nat.pow 2 64)

def ofBool (b : Bool) : Int := if b then 1 else 0

def greatest : Int := Int.pow 2 63 - 1

def isSpace (c : Char) : Bool := c = ' ' || ('\t' ≤ c && c ≤ '\r')

/-- the number at the front of a text, to the base that its first digits tell, and the rest -/
def readNumber (t : Text) : Int × Text :=
  match t with
  | '0' :: x :: c :: r =>
    if (x = 'x' ∨ x = 'X') ∧ (digit? 16 c).isSome then
      let (n, rest) := leadingNumber 16 (c :: r).length 0 (c :: r)
      (n, rest)
    else
      let (n, rest) := leadingNumber 8 t.length 0 t
      (n, rest)
  | '0' :: _ =>
    let (n, rest) := leadingNumber 8 t.length 0 t
    (n, rest)
  | _ =>
    let (n, rest) := leadingNumber 10 t.length 0 t
    (n, rest)

/-- a sign at the front of a text -/
def readSign (t : Text) : Bool × Text :=
  match t with
  | '-' :: r => (true, r)
  | '+' :: r => (false, r)
  | r => (false, r)

/-- the whole number that a text holds between blanks, if it has 64 bits -/
def number? (read : Text → Int × Text) (t : Text) : Option Int :=
  let (negative, digits) := readSign (t.dropWhile isSpace)
  let (n, rest) := read digits
  let n := if negative then -n else n
  if rest.length < digits.length ∧ rest.all isSpace ∧ -greatest - 1 ≤ n ∧ n ≤ greatest then some n
  else none

def decimal? : Text → Option Int := number? fun t =>
  let (n, rest) := leadingNumber 10 t.length 0 t
  (n, rest)

/-- the number that a variable holds -/
def variableNumber? : Text → Option Int := number? readNumber

/-! ## expressions -/

inductive BinaryOperator where
  | times | divide | remainder | plus | minus | shiftLeft | shiftRight
  | less | greater | atMost | atLeast | equal | unequal
  | bitAnd | bitXor | bitOr
  deriving DecidableEq, Repr

inductive UnaryOperator where
  | plus | minus | not | complement
  deriving DecidableEq, Repr

inductive Expression where
  | number (n : Int)
  | named (name : Text)
  | unary (o : UnaryOperator) (a : Expression)
  | binary (o : BinaryOperator) (a b : Expression)
  | both (a b : Expression)
  | either (a b : Expression)
  | choice (condition yes no : Expression)
  /-- gives a value to a variable, perhaps by way of its old value -/
  | assign (name : Text) (o : Option BinaryOperator) (a : Expression)
  deriving DecidableEq, Repr

/-- why an expression has no value -/
inductive ArithmeticError where
  | expected (what : String)
  | divisionByZero
  /-- a variable holds no number -/
  | illegalNumber (t : Text)
  deriving DecidableEq, Repr

/-- what is wrong with an expression, given its text -/
def ArithmeticError.message (source : Text) : ArithmeticError → Text
  | .expected what => about ("expecting " ++ what)
  | .divisionByZero => about "division by zero"
  | .illegalNumber t => "Illegal number: ".toList ++ t
where
  /-- names the expression -/
  about (what : String) : Text :=
    ("arithmetic expression: " ++ what ++ ": \"").toList ++ source ++ ['"']

/-! ## values -/

def UnaryOperator.apply : UnaryOperator → Int → Int
  | .plus, n => n
  | .minus, n => wrap (-n)
  | .not, n => ofBool (n = 0)
  | .complement, n => -n - 1

/-- the bits of a number of 64 bits, as a natural number -/
def bits (n : Int) : Nat := (n % Int.pow 2 64).toNat

def BinaryOperator.apply (o : BinaryOperator) (a b : Int) : Except ArithmeticError Int :=
  match o with
  | .times => .ok (wrap (a * b))
  | .divide => if b = 0 then .error .divisionByZero else .ok (wrap (a.tdiv b))
  | .remainder => if b = 0 then .error .divisionByZero else .ok (wrap (a.tmod b))
  | .plus => .ok (wrap (a + b))
  | .minus => .ok (wrap (a - b))
  | .shiftLeft => .ok (wrap (a * Int.pow 2 (bits b % 64)))
  | .shiftRight => .ok (a / Int.pow 2 (bits b % 64))
  | .less => .ok (ofBool (a < b))
  | .greater => .ok (ofBool (b < a))
  | .atMost => .ok (ofBool (a ≤ b))
  | .atLeast => .ok (ofBool (b ≤ a))
  | .equal => .ok (ofBool (a = b))
  | .unequal => .ok (ofBool (a ≠ b))
  | .bitAnd => .ok (wrap (bits a &&& bits b : Nat))
  | .bitXor => .ok (wrap (bits a ^^^ bits b : Nat))
  | .bitOr => .ok (wrap (bits a ||| bits b : Nat))

/-- the number of a variable -/
def Bindings.number (b : Bindings) (name : Text) : Except ArithmeticError Int :=
  match b.lookup name with
  | none => .ok 0
  | some t =>
    if t.all isSpace then .ok 0
    else
      match variableNumber? t with
      | some n => .ok n
      | none => .error (.illegalNumber t)

/-- the value of an expression, and the variables behind it -/
def Expression.evaluate : Expression → Bindings → Except ArithmeticError (Int × Bindings)
  | .number n, b => .ok (n, b)
  | .named name, b => (b.number name).map (·, b)
  | .unary o a, b => (a.evaluate b).map fun r => (o.apply r.1, r.2)
  | .binary o x y, b =>
    match x.evaluate b with
    | .error e => .error e
    | .ok (m, b') =>
      match y.evaluate b' with
      | .error e => .error e
      | .ok (n, b'') => (o.apply m n).map (·, b'')
  | .both x y, b =>
    match x.evaluate b with
    | .error e => .error e
    | .ok (m, b') =>
      if m = 0 then .ok (0, b') else (y.evaluate b').map fun r => (ofBool (r.1 ≠ 0), r.2)
  | .either x y, b =>
    match x.evaluate b with
    | .error e => .error e
    | .ok (m, b') =>
      if m ≠ 0 then .ok (1, b') else (y.evaluate b').map fun r => (ofBool (r.1 ≠ 0), r.2)
  | .choice c x y, b =>
    match c.evaluate b with
    | .error e => .error e
    | .ok (m, b') => if m ≠ 0 then x.evaluate b' else y.evaluate b'
  | .assign name o a, b =>
    match a.evaluate b with
    | .error e => .error e
    | .ok (n, b') =>
      let value : Except ArithmeticError Int :=
        match o with
        | none => .ok n
        | some o =>
          match b'.number name with
          | .error e => .error e
          | .ok m => o.apply m n
      value.map fun n => (n, b'.put name (toString n).toList)

/-! ## reading -/

inductive ArithmeticToken where
  | number (n : Int)
  | name (t : Text)
  | sign (s : String)
  deriving DecidableEq, Repr

/-- the signs of expressions; where one begins with another, the longer comes first -/
def signs : List String :=
  ["<<=", ">>=", "<<", ">>", "<=", ">=", "==", "!=", "&&", "||", "*=", "/=", "%=", "+=", "-=",
    "&=", "^=", "|=", "<", ">", "=", "!", "&", "|", "^", "~", "+", "-", "*", "/", "%", "(", ")",
    "?", ":"]

/-- the tokens of an expression; a character that begins none is a sign of its own -/
def arithmeticTokens : (fuel : Nat) → Text → List ArithmeticToken
  | 0, _ => []
  | _ + 1, [] => []
  | fuel + 1, c :: r =>
    if c = ' ' ∨ c = '\t' ∨ c = '\n' then arithmeticTokens fuel r
    else if c.isDigit then
      let (n, rest) := readNumber (c :: r)
      .number (min n greatest) :: arithmeticTokens fuel rest
    else if isNameStart c then
      .name (c :: r.takeWhile isNameChar) :: arithmeticTokens fuel (r.dropWhile isNameChar)
    else
      match signs.find? fun s => s.toList.isPrefixOf (c :: r) with
      | some s => .sign s :: arithmeticTokens fuel ((c :: r).drop s.length)
      | none => .sign (String.singleton c) :: arithmeticTokens fuel r

/-- the operators between two numbers, those that bind least first -/
def levels : List (List (String × BinaryOperator)) :=
  [[("|", .bitOr)], [("^", .bitXor)], [("&", .bitAnd)],
    [("==", .equal), ("!=", .unequal)],
    [("<=", .atMost), (">=", .atLeast), ("<", .less), (">", .greater)],
    [("<<", .shiftLeft), (">>", .shiftRight)],
    [("+", .plus), ("-", .minus)],
    [("*", .times), ("/", .divide), ("%", .remainder)]]

/-- the signs that give a value to a variable -/
def assignments : List (String × Option BinaryOperator) :=
  [("=", none), ("*=", some .times), ("/=", some .divide), ("%=", some .remainder),
    ("+=", some .plus), ("-=", some .minus), ("<<=", some .shiftLeft), (">>=", some .shiftRight),
    ("&=", some .bitAnd), ("^=", some .bitXor), ("|=", some .bitOr)]

/-- an expression and the tokens behind it -/
abbrev ReadExpression := Except ArithmeticError (Expression × List ArithmeticToken)

mutual

/-- an assignment or a choice -/
def readWhole (fuel : Nat) (ts : List ArithmeticToken) : ReadExpression :=
  match fuel with
  | 0 => .error (.expected "primary")
  | fuel + 1 =>
    match ts with
    | .name x :: .sign s :: rest =>
      match assignments.lookup s with
      | some o => (readWhole fuel rest).map fun r => (.assign x o r.1, r.2)
      | none => readChoice fuel ts
    | _ => readChoice fuel ts

/-- an expression that may choose between two others -/
def readChoice (fuel : Nat) (ts : List ArithmeticToken) : ReadExpression :=
  match fuel with
  | 0 => .error (.expected "primary")
  | fuel + 1 =>
    match readEither fuel ts with
    | .error e => .error e
    | .ok (c, .sign "?" :: rest) =>
      match readWhole fuel rest with
      | .error e => .error e
      | .ok (x, .sign ":" :: rest') => (readChoice fuel rest').map fun r => (.choice c x r.1, r.2)
      | .ok _ => .error (.expected "':'")
    | .ok r => .ok r

def readEither (fuel : Nat) (ts : List ArithmeticToken) : ReadExpression :=
  match fuel with
  | 0 => .error (.expected "primary")
  | fuel + 1 =>
    match readBoth fuel ts with
    | .ok (x, .sign "||" :: rest) => (readEither fuel rest).map fun r => (.either x r.1, r.2)
    | r => r

def readBoth (fuel : Nat) (ts : List ArithmeticToken) : ReadExpression :=
  match fuel with
  | 0 => .error (.expected "primary")
  | fuel + 1 =>
    match readLevel fuel levels ts with
    | .ok (x, .sign "&&" :: rest) => (readBoth fuel rest).map fun r => (.both x r.1, r.2)
    | r => r

/-- operands with operators of some levels between them -/
def readLevel (fuel : Nat) (ls : List (List (String × BinaryOperator)))
    (ts : List ArithmeticToken) : ReadExpression :=
  match fuel with
  | 0 => .error (.expected "primary")
  | fuel + 1 =>
    match ls with
    | [] => readOperand fuel ts
    | os :: tighter =>
      match readLevel fuel tighter ts with
      | .error e => .error e
      | .ok (x, rest) => readMore fuel os tighter x rest

/-- what follows an expression on a level; equal operators bind from the left -/
def readMore (fuel : Nat) (os : List (String × BinaryOperator))
    (tighter : List (List (String × BinaryOperator))) (x : Expression)
    (ts : List ArithmeticToken) : ReadExpression :=
  match fuel with
  | 0 => .error (.expected "primary")
  | fuel + 1 =>
    match ts with
    | .sign s :: rest =>
      match os.lookup s with
      | none => .ok (x, ts)
      | some o =>
        match readLevel fuel tighter rest with
        | .error e => .error e
        | .ok (y, rest') => readMore fuel os tighter (.binary o x y) rest'
    | _ => .ok (x, ts)

/-- a number, a variable, a sign in front of an operand, or an expression in brackets -/
def readOperand (fuel : Nat) (ts : List ArithmeticToken) : ReadExpression :=
  match fuel with
  | 0 => .error (.expected "primary")
  | fuel + 1 =>
    match ts with
    | .number n :: rest => .ok (.number n, rest)
    | .name x :: rest => .ok (.named x, rest)
    | .sign "(" :: rest =>
      match readWhole fuel rest with
      | .error e => .error e
      | .ok (x, .sign ")" :: rest') => .ok (x, rest')
      | .ok _ => .error (.expected "')'")
    | .sign "-" :: rest => (readOperand fuel rest).map fun r => (.unary .minus r.1, r.2)
    | .sign "+" :: rest => (readOperand fuel rest).map fun r => (.unary .plus r.1, r.2)
    | .sign "!" :: rest => (readOperand fuel rest).map fun r => (.unary .not r.1, r.2)
    | .sign "~" :: rest => (readOperand fuel rest).map fun r => (.unary .complement r.1, r.2)
    | _ => .error (.expected "primary")

end

def Expression.ofText (t : Text) : Except ArithmeticError Expression :=
  let ts := arithmeticTokens (t.length + 1) t
  match readWhole (32 * ts.length + 32) ts with
  | .error e => .error e
  | .ok (x, []) => .ok x
  | .ok _ => .error (.expected "EOF")

/-- the value of the expression that a text is, and the variables behind it -/
def evaluateText (t : Text) (b : Bindings) : Except ArithmeticError (Int × Bindings) :=
  match Expression.ofText t with
  | .error e => .error e
  | .ok x => x.evaluate b

end Workbench.Shell
