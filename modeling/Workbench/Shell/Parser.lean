import Workbench.Shell.Token

/-!
# Reading scripts

A script is read line by line: the commands of a line run before the next line is looked at, so an
error in a line leaves the lines before it standing.  A command that spans lines counts as one line.
-/

namespace Workbench.Shell

/-- an error and its line -/
abbrev Refusal := SyntaxError × Nat

/-- a command and the tokens behind it -/
abbrev Parsed := Except Refusal (Command × List Placed)

/-! ## words -/

/-- a word that is nothing but text without quotes -/
def plain? : Word → Option Text
  | [.literal t false] => some t
  | _ => none

/-- the words that end a list of commands -/
def closers : List Text :=
  ["then", "elif", "else", "fi", "do", "done", "esac", "\x7d"].map String.toList

/-- the words that are no names of commands -/
def reserved : List Text :=
  ["!", "\x7b", "case", "for", "if", "until", "while"].map String.toList ++ closers

/-- a word that gives a value to a variable -/
def assignment? : Word → Option (Text × Word)
  | .literal t false :: w =>
    let name := t.takeWhile isNameChar
    match t.dropWhile isNameChar with
    | '=' :: value =>
      if isName name then some (name, if value = [] then w else .literal value false :: w)
      else none
    | _ => none
  | _ => none

/-- the text of a token in a message -/
def describe : Token → Text
  | .word w =>
    match plain? w with
    | some t => if reserved.contains t then '"' :: t ++ ['"'] else "word".toList
    | none => "word".toList
  | .operator t => '"' :: t ++ ['"']
  | .newline => "newline".toList
  | .redirect _ _ => "redirection".toList
  | .here _ _ => "redirection".toList

/-- the error of tokens that do not begin with what is expected -/
def refuse (expected : Option Text) : List Placed → Refusal
  | [] => (.unexpectedEnd expected, 0)
  | p :: _ => (.unexpected (describe p.token) expected, p.lastLine)

/-- a word or an operator as it is expected -/
def inMarks (t : Text) : Option Text := some ('"' :: t ++ ['"'])

/-- passes over newlines -/
def skipNewlines : List Placed → List Placed
  | ⟨.newline, _, _⟩ :: ts => skipNewlines ts
  | ts => ts

/-- whether tokens begin with a word -/
def startsWith (word : String) : List Placed → Bool
  | ⟨.word w, _, _⟩ :: _ => plain? w == some word.toList
  | _ => false

/-- whether tokens begin with an operator -/
def startsWithOperator (operator : String) : List Placed → Bool
  | ⟨.operator o, _, _⟩ :: _ => o == operator.toList
  | _ => false

/-- passes over a word -/
def expect (word : String) (ts : List Placed) : Except Refusal (List Placed) :=
  let ts := skipNewlines ts
  if startsWith word ts then .ok ts.tail else .error (refuse (inMarks word.toList) ts)

/-- passes over an operator -/
def expectOperator (operator : String) (ts : List Placed) : Except Refusal (List Placed) :=
  if startsWithOperator operator ts then .ok ts.tail
  else .error (refuse (inMarks operator.toList) ts)

/-! ## simple commands -/

/-- the redirection of an operator and the word behind it -/
def redirectionOf (channel : Nat) (operator : Text) (goal : Word) : Redirection :=
  match String.ofList operator with
  | ">&" | "<&" => ⟨channel, .channel goal⟩
  | ">>" => ⟨channel, .write goal true⟩
  | "<" | "<>" => ⟨channel, .read goal⟩
  | _ => ⟨channel, .write goal false⟩

/-- redirections, one after another -/
def redirections : List Placed → Except Refusal (List Redirection × List Placed)
  | ⟨.here n body, _, _⟩ :: ts =>
    (redirections ts).map fun r => (⟨n, .here body⟩ :: r.1, r.2)
  | ⟨.redirect n o, _, _⟩ :: ⟨.word w, _, _⟩ :: ts =>
    (redirections ts).map fun r => (redirectionOf n o w :: r.1, r.2)
  | ⟨.redirect _ _, _, _⟩ :: ts => .error (refuse none ts)
  | ts => .ok ([], ts)

/-- a simple command: assignments, then words, with redirections between them -/
def simple (line : Nat) (assignments : List (Text × Word)) (words : List Word)
    (rs : List Redirection) : List Placed → Parsed
  | ⟨.word w, _, _⟩ :: ts =>
    match words, assignment? w with
    | [], some a => simple line (a :: assignments) words rs ts
    | _, _ => simple line assignments (w :: words) rs ts
  | ⟨.here n body, _, _⟩ :: ts => simple line assignments words (⟨n, .here body⟩ :: rs) ts
  | ⟨.redirect n o, _, _⟩ :: ⟨.word w, _, _⟩ :: ts =>
    simple line assignments words (redirectionOf n o w :: rs) ts
  | ⟨.redirect _ _, _, _⟩ :: ts => .error (refuse none ts)
  | ts => .ok (.simple line assignments.reverse words.reverse rs.reverse, ts)

/-! ## compound commands -/

/-- the words of a `for` command, up to what ends them -/
def eachWords : List Placed → List Word × List Placed
  | ⟨.word w, _, _⟩ :: ts => let (ws, rest) := eachWords ts; (w :: ws, rest)
  | ts => ([], ts)

/-- a compound command, which begins on a line, with the redirections behind it -/
def withRedirections (line : Nat) (c : Parsed) : Parsed :=
  match c with
  | .error e => .error e
  | .ok (a, ts) =>
    (redirections ts).map fun r => (if r.1.isEmpty then a else .redirected line a r.1, r.2)

/-- a block and the word that closes it -/
def closed (word : String) (body : Parsed) (make : Command → Command) : Parsed :=
  match body with
  | .error e => .error e
  | .ok (a, rest) => (expect word rest).map fun rest' => (make a, rest')

/-- the patterns of an arm, up to the bracket behind them -/
def armPatterns : List Placed → Except Refusal (List Word × List Placed)
  | ⟨.word w, _, _⟩ :: ⟨.operator ['|'], _, _⟩ :: ts =>
    (armPatterns ts).map fun r => (w :: r.1, r.2)
  | ⟨.word w, _, _⟩ :: ts => (expectOperator ")" ts).map fun rest => ([w], rest)
  | ts => .error (refuse (inMarks [')']) ts)

/-- whether tokens begin with something that ends a list of commands -/
def endsBlock (ts : List Placed) : Bool :=
  match ts with
  | [] => true
  | ⟨.operator o, _, _⟩ :: _ => o == [')'] || o == ";;".toList
  | ⟨.word w, _, _⟩ :: _ => (plain? w).any closers.contains
  | _ => false

mutual

/-- commands up to what closes them; there has to be one unless they may be missing -/
def block (fuel : Nat) (mayBeEmpty : Bool) (ts : List Placed) : Parsed :=
  match fuel with
  | 0 => .error (.unexpectedEnd none, 0)
  | fuel + 1 =>
    match skipNewlines ts with
    | [] => .ok (.skip, [])
    | ts => if mayBeEmpty ∧ endsBlock ts then .ok (.skip, ts) else blockFrom fuel ts

/-- at least one command, and those behind it -/
def blockFrom (fuel : Nat) (ts : List Placed) : Parsed :=
  match fuel with
  | 0 => .error (.unexpectedEnd none, 0)
  | fuel + 1 =>
    match chain fuel ts with
    | .error e => .error e
    | .ok (a, ⟨.operator [';'], _, _⟩ :: rest) => follow fuel a rest
    | .ok (a, ⟨.operator ['&'], _, _⟩ :: rest) => follow fuel (.background a) rest
    | .ok (a, ⟨.newline, _, _⟩ :: rest) => follow fuel a rest
    | .ok (a, rest) => .ok (a, rest)

/-- a command and the block behind it -/
def follow (fuel : Nat) (a : Command) (ts : List Placed) : Parsed :=
  match fuel with
  | 0 => .error (.unexpectedEnd none, 0)
  | fuel + 1 => (block fuel true ts).map fun b => (.sequence a b.1, b.2)

/-- commands with `&&` and `||` between them -/
def chain (fuel : Nat) (ts : List Placed) : Parsed :=
  match fuel with
  | 0 => .error (.unexpectedEnd none, 0)
  | fuel + 1 =>
    match negated fuel ts with
    | .error e => .error e
    | .ok (a, rest) => links fuel a rest

/-- what follows a command behind `&&` or `||`; both bind alike, from the left -/
def links (fuel : Nat) (a : Command) (ts : List Placed) : Parsed :=
  match fuel with
  | 0 => .error (.unexpectedEnd none, 0)
  | fuel + 1 =>
    if startsWithOperator "&&" ts then
      match negated fuel (skipNewlines ts.tail) with
      | .error e => .error e
      | .ok (b, rest) => links fuel (.onSuccess a b) rest
    else if startsWithOperator "||" ts then
      match negated fuel (skipNewlines ts.tail) with
      | .error e => .error e
      | .ok (b, rest) => links fuel (.onFailure a b) rest
    else .ok (a, ts)

/-- a pipeline, perhaps behind an exclamation mark -/
def negated (fuel : Nat) (ts : List Placed) : Parsed :=
  match fuel with
  | 0 => .error (.unexpectedEnd none, 0)
  | fuel + 1 =>
    if startsWith "!" ts then (pipeline fuel ts.tail).map fun a => (.not a.1, a.2)
    else pipeline fuel ts

/-- commands that read what the one before writes -/
def pipeline (fuel : Nat) (ts : List Placed) : Parsed :=
  match fuel with
  | 0 => .error (.unexpectedEnd none, 0)
  | fuel + 1 =>
    match command fuel ts with
    | .error e => .error e
    | .ok (a, rest) =>
      if startsWithOperator "|" rest then
        (pipeline fuel (skipNewlines rest.tail)).map fun b => (.pipeline a b.1, b.2)
      else .ok (a, rest)

/-- one command -/
def command (fuel : Nat) (ts : List Placed) : Parsed :=
  match fuel with
  | 0 => .error (.unexpectedEnd none, 0)
  | fuel + 1 =>
    match ts with
    | ⟨.operator ['('], _, line⟩ :: rest =>
      match block fuel false rest with
      | .error e => .error e
      | .ok (a, rest') =>
        withRedirections line ((expectOperator ")" rest').map (.inner line a, ·))
    | ⟨.word w, _, line⟩ :: rest =>
      match (plain? w).map String.ofList with
      | some "\x7b" => withRedirections line (closed "\x7d" (block fuel false rest) fun a => a)
      | some "if" => withRedirections line (branches fuel rest)
      | some "while" => withRedirections line (looping fuel true rest)
      | some "until" => withRedirections line (looping fuel false rest)
      | some "for" => withRedirections line (eachOf fuel line rest)
      | some "case" => withRedirections line (choice fuel line rest)
      | t =>
        if t.any fun t => reserved.contains t.toList then .error (refuse none ts)
        else if startsWithOperator "(" rest ∧ (assignment? w).isNone then
          match expectOperator ")" rest.tail with
          | .error e => .error e
          | .ok rest' =>
            if isName (literalText w) then
              (command fuel (skipNewlines rest')).map fun a => (.define (literalText w) a.1, a.2)
            else .error (.badFunctionName, line)
        else simple line [] [] [] ts
    | ⟨.redirect _ _, _, line⟩ :: _ => simple line [] [] [] ts
    | ⟨.here _ _, _, line⟩ :: _ => simple line [] [] [] ts
    | _ => .error (refuse none ts)

/-- the rest of a conditional command, behind its first word -/
def branches (fuel : Nat) (ts : List Placed) : Parsed :=
  match fuel with
  | 0 => .error (.unexpectedEnd none, 0)
  | fuel + 1 =>
    match block fuel false ts with
    | .error e => .error e
    | .ok (condition, rest) =>
      match expect "then" rest with
      | .error e => .error e
      | .ok rest =>
        match block fuel false rest with
        | .error e => .error e
        | .ok (yes, rest) =>
          if startsWith "elif" rest then
            (branches fuel rest.tail).map fun no => (.branch condition yes no.1, no.2)
          else if startsWith "else" rest then
            closed "fi" (block fuel false rest.tail) (.branch condition yes)
          else closed "fi" (.ok (.skip, rest)) (.branch condition yes)

/-- the rest of a loop, behind its first word -/
def looping (fuel : Nat) (while' : Bool) (ts : List Placed) : Parsed :=
  match fuel with
  | 0 => .error (.unexpectedEnd none, 0)
  | fuel + 1 =>
    match block fuel false ts with
    | .error e => .error e
    | .ok (condition, rest) =>
      match expect "do" rest with
      | .error e => .error e
      | .ok rest => closed "done" (block fuel false rest) (.loop while' condition)

/-- the rest of a loop over words, behind its first word -/
def eachOf (fuel : Nat) (line : Nat) (ts : List Placed) : Parsed :=
  match fuel with
  | 0 => .error (.unexpectedEnd none, 0)
  | fuel + 1 =>
    match ts with
    | ⟨.word name, l, _⟩ :: rest =>
      match plain? name with
      | none => .error (.badLoopVariable, l)
      | some n =>
        if ¬ isName n then .error (.badLoopVariable, l)
        else
          let rest := skipNewlines rest
          if startsWith "in" rest then
            let (values, rest') := eachWords rest.tail
            match rest' with
            | ⟨.operator [';'], _, _⟩ :: rest'' => eachBody fuel line n values rest''
            | ⟨.newline, _, _⟩ :: rest'' => eachBody fuel line n values rest''
            | _ => .error (refuse none rest')
          else
            let rest' := if startsWithOperator ";" rest then rest.tail else rest
            eachBody fuel line n [[.parameter ['@'] .value true]] rest'
    | [] => .error (refuse none [])
    | p :: _ => .error (.badLoopVariable, p.line)

/-- the body of a loop over words -/
def eachBody (fuel : Nat) (line : Nat) (name : Text) (values : List Word) (ts : List Placed) :
    Parsed :=
  match fuel with
  | 0 => .error (.unexpectedEnd none, 0)
  | fuel + 1 =>
    match expect "do" ts with
    | .error e => .error e
    | .ok body => closed "done" (block fuel false body) (.each line name values)

/-- the rest of a choice, behind its first word -/
def choice (fuel : Nat) (line : Nat) (ts : List Placed) : Parsed :=
  match fuel with
  | 0 => .error (.unexpectedEnd none, 0)
  | fuel + 1 =>
    match ts with
    | ⟨.word subject, _, _⟩ :: rest =>
      match expect "in" rest with
      | .error e => .error e
      | .ok rest' => arms fuel line subject [] rest'
    | _ => .error (refuse (some "word".toList) ts)

/-- the arms of a choice, which are collected in reverse -/
def arms (fuel : Nat) (line : Nat) (subject : Word) (before : List (List Word × Command))
    (ts : List Placed) : Parsed :=
  match fuel with
  | 0 => .error (.unexpectedEnd none, 0)
  | fuel + 1 =>
    let ts := skipNewlines ts
    if startsWith "esac" ts then .ok (.choose line subject before.reverse, ts.tail)
    else
      match armPatterns (if startsWithOperator "(" ts then ts.tail else ts) with
      | .error e => .error e
      | .ok (patterns, rest) =>
        match block fuel true rest with
        | .error e => .error e
        | .ok (body, rest') =>
          let rest' := skipNewlines rest'
          let now := (patterns, body) :: before
          if startsWithOperator ";;" rest' then arms fuel line subject now rest'.tail
          else if startsWith "esac" rest' then arms fuel line subject now rest'
          else .error (refuse (inMarks ";;".toList) rest')

end

/-! ## scripts -/

/-- the commands of a line -/
def readLine (fuel : Nat) (ts : List Placed) : Parsed :=
  match fuel with
  | 0 => .error (.unexpectedEnd none, 0)
  | fuel + 1 =>
    match chain fuel ts with
    | .error e => .error e
    | .ok (a, ⟨.operator [';'], _, _⟩ :: rest) => andThen fuel a rest
    | .ok (a, ⟨.operator ['&'], _, _⟩ :: rest) => andThen fuel (.background a) rest
    | .ok (a, ⟨.newline, _, _⟩ :: rest) => .ok (a, rest)
    | .ok (a, []) => .ok (a, [])
    | .ok (_, rest) => .error (refuse none rest)
where
  /-- a command and what else is on its line -/
  andThen (fuel : Nat) (a : Command) : List Placed → Parsed
    | [] => .ok (a, [])
    | ⟨.newline, _, _⟩ :: rest => .ok (a, rest)
    | rest => (readLine fuel rest).map fun b => (.sequence a b.1, b.2)

/-- the commands of a script by lines, and the error that ends them with its line -/
structure Script where
  lines : List Command
  error? : Option Refusal

/-! ## scripts inside of words -/

/-- a script in a word, and the line that it begins on -/
structure Enclosed where
  form : Bracketing
  script : Text
  line : Nat

mutual

/-- the scripts in a word -/
def scriptsOf : List Part → List Enclosed
  | [] => []
  | p :: ps => partScripts p ++ scriptsOf ps

def partScripts : Part → List Enclosed
  | .literal _ _ => []
  | .parameter _ use _ => useScripts use
  | .arithmetic e _ => scriptsOf e
  | .output form t line _ => [⟨form, t, line⟩]

def useScripts : Use → List Enclosed
  | .orElse _ w => scriptsOf w
  | .orAssign _ w => scriptsOf w
  | .orFail _ w => scriptsOf w
  | .andThen _ w => scriptsOf w
  | .without _ _ w => scriptsOf w
  | .value => []
  | .length => []
  | .bad => []

end

/-- the scripts in a token -/
def Token.scripts : Token → List Enclosed
  | .word w => scriptsOf w
  | .here _ body => scriptsOf body
  | .operator _ => []
  | .newline => []
  | .redirect _ _ => []

namespace Script

/-- the refusal of tokens that cannot be read; where they end too early, what is wrong in a word or
behind them is found before that -/
def firstRefusal (inside? : Enclosed → Option Refusal) (last : Nat) (error? : Option Refusal)
    (ts : List Placed) : Refusal → Refusal
  | (.unexpectedEnd e, _) =>
    ((ts.flatMap (·.token.scripts)).findSome? inside?).getD
      (error?.getD (.unexpectedEnd e, last))
  | e => e

/-- the lines of tokens, `last` being the line at which a script that ends too early ends; a script
in a word has to be readable as well, which `inside?` refuses with an error -/
def ofTokens (inside? : Enclosed → Option Refusal) (last : Nat) (error? : Option Refusal) :
    (fuel : Nat) → List Placed → Script
  | 0, _ => ⟨[], error?⟩
  | fuel + 1, ts =>
    match skipNewlines ts with
    | [] => ⟨[], error?⟩
    | ts' =>
      match readLine (16 * ts'.length + 16) ts' with
      | .ok (c, rest) =>
        let read := ts'.take (ts'.length - rest.length)
        match (read.flatMap (·.token.scripts)).findSome? inside? with
        | some e => ⟨[], some e⟩
        | none =>
          -- the script may break off in its last line, which is then not complete
          if rest.isEmpty ∧ error?.isSome ∧ ts.getLast?.any (!·.token.isNewline) then ⟨[], error?⟩
          else
            let s := ofTokens inside? last error? fuel rest
            { s with lines := c :: s.lines }
      | .error e => ⟨[], some (firstRefusal inside? last error? ts' e)⟩

/-- reads a script that begins on a line -/
def readWith (inside? : Enclosed → Option Refusal) (line : Nat) (t : Text) : Script :=
  let (ts, e) := tokens (t.length + 1) line 0 t
  ofTokens inside? (line + t.count '\n') e (ts.length + 1) ts

/-- the refusal of a block of commands with a bracket behind it, if there is one -/
def blockRefusal? (inside? : Enclosed → Option Refusal) (s : Enclosed) : Option Refusal :=
  let last := s.line + s.script.count '\n'
  let (ts, error?) := tokens (s.script.length + 1) s.line 0 s.script
  let bracket : List Placed :=
    if s.form = .brackets ∧ error?.isNone then [⟨.operator [')'], last, last⟩] else []
  let ts := ts ++ bracket
  match (block (16 * ts.length + 16) true ts).bind fun r => expectOperator ")" r.2 with
  | .ok _ => (ts.flatMap (·.token.scripts)).findSome? inside?
  | .error e => some (firstRefusal inside? last error? ts e)

/-- the refusal of a script in a word, if there is one, down to a depth -/
def refusal? : (depth : Nat) → Enclosed → Option Refusal
  | 0, _ => none
  | depth + 1, s =>
    match s.form with
    | .backquotes => (readWith (refusal? depth) s.line s.script).error?
    | .brackets | .unclosed => blockRefusal? (refusal? depth) s

/-- reads a script that begins on a line; scripts inside of it are shorter, so the depth to which
they are looked at need be no more than its length -/
def readFrom (line : Nat) (t : Text) : Script := readWith (refusal? (t.length + 1)) line t

def read (t : Text) : Script := readFrom 1 t

end Script

end Workbench.Shell
