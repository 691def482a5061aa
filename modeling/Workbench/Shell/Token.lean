import Workbench.Shell.Syntax
import Workbench.Text.Lines

/-!
# Tokens of a script

A script is taken apart into words, operators and redirections.  Quotes and backslashes are resolved
here; what has to be replaced later stays in the parts of the words.
-/

namespace Workbench.Shell

inductive Token where
  | word (w : Word)
  | operator (t : Text)
  | newline
  /-- a redirection without the word that it needs -/
  | redirect (channel : Nat) (operator : Text)
  /-- a redirection that brings its own text -/
  | here (channel : Nat) (body : Word)

def Token.isNewline : Token → Bool
  | .newline => true
  | _ => false

/-- a token and the lines that it begins on and ends on -/
structure Placed where
  token : Token
  line : Nat
  lastLine : Nat

def isNameStart (c : Char) : Bool := c.isAlpha || c = '_'
def isNameChar (c : Char) : Bool := c.isAlphanum || c = '_'

/-- whether a text can be the name of a variable -/
def isName (t : Text) : Bool := t.head?.any isNameStart && t.all isNameChar

/-- the parameters that are written as one sign -/
def isSpecial (c : Char) : Bool := ['?', '$', '#', '@', '*', '!', '-'].contains c

/-- characters that end a word that is not quoted -/
def isMeta (c : Char) : Bool := [' ', '\t', '\n', ';', '&', '|', '<', '>', '(', ')'].contains c

/-! ## enclosed texts -/

/-- a text up to a single quote, and the rest behind it -/
def readSingle : Text → Option (Text × Text)
  | [] => none
  | c :: t => if c = '\'' then some ([], t) else (readSingle t).map fun r => (c :: r.1, r.2)

/-- a script up to a backquote, with its backslashes resolved, and the rest behind it -/
def readBackquoted (quoted : Bool) : Text → Option (Text × Text)
  | [] => none
  | '\x60' :: t => some ([], t)
  | '\\' :: c :: t =>
    (readBackquoted quoted t).map fun r =>
      if ['\x60', '\\', '$'].contains c || (quoted && c = '"') then (c :: r.1, r.2)
      else ('\\' :: c :: r.1, r.2)
  | c :: t => (readBackquoted quoted t).map fun r => (c :: r.1, r.2)

/-- the expression of `$((…))`, behind its opening, up to the two brackets that close it -/
def readExpression (depth : Nat) : Text → Option (Text × Text)
  | [] => none
  | '(' :: t => (readExpression (depth + 1) t).map fun r => ('(' :: r.1, r.2)
  | ')' :: t =>
    match depth, t with
    | 0, ')' :: t' => some ([], t')
    | 0, _ => none
    | d + 1, _ => (readExpression d t).map fun r => (')' :: r.1, r.2)
  | c :: t => (readExpression depth t).map fun r => (c :: r.1, r.2)

/-- where the script of `$(…)` is being read -/
inductive Enclosure where
  | bare
  | single
  | double
  | comment
  deriving DecidableEq

/-- how far the script of `$(…)` has been understood, as far as it matters for its end -/
structure ScriptReading where
  /-- in so many characters a command begins, if one does -/
  command : Option Nat := some 0
  /-- how many choices are open, in which a bracket ends patterns -/
  choices : Nat := 0
  /-- whether a word may begin -/
  isFresh : Bool := true

/-- whether a text begins with a word that is not part of a longer one -/
def beginsWord (w : String) (t : Text) : Bool :=
  w.toList.isPrefixOf t && !(t.drop w.length).head?.any fun c => isNameChar c

/-- the reading behind a character that is not quoted, given that character and what follows -/
def ScriptReading.next (s : ScriptReading) (t : Text) : ScriptReading :=
  match t with
  | [] => s
  | c :: _ =>
    let s := { s with isFresh := isMeta c }
    if [';', '&', '|', '(', ')', '\n'].contains c then { s with command := some 0 }
    else
      match s.command with
      | none => s
      | some (n + 1) => { s with command := some n }
      | some 0 =>
        if c = ' ' ∨ c = '\t' then s
        else if beginsWord "case" t then { s with command := none, choices := s.choices + 1 }
        else if beginsWord "esac" t then { s with command := none, choices := s.choices - 1 }
        else
          match ["do", "then", "else", "elif", "if", "while", "until"].find? (beginsWord · t) with
          | some w => { s with command := some (w.length - 1) }
          | none => if c = '\x7b' ∨ c = '!' then s else { s with command := none }

/-- the script of `$(…)`, behind its opening, up to the bracket that closes it -/
def readScript (e : Enclosure) (depth : Nat) (s : ScriptReading) : Text → Option (Text × Text)
  | [] => none
  | '\\' :: c :: t =>
    let e' :=
      match e, c with
      | .single, '\'' => .bare
      | .comment, '\n' => .bare
      | e, _ => e
    (readScript e' depth { s with command := none, isFresh := false } t).map fun r =>
      ('\\' :: c :: r.1, r.2)
  | c :: t =>
    let keep (e : Enclosure) (depth : Nat) (s : ScriptReading) : Option (Text × Text) :=
      (readScript e depth s t).map fun r => (c :: r.1, r.2)
    let s' := s.next (c :: t)
    match e, c with
    | .bare, '\'' => keep .single depth s'
    | .single, '\'' => keep .bare depth s
    | .bare, '"' => keep .double depth s'
    | .double, '"' => keep .bare depth s
    | .bare, '#' => keep (if s.isFresh then .comment else .bare) depth s'
    | .comment, '\n' => keep .bare depth s'
    | .bare, '(' => keep .bare (depth + 1) s'
    | .bare, ')' =>
      match depth with
      | 0 => if s.choices = 0 then some ([], t) else keep .bare 0 s'
      | d + 1 => keep .bare d s'
    | .bare, _ => keep .bare depth s'
    | e, _ => keep e depth s

/-! ## words -/

/-- what ends a text in which double quotes hold -/
inductive Terminator where
  | quote
  | brace
  /-- the end of the text itself -/
  | none
  deriving DecidableEq

/-- what is made of a parameter, by the operator behind its name, whether that takes a pattern,
which quotes around it all do not quote, and the text behind -/
def readUse (t : Text) : Option ((Word → Use) × Bool × Text) :=
  let (emptyToo, r) := match t with | ':' :: r => (true, r) | r => (false, r)
  match r with
  | '-' :: r => some (.orElse emptyToo, false, r)
  | '=' :: r => some (.orAssign emptyToo, false, r)
  | '?' :: r => some (.orFail emptyToo, false, r)
  | '+' :: r => some (.andThen emptyToo, false, r)
  | c :: c' :: r' =>
    if emptyToo ∨ (c ≠ '%' ∧ c ≠ '#') then none
    else if c' = c then some (.without (c = '%') true, true, r')
    else some (.without (c = '%') false, true, c' :: r')
  | _ => none

/-- the name of a parameter at the front of a text, and the rest; an empty name is none -/
def readName (t : Text) : Text × Text :=
  match t with
  | c :: r =>
    if isNameStart c then (c :: r.takeWhile isNameChar, r.dropWhile isNameChar)
    else if c.isDigit then (c :: r.takeWhile Char.isDigit, r.dropWhile Char.isDigit)
    else if isSpecial c then ([c], r)
    else ([], t)
  | [] => ([], [])

/-- the rest behind a closing brace -/
def behindBrace (t : Text) : Except SyntaxError Text :=
  match t.dropWhile (· ≠ '\x7d') with
  | _ :: rest => .ok rest
  | [] => .error .missingBrace

/-- how many lines a part of a script goes down, which is what is left of `t` before `rest` -/
def linesBetween (t rest : Text) : Nat := (t.take (t.length - rest.length)).count '\n'

/-- the line behind a character -/
def lineBehind (line : Nat) (c : Char) : Nat := if c = '\n' then line + 1 else line

/-- whether the last part, the first in reverse, is a script that goes on to the end of the text -/
def isUnclosed : Word → Bool
  | .output .unclosed _ _ _ :: _ => true
  | _ => false

mutual

/-- a word at the front of a text, which begins on a line; the parts are collected in reverse -/
def readBare (fuel line : Nat) (inBraces : Bool) (parts : Word) (t : Text) :
    Except SyntaxError (Word × Text) :=
  match fuel with
  | 0 => .ok (parts.reverse, t)
  | fuel + 1 =>
    match t with
    | [] =>
      if inBraces ∧ ¬ isUnclosed parts then .error .missingBrace else .ok (parts.reverse, [])
    | '\'' :: r =>
      match readSingle r with
      | some (s, rest) =>
        readBare fuel (line + s.count '\n') inBraces (.literal s true :: parts) rest
      | none => .error .unterminatedQuote
    | '"' :: r =>
      match readDouble fuel line .quote (.literal [] true :: parts) r with
      | .error e => .error e
      | .ok (parts', rest) => readBare fuel (line + linesBetween r rest) inBraces parts' rest
    | '\\' :: '\n' :: r => readBare fuel (line + 1) inBraces parts r
    | '\\' :: c :: r => readBare fuel line inBraces (.literal [c] true :: parts) r
    | '$' :: r =>
      match readDollar fuel line false r with
      | .error e => .error e
      | .ok (p, rest) => readBare fuel (line + linesBetween r rest) inBraces (p :: parts) rest
    | '\x60' :: r =>
      match readBackquoted false r with
      | some (s, rest) =>
        readBare fuel (line + linesBetween r rest) inBraces (.output .backquotes s 1 false :: parts) rest
      | none => .error .unterminatedBackquote
    | c :: r =>
      if inBraces ∧ c = '\x7d' then .ok (parts.reverse, r)
      else if ¬ inBraces ∧ isMeta c then .ok (parts.reverse, c :: r)
      else readBare fuel (lineBehind line c) inBraces (.literal [c] false :: parts) r

/-- the parts of a text in which double quotes hold, in reverse, in front of those before it -/
def readDouble (fuel line : Nat) (terminator : Terminator) (parts : Word) (t : Text) :
    Except SyntaxError (Word × Text) :=
  match fuel with
  | 0 => .ok (parts, t)
  | fuel + 1 =>
    match t with
    | [] =>
      match terminator, isUnclosed parts with
      | .quote, false => .error .unterminatedQuote
      | .brace, false => .error .missingBrace
      | _, _ => .ok (parts, [])
    | '\\' :: '\n' :: r => readDouble fuel (line + 1) terminator parts r
    | '\\' :: c :: r =>
      if ['$', '\x60', '\\'].contains c || (terminator ≠ .none && c = '"')
          || (terminator = .brace && c = '\x7d') then
        readDouble fuel line terminator (.literal [c] true :: parts) r
      else readDouble fuel line terminator (.literal ['\\', c] true :: parts) r
    | '$' :: r =>
      match readDollar fuel line true r with
      | .error e => .error e
      | .ok (p, rest) => readDouble fuel (line + linesBetween r rest) terminator (p :: parts) rest
    | '\x60' :: r =>
      match readBackquoted (terminator ≠ .none) r with
      | some (s, rest) =>
        readDouble fuel (line + linesBetween r rest) terminator (.output .backquotes s 1 true :: parts) rest
      | none => .error .unterminatedBackquote
    | c :: r =>
      match terminator, c with
      | .quote, '"' => .ok (parts, r)
      | .brace, '\x7d' => .ok (parts, r)
      | .brace, '"' => readDouble fuel line terminator parts r
      | _, _ => readDouble fuel (lineBehind line c) terminator (.literal [c] true :: parts) r

/-- what a dollar sign stands in front of: a part, and the rest -/
def readDollar (fuel line : Nat) (quoted : Bool) (t : Text) : Except SyntaxError (Part × Text) :=
  match fuel with
  | 0 => .ok (.literal ['$'] quoted, t)
  | fuel + 1 =>
    match t with
    | '(' :: '(' :: r =>
      match readExpression 0 r with
      | none => .error .missingBrackets
      | some (e, rest) =>
        (readDouble fuel line .none [] e).map fun w => (.arithmetic w.1.reverse quoted, rest)
    | '(' :: r =>
      match readScript .bare 0 {} r with
      | none => .ok (.output .unclosed r line quoted, [])
      | some (s, rest) => .ok (.output .brackets s line quoted, rest)
    | '\x7b' :: '#' :: '\x7d' :: r => .ok (.parameter ['#'] .value quoted, r)
    | '\x7b' :: '#' :: r =>
      match readName r with
      | (c :: name, '\x7d' :: rest) => .ok (.parameter (c :: name) .length quoted, rest)
      | _ => (behindBrace r).map fun rest => (.parameter [] .bad quoted, rest)
    | '\x7b' :: r =>
      match readName r with
      | (c :: name, '\x7d' :: rest) => .ok (.parameter (c :: name) .value quoted, rest)
      | ([], _) => (behindBrace r).map fun rest => (.parameter [] .bad quoted, rest)
      | (name, r') =>
        match readUse r' with
        | none => (behindBrace r').map fun rest => (.parameter name .bad quoted, rest)
        | some (use, takesPattern, r'') =>
          if quoted ∧ ¬ takesPattern then
            (readDouble fuel line .brace [] r'').map fun w =>
              (.parameter name (use w.1.reverse) quoted, w.2)
          else
            (readBare fuel line true [] r'').map fun w => (.parameter name (use w.1) quoted, w.2)
    | c :: r =>
      if isNameStart c then
        .ok (.parameter (c :: r.takeWhile isNameChar) .value quoted, r.dropWhile isNameChar)
      else if c.isDigit ∨ isSpecial c then .ok (.parameter [c] .value quoted, r)
      else .ok (.literal ['$'] quoted, c :: r)
    | [] => .ok (.literal ['$'] quoted, [])

end

/-- joins literals that stand next to each other and are quoted alike -/
def joinLiterals : Word → Word
  | [] => []
  | .literal a q :: w =>
    match joinLiterals w with
    | .literal b q' :: w' =>
      if q = q' then .literal (a ++ b) q :: w' else .literal a q :: .literal b q' :: w'
    | w' => .literal a q :: w'
  | p :: w => p :: joinLiterals w

/-- the text of a word that is all literal -/
def literalText : Word → Text
  | .literal t _ :: w => t ++ literalText w
  | _ => []

def isQuoted (w : Word) : Bool :=
  w.any fun p => match p with | .literal _ q => q | _ => false

/-! ## operators and redirections -/

/-- a redirection at the front of a text: an operator, perhaps behind the number of a channel -/
def redirect? (t : Text) : Option (Nat × Text × Text) :=
  let (channel, r) :=
    match t with
    | c :: r => if c.isDigit then (some (c.toNat - '0'.toNat), r) else (none, t)
    | [] => (none, t)
  let find (operators : List String) (default : Nat) : Option (Nat × Text × Text) :=
    operators.findSome? fun o =>
      if o.toList.isPrefixOf r then some (channel.getD default, o.toList, r.drop o.length)
      else none
  (find [">&", ">>", ">|", ">"] 1).or (find ["<<-", "<<", "<&", "<>", "<"] 0)

/-- an operator at the front of a text -/
def operator? (t : Text) : Option (Text × Text) :=
  ["&&", "||", ";;", ";", "&", "|", "(", ")"].findSome? fun o =>
    if o.toList.isPrefixOf t then some (o.toList, t.drop o.length) else none

/-- whether a word follows an operator, perhaps behind blanks -/
def beginsGoal (t : Text) : Bool :=
  (t.dropWhile fun c => c = ' ' || c = '\t').head?.any fun c => !isMeta c

/-- the lines up to one that is a delimiter, the text behind that, and how many lines went; where
backslashes join lines, a line behind one is no delimiter -/
def takeBody (stripsTabs joins : Bool) (delimiter t : Text) : Text × Text × Nat :=
  let strip (p : Text) : Text := if stripsTabs then p.dropWhile (· = '\t') else p
  let ends (p : Text) : Bool := strip p = delimiter || strip p = delimiter ++ ['\n']
  let continues (p : Text) : Bool :=
    joins && p.getLast? = some '\n' && (p.reverse.tail.takeWhile (· = '\\')).length % 2 = 1
  let rec count : (afterJoin : Bool) → List Text → Nat
    | _, [] => 0
    | afterJoin, p :: ps => if !afterJoin && ends p then 0 else count (continues p) ps + 1
  let ps := Text.pieces t
  let n := count false ps
  (((ps.take n).map strip).flatten, (ps.drop (n + 1)).flatten, min (n + 1) ps.length)

/-- a text of a script behind its operator: its parts, and the script without it and its
delimiter; the count is that of its lines -/
def readHere (line : Nat) (stripsTabs : Bool) (t : Text) :
    Except SyntaxError (Word × Text × Nat) :=
  match readBare (2 * t.length + 4) line false [] (t.dropWhile fun c => c = ' ' || c = '\t') with
  | .error e => .error e
  | .ok (w, rest) =>
    let end' := rest.takeWhile (· ≠ '\n')
    let (body, behind, count) :=
      takeBody stripsTabs (!isQuoted w) (literalText w) (rest.drop (end'.length + 1))
    let rest' := end' ++ '\n' :: behind
    if isQuoted w then .ok ([.literal body true], rest', count)
    else
      (readDouble (2 * body.length + 4) (line + 1) .none [] body).map fun r =>
        (r.1.reverse, rest', count)

/-! ## scripts -/

/-- the tokens of a script from a line on, and the error that ends them; `hidden` lines have been
taken from behind the line -/
def tokens : (fuel : Nat) → (line hidden : Nat) → Text →
    List Placed × Option (SyntaxError × Nat)
  | 0, _, _, _ => ([], none)
  | _ + 1, _, _, [] => ([], none)
  | fuel + 1, line, hidden, c :: r =>
    let emit (p : Token) (lastLine hidden : Nat) (rest : Text) :
        List Placed × Option (SyntaxError × Nat) :=
      let (ps, e) := tokens fuel lastLine hidden rest
      (⟨p, line, lastLine⟩ :: ps, e)
    if c = ' ' ∨ c = '\t' then tokens fuel line hidden r
    else if c = '\n' then emit .newline (line + 1 + hidden) 0 r
    else if c = '#' then tokens fuel line hidden (r.dropWhile (· ≠ '\n'))
    else
      match redirect? (c :: r) with
      | some (n, o, rest) =>
        if "<<".toList.isPrefixOf o ∧ beginsGoal rest then
          match readHere (line + hidden) (o.length = 3) rest with
          | .error e => ([], some (e, line))
          | .ok (body, rest', count) => emit (.here n body) line (hidden + count) rest'
        else emit (.redirect n o) line hidden rest
      | none =>
        match operator? (c :: r) with
        | some (o, rest) => emit (.operator o) line hidden rest
        | none =>
          match readBare (2 * r.length + 4) line false [] (c :: r) with
          | .error e => ([], some (e, line + r.count '\n'))
          | .ok (w, rest) =>
            let line' := line + linesBetween (c :: r) rest
            if w.isEmpty then tokens fuel line' hidden rest
            else emit (.word (joinLiterals w)) line' hidden rest

end Workbench.Shell
