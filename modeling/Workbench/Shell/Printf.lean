import Workbench.Shell.Floating

/-!
# Formats

A format is copied to the output, with its escapes read and its directives replaced by the arguments
one after another.  Missing arguments are empty or zero; as long as arguments are left, the format
is used again from its beginning.
-/

namespace Workbench.Shell

open Text (Bytes)

/-- how a command reads formats: the escapes, the precision of numbers with a fraction, and whether
directives are `strict`: then the size of a number may be written before the letter and is skipped,
and a flag that does not go with the letter is refused -/
structure FormatStyle where
  escapes : EscapeStyle
  precision : Precision
  strict : Bool

/-- a width or a precision, which may be left to an argument -/
inductive Extent where
  | number (n : Nat)
  | argument

/-- a directive of a format: flags, a least width, a greatest precision and a letter -/
structure Directive where
  flags : List Char
  width : Extent
  precision : Option Extent
  letter : Char

inductive Piece where
  | bytes (b : Bytes)
  | directive (d : Directive)
  /-- nothing more is written -/
  | stop

def isFlag (s : FormatStyle) (c : Char) : Bool :=
  ['#', '-', '+', ' ', '0'].contains c || (s.strict && (c = '\'' || c = 'I'))

def readExtent (t : Text) : Extent × Text :=
  match t with
  | '*' :: r => (.argument, r)
  | r =>
    let (n, rest) := leadingNumber 10 9 0 r
    (.number n, rest)

/-- the letters that say how large a number is -/
def isSizeLetter (c : Char) : Bool := ['h', 'j', 'l', 'L', 't', 'z'].contains c

/-- reads a directive, behind its percent sign -/
def readDirective (s : FormatStyle) (t : Text) : Option (Directive × Text) :=
  let flags := t.takeWhile (isFlag s)
  let (width, afterWidth) := readExtent (t.dropWhile (isFlag s))
  let (precision, rest) :=
    match afterWidth with
    | '.' :: r => let (p, rest) := readExtent r; (some p, rest)
    | r => (none, r)
  match if s.strict then rest.dropWhile isSizeLetter else rest with
  | [] => none
  | c :: r => some (⟨flags, width, precision, c⟩, r)

def isFloatLetter (c : Char) : Bool := "aAeEfFgG".toList.contains c

/-- whether a directive can be written.  Escapes in an argument are read by a directive that is
nothing but its letter, if directives are strict. -/
def Directive.isKnown (s : FormatStyle) (d : Directive) : Bool :=
  let lacks (flags : List Char) : Bool := !s.strict || !flags.any d.flags.contains
  match d.letter with
  | 'd' | 'i' | 'u' => lacks ['#']
  | 'f' | 'F' | 'g' | 'G' => true
  | 'o' | 'x' | 'X' | 'a' | 'A' | 'e' | 'E' => lacks ['\'', 'I']
  | 's' => lacks ['\'', 'I', '#', '0']
  | 'c' => lacks ['\'', 'I', '#', '0'] && !(s.strict && d.precision.isSome)
  | 'b' => !s.strict
  | _ => false

/-- the pieces of a format; the text that is no directive but should be is returned as an error -/
def readFormat (s : FormatStyle) (format : Text) : List Piece × Option Text :=
  let rec go : (fuel : Nat) → Text → List Piece × Option Text
    | 0, _ => ([], none)
    | _ + 1, [] => ([], none)
    | fuel + 1, c :: r =>
      let cons (p : Piece) (rest : Text) : List Piece × Option Text :=
        let (ps, e) := go fuel rest
        (p :: ps, e)
      if c = '\\' then
        match readEscape s.escapes r with
        | .stop => ([.stop], none)
        | .byte b rest => cons (.bytes [b]) rest
        | .none => cons (.bytes [92]) r
      else if c = '%' then
        match r with
        | '%' :: rest => cons (.bytes [37]) rest
        | 'b' :: rest => cons (.directive ⟨[], .number 0, none, 'b'⟩) rest
        | _ =>
          match readDirective s r with
          | none => ([], some (c :: r))
          | some (d, rest) =>
            if d.isKnown s then cons (.directive d) rest
            else ([], some ((c :: r).take (r.length + 1 - rest.length)))
      else cons (.bytes (Octets.toBytes [c])) r
  go (format.length + 1) format

/-! ## directives -/

/-- what is wrong with an argument that should be a number -/
inductive Misfit where
  | noNumber
  /-- something follows the number -/
  | continued
  | outOfRange
  /-- bytes that follow a quoted character; the number stands all the same -/
  | ignored (rest : Bytes)
  deriving DecidableEq

def Misfit.isFault : Misfit → Bool
  | .ignored _ => false
  | _ => true

/-- what is said of a number: one that is out of range and followed by something is only said to be
out of range if directives are strict, and only to be followed by something if not -/
def FormatStyle.misfit (s : FormatStyle) (outOfRange continued : Bool) : Option Misfit :=
  if outOfRange && (s.strict || !continued) then some .outOfRange
  else if continued then some .continued
  else none

/-- the number of the byte that is written behind a quote -/
def quotedByte? (s : FormatStyle) (t : Text) : Option (Nat × Option Misfit) :=
  let rest : Option Text :=
    match t with
    | '"' :: r | '\'' :: r => some r
    | _ => none
  rest.map fun r =>
    match Octets.toBytes r with
    | [] => (0, if s.strict then some .noNumber else none)
    | b :: rest => (b.toNat, if s.strict ∧ rest ≠ [] then some (.ignored rest) else none)

/-- the number that an argument is written as, and what is wrong with it -/
def argumentNumber (s : FormatStyle) (signed : Bool) (t : Text) : Int × Option Misfit :=
  match t, quotedByte? s t with
  | [], _ => (0, none)
  | _, some (n, misfit) => (n, misfit)
  | _, none =>
    let (negative, digits) := readSign (t.dropWhile isSpace)
    let (n, rest) := readNumber digits
    let value := if negative then -n else n
    let least : Int := if signed then -Int.pow 2 63 else -(Int.pow 2 64 - 1)
    let greatest : Int := if signed then Int.pow 2 63 - 1 else Int.pow 2 64 - 1
    if rest.length = digits.length then (0, some .noNumber)
    else
      (max least (min value greatest),
        s.misfit (value < least || greatest < value) (!rest.isEmpty))

/-- the number with a fraction that an argument is written as, and what is wrong with it -/
def argumentFloating (s : FormatStyle) (t : Text) : Floating × Option Misfit :=
  match t, quotedByte? s t with
  | [], _ => (.zero, none)
  | _, some (n, misfit) => (.ofInt s.precision n, misfit)
  | _, none =>
    match readFloating s.precision t with
    | none => (.zero, some .noNumber)
    | some r => (r.value, s.misfit r.outOfRange (!r.rest.isEmpty))

/-- a directive whose width and precision are known -/
structure Layout where
  flags : List Char
  width : Nat
  precision : Option Nat

/-- puts blanks around a text up to the width, or zeros behind its sign if they are wanted -/
def Layout.pad (l : Layout) (zeros : Bool) (sign body : Bytes) : Bytes :=
  let missing := l.width - (sign.length + body.length)
  if l.flags.contains '-' then sign ++ body ++ List.replicate missing 32
  else if l.flags.contains '0' ∧ zeros then sign ++ List.replicate missing 48 ++ body
  else List.replicate missing 32 ++ sign ++ body

/-- the sign of a number that can have one -/
def Layout.sign (l : Layout) (negative : Bool) : Text :=
  if negative then ['-']
  else if l.flags.contains '+' then ['+']
  else if l.flags.contains ' ' then [' ']
  else []

/-- a number as the letter of a directive writes it -/
def Layout.writeNumber (l : Layout) (letter : Char) (n : Int) : Bytes :=
  let unsigned : Nat := if n < 0 then (Int.pow 2 64 + n).toNat else n.toNat
  let (negative, digits) :=
    match letter with
    | 'o' => (false, Nat.toDigits 8 unsigned)
    | 'u' => (false, Nat.toDigits 10 unsigned)
    | 'x' => (false, Nat.toDigits 16 unsigned)
    | 'X' => (false, (Nat.toDigits 16 unsigned).map Char.toUpper)
    | _ => (decide (n < 0), Nat.toDigits 10 n.natAbs)
  let sign :=
    if letter = 'd' ∨ letter = 'i' then l.sign negative
    else if l.flags.contains '#' ∧ letter = 'o' then ['0']
    else if l.flags.contains '#' ∧ n ≠ 0 ∧ letter = 'x' then ['0', 'x']
    else if l.flags.contains '#' ∧ n ≠ 0 ∧ letter = 'X' then ['0', 'X']
    else []
  let digits := if n = 0 ∧ l.precision = some 0 then [] else digits
  let zeros := List.replicate (l.precision.getD 0 - digits.length) '0'
  l.pad (l.precision = none) (Octets.toBytes sign) (Octets.toBytes (zeros ++ digits))

/-- a number with a fraction as the letter of a directive writes it -/
def Layout.writeFloating (l : Layout) (p : Precision) (letter : Char) (x : Floating) : Bytes :=
  let (mark, digits) := x.size.write p letter.toLower l.precision (l.flags.contains '#')
  let sized (t : Text) : Text := if letter.isUpper then t.map Char.toUpper else t
  let isFinite := match x.size with | .finite _ _ => true | _ => false
  l.pad isFinite (Octets.toBytes (l.sign x.negative ++ sized mark)) (Octets.toBytes (sized digits))

/-- an argument as the letter of a directive writes it: the bytes, whether output ends, and what is
wrong with the argument -/
def Layout.write (s : FormatStyle) (l : Layout) (letter : Char) (argument : Text) :
    Bytes × Bool × Option Misfit :=
  let cut (b : Bytes) : Bytes := match l.precision with | some p => b.take p | none => b
  match letter with
  | 's' => (l.pad false [] (cut (Octets.toBytes argument)), false, none)
  | 'b' =>
    let (b, stop) := expandEscapes { zero := true, stop := true } argument
    (l.pad false [] (cut b), stop, none)
  | 'c' => (l.pad false [] ((Octets.toBytes argument ++ [0]).take 1), false, none)
  | _ =>
    if isFloatLetter letter then
      let (x, misfit) := argumentFloating s argument
      (l.writeFloating s.precision letter x, false, misfit)
    else
      let (n, misfit) := argumentNumber s (letter = 'd' ∨ letter = 'i') argument
      (l.writeNumber letter n, false, misfit)

/-! ## formats -/

/-- what a format writes -/
structure Written where
  bytes : Bytes
  /-- the arguments that are left -/
  arguments : List Text
  stop : Bool
  /-- arguments that are not the numbers that they should be -/
  misfits : List (Text × Misfit)

/-- a number of columns, from an argument if it is left to one; the number may be negative -/
def takeExtent (s : FormatStyle) (e : Extent) (args : List Text) :
    Int × List (Text × Misfit) × List Text :=
  match e with
  | .number n => (n, [], args)
  | .argument =>
    let t := args.headD []
    let (n, misfit) := argumentNumber s true t
    (n, (misfit.map (t, ·)).toList, args.tail)

/-- the layout of a directive, with what is wrong with its arguments, and the others -/
def Directive.layout (s : FormatStyle) (d : Directive) (args : List Text) :
    Layout × List (Text × Misfit) × List Text :=
  let (width, misfits, args) := takeExtent s d.width args
  let (precision, misfits', args) :=
    match d.precision with
    | none => (none, [], args)
    | some e =>
      let (n, misfits, args) := takeExtent s e args
      (if n < 0 then none else some n.toNat, misfits, args)
  let flags := if width < 0 then '-' :: d.flags else d.flags
  (⟨flags, width.natAbs, precision⟩, misfits ++ misfits', args)

/-- one use of a format -/
def writePieces (s : FormatStyle) : List Piece → List Text → Written
  | [], args => ⟨[], args, false, []⟩
  | .stop :: _, args => ⟨[], args, true, []⟩
  | .bytes b :: ps, args =>
    let w := writePieces s ps args
    { w with bytes := b ++ w.bytes }
  | .directive d :: ps, args =>
    let (layout, misfits, args) := d.layout s args
    let t := args.headD []
    let (b, stop, misfit) := layout.write s d.letter t
    let misfits := misfits ++ (misfit.map (t, ·)).toList
    if stop then ⟨b, args.tail, true, misfits⟩
    else
      let w := writePieces s ps args.tail
      { w with bytes := b ++ w.bytes, misfits := misfits ++ w.misfits }

/-- uses a format until the arguments are used up; each further use takes at least one of them -/
def writeAll (s : FormatStyle) (ps : List Piece) : (fuel : Nat) → List Text → Written
  | 0, args => ⟨[], args, false, []⟩
  | fuel + 1, args =>
    let w := writePieces s ps args
    if w.stop ∨ w.arguments = [] ∨ args.length ≤ w.arguments.length then w
    else
      let w' := writeAll s ps fuel w.arguments
      { w' with bytes := w.bytes ++ w'.bytes, misfits := w.misfits ++ w'.misfits }

/-- what a command writes with a format, and the text that is no directive, if there is one -/
def format (s : FormatStyle) (f : Text) (args : List Text) : Written × Option Text :=
  let (pieces, bad) := readFormat s f
  match bad with
  | none => (writeAll s pieces (args.length + 1) args, none)
  | some t => (writePieces s pieces args, some t)

end Workbench.Shell
