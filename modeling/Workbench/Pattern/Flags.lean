import Workbench.Pattern.Form

/-!
# Flags, and the blanks of a pattern

Flags change what the rest of a group means.  With `verbose`, blanks and comments between the parts
of a pattern are skipped; every reader that moves on goes through `skip`, which does nothing
otherwise.

A reader takes the text behind the character that selects it and gives back what it read and the
text that follows.
-/

namespace Workbench.Pattern

/-! ## errors and readers -/

/-- why a pattern is refused -/
inductive PatternError where
  | unclosedGroup
  | unopenedGroup
  | badGroupName
  | nothingToRepeat
  | badRepetition
  | unclosedClass
  | badRange
  | badEscape
  | badFlag
  | lookAround
  | unknownProperty
  | needsUnicode
  | tooNested
  | tooLarge
  deriving DecidableEq, Repr

abbrev Reader (α : Type) := Except PatternError (α × Text)

/-! ## flags -/

/-- an inline flag -/
inductive Flag where
  | ignoreCase
  | multiLine
  | dotAll
  | swapGreed
  | crlf
  | unicode
  | verbose
  deriving DecidableEq, Repr

structure Flags where
  ignoreCase : Bool := false
  multiLine : Bool := false
  dotAll : Bool := false
  swapGreed : Bool := false
  crlf : Bool := false
  unicode : Bool := true
  verbose : Bool := false
  deriving DecidableEq, Repr

namespace Flags

def set (flags : Flags) : Flag × Bool → Flags
  | (.ignoreCase, on) => { flags with ignoreCase := on }
  | (.multiLine, on) => { flags with multiLine := on }
  | (.dotAll, on) => { flags with dotAll := on }
  | (.swapGreed, on) => { flags with swapGreed := on }
  | (.crlf, on) => { flags with crlf := on }
  | (.unicode, on) => { flags with unicode := on }
  | (.verbose, on) => { flags with verbose := on }

def setAll (flags : Flags) (changes : List (Flag × Bool)) : Flags := changes.foldl set flags

/-! ## blanks -/

/-- the text behind blanks and comments; a comment goes from a number sign to the end of its line -/
def skipVerbose : (inComment : Bool) → Text → Text
  | _, [] => []
  | true, c :: t => skipVerbose (c ≠ '\n') t
  | false, c :: t =>
    if Text.isBlank c then skipVerbose false t
    else if c = '#' then skipVerbose true t
    else c :: t

def skip (flags : Flags) (t : Text) : Text := if flags.verbose then skipVerbose false t else t

/-- the characters that belong to a word of the pattern, and the text behind them; blanks may stand
after each -/
def span (flags : Flags) (belongs : Char → Bool) : (fuel : Nat) → Text → Text × Text
  | fuel + 1, c :: t =>
    if belongs c then
      let (word, rest) := flags.span belongs fuel (flags.skip t)
      (c :: word, rest)
    else ([], c :: t)
  | _, t => ([], t)

/-- The character that a hyphen looks ahead to.  Of a comment it sees the number sign only, and at
the end of the pattern it sees the blank next to it. -/
def peek (flags : Flags) (t : Text) : Option Char :=
  if flags.verbose then
    match t.dropWhile Text.isBlank with
    | '#' :: rest => (rest.dropWhile Text.isBlank).head?.or t.head?
    | rest => rest.head?.or t.head?
  else t.head?

/-! ## sets -/

/-- a set without regard to case, if the flags say so -/
def fold (flags : Flags) (s : CharSet) : CharSet :=
  if !flags.ignoreCase then s
  else if flags.unicode then s.ignoreCase
  else s.ignoreAsciiCase

/-- The characters outside a set.  They are always beyond ASCII too, so it takes the Unicode
flag. -/
def negate (flags : Flags) (negated : Bool) (s : CharSet) : Except PatternError CharSet :=
  if !negated then .ok s
  else if flags.unicode then .ok s.compl
  else .error .needsUnicode

/-- what a dot stands for -/
def dot (flags : Flags) : Except PatternError Regex :=
  if !flags.unicode then .error .needsUnicode
  else if flags.dotAll then .ok (.set .all)
  else if flags.crlf then .ok (.set ((CharSet.single '\n').union (.single '\r')).compl)
  else .ok (.set (CharSet.single '\n').compl)

def caret (flags : Flags) : Look := if flags.multiLine then .lineStart flags.crlf else .textStart

def dollar (flags : Flags) : Look := if flags.multiLine then .lineEnd flags.crlf else .textEnd

/-- a character as it stands in a pattern -/
def letter (flags : Flags) (c : Char) : Regex := .ofSet (flags.fold (.single c))

end Flags

end Workbench.Pattern
