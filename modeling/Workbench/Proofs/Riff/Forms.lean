import Workbench.Proofs.Pattern.Held
import Workbench.Riff.Rules

/-!
# The expressions of the patterns of Riff

Each pattern of the rule table, read once and for all: `forms` lists the patterns with the
expressions that they denote, and `parse_form` says that reading gives these.  What is proved about
the rules is proved about the expressions listed here, so a pattern that changes changes one line.

Reading and what it decides (that a match is found by trying the ways in order, `few_forms`) are
evaluated here and nowhere else.
-/

namespace Workbench.Riff

open Workbench.Pattern (CharSet Regex)

namespace Form

/-! ## sets -/

def notNewline : CharSet := .ofTable [(0, 9), (11, 0x10FFFF)]

/-- blanks that end no line -/
def blank : CharSet := .ofTable [(0x09, 0x09), (0x0B, 0x0D), (0x20, 0x20), (0x85, 0x85),
  (0xA0, 0xA0), (0x1680, 0x1680), (0x2000, 0x200A), (0x2028, 0x2029), (0x202F, 0x202F),
  (0x205F, 0x205F), (0x3000, 0x3000)]

def digit : CharSet := .ofTable [(0x30, 0x39)]
def digitOrScore : CharSet := .ofTable [(0x30, 0x39), (0x5F, 0x5F)]
def octalDigit : CharSet := .ofTable [(0x30, 0x37)]
def hexDigit : CharSet := .ofTable [(0x30, 0x39), (0x41, 0x46), (0x61, 0x66)]
def hexDigitOrScore : CharSet := .ofTable [(0x30, 0x39), (0x41, 0x46), (0x5F, 0x5F), (0x61, 0x66)]
def letter : CharSet := .ofTable [(0x41, 0x5A), (0x61, 0x7A)]
def letterOrScore : CharSet := .ofTable [(0x41, 0x5A), (0x5F, 0x5F), (0x61, 0x7A)]
def wordChar : CharSet := .ofTable [(0x30, 0x39), (0x41, 0x5A), (0x5F, 0x5F), (0x61, 0x7A)]

/-- the set of the characters of a text -/
def oneOf (t : Text) : CharSet := t.foldl (fun s c => s.union (.single c)) .none

/-- every character but those of a text -/
def noneOf (t : Text) : CharSet := (oneOf t).compl

/-! ## repetitions -/

def star (s : CharSet) : Regex := .rep 0 none true (.set s)
def plus (s : CharSet) : Regex := .rep 1 none true (.set s)
def optional (r : Regex) : Regex := .rep 0 (some 1) true r

/-- between one and `n` characters of a set -/
def upTo (n : Nat) (s : CharSet) : Regex := .rep 1 (some n) true (.set s)

/-! ## numbers -/

def boundary : Regex := .look (.word true .boundary)

/-- an exponent behind one of the given letters -/
def exponent (marks : CharSet) : Regex :=
  optional (.chain [.set marks, optional (.set (oneOf ['+', '-'])), .set digit, star digitOrScore])

def binary : Regex :=
  .chain [boundary, .text ['0'], .set (oneOf ['B', 'b']), star (oneOf ['0', '1', '_'])]

def hexFloat : Regex :=
  .chain [boundary, .text ['0'], .set (oneOf ['X', 'x']), star hexDigitOrScore,
    optional (.text ['.']), .set hexDigit, star hexDigitOrScore, exponent (oneOf ['P', 'p'])]

def decimalFloat : Regex :=
  .chain [boundary, optional (.seq (.set digit) (star digitOrScore)), optional (.text ['.']),
    .set digit, star digitOrScore, exponent (oneOf ['E', 'e'])]

def fraction : Regex :=
  .chain [.text ['.'], .set digit, star digitOrScore, exponent (oneOf ['E', 'e'])]

def hexInteger : Regex :=
  .chain [boundary, .text ['0'], .set (oneOf ['X', 'x']), star hexDigitOrScore]

def decimalInteger : Regex := .chain [boundary, .set digit, star digitOrScore]

/-! ## inside literals -/

def escape : Regex :=
  .fork [.seq (.text ['\\']) (.set (oneOf "\\abefnrtv'\"".toList)),
    .seq (.text ['\\', 'x']) (upTo 2 hexDigit),
    .seq (.text ['\\']) (upTo 3 octalDigit)]

def unicodeEscape : Regex :=
  .fork [.seq (.text ['\\', 'u']) (upTo 4 hexDigit), .seq (.text ['\\', 'U']) (upTo 8 hexDigit)]

def formatSpec : Regex :=
  .fork [.text ['%', '%'],
    .chain [.text ['%'], star (oneOf ['-', '+', ' ', '0']),
      optional (.alt (.text ['*']) (star digit)),
      optional (.seq (.text ['.']) (optional (.alt (star digit) (.text ['*'])))),
      .set (oneOf "aAcdeEfFgGiosxX".toList)]]

/-! ## words and operators -/

/-- one of the given words -/
def word (ws : List String) : Regex := .fork (ws.map fun w => .text w.toList)

def builtins : Regex :=
  .seq (word ["abs", "atan", "ceil", "cos", "exp", "int", "log", "sin", "sqrt", "tan", "rand",
    "srand", "byte", "char", "fmt", "hex", "lower", "num", "split", "type", "upper"]) boundary

def nullWord : Regex := .seq (.text "null".toList) boundary

def keywords : Regex :=
  .seq (word ["break", "continue", "exit", "fn", "local", "print", "return", "elif", "else", "if",
    "do", "for", "loop", "while", "in"]) boundary

def identifier : Regex := .seq (.set letterOrScore) (star wordChar)

def closer : Regex := .set (oneOf [')', ']'])

def operators : Regex :=
  .fork [.seq (.text ['*', '*']) (optional (.text ['='])),
    .seq (.text ['<', '<']) (optional (.text ['='])),
    .seq (.text ['>', '>']) (optional (.text ['='])),
    .text ['&', '&'], .text ['|', '|'], .text ['+', '+'], .text ['-', '-'], .text ['!', '~'],
    .seq (.set (oneOf "-+*%&|^<>=!".toList)) (.text ['=']),
    .set (oneOf "-+*%&|^~!<>=?:#.,;".toList), .set (oneOf "([\x7b\x7d".toList)]

/-! ## regular expression literals -/

/-- an escaped character, or one that needs no escape -/
def regexItem : Regex :=
  .alt (.seq (.text ['\\']) (.set notNewline)) (.set (noneOf ['\\', '/', '\n']))

def regexItems : Regex := .rep 0 none true regexItem

def regexEnd : Regex := .chain [regexItems, .text ['/'], star letter]

/-! ## the rest -/

def lineComment : Regex := .seq (.text ['/', '/']) (star notNewline)

def anything : Regex := optional (.set notNewline)

end Form

/-! ## patterns and expressions -/

/-- the patterns of the table with the expressions that they denote -/
def forms : List (String × Regex) :=
  [(Pattern.blanks, Form.plus Form.blank),
    (Pattern.newline, .text ['\n']),
    (Pattern.lineComment, Form.lineComment),
    (Pattern.commentOpen, .text ['/', '*']),
    (Pattern.commentClose, .text ['*', '/']),
    ("[^/*\\n]+", Form.plus (Form.noneOf ['/', '*', '\n'])),
    (Pattern.regexWhole, .seq (.text ['/']) Form.regexEnd),
    (Pattern.regexOpen, .seq (.text ['/']) Form.regexItems),
    (Pattern.regexEnd, Form.regexEnd),
    (Pattern.regexInside, .rep 1 none true Form.regexItem),
    ("/=", .text ['/', '=']),
    ("/", .text ['/']),
    ("\"", .text ['"']),
    ("'", .text ['\'']),
    (Pattern.binary, Form.binary),
    (Pattern.hexFloat, Form.hexFloat),
    (Pattern.decimalFloat, Form.decimalFloat),
    (Pattern.fraction, Form.fraction),
    (Pattern.hexInteger, Form.hexInteger),
    (Pattern.decimalInteger, Form.decimalInteger),
    (Pattern.range, .text ['.', '.']),
    (Pattern.builtins, Form.builtins),
    (Pattern.nullWord, Form.nullWord),
    (Pattern.keywords, Form.keywords),
    (Pattern.identifier, Form.identifier),
    (Pattern.closer, Form.closer),
    (Pattern.operators, Form.operators),
    (Pattern.formatSpec, Form.formatSpec),
    (Pattern.escape, Form.escape),
    (Pattern.unicodeEscape, Form.unicodeEscape),
    ("[^\"\\\\%\\n]+", Form.plus (Form.noneOf ['"', '\\', '%', '\n'])),
    ("[^'\\\\\\n]+", Form.plus (Form.noneOf ['\'', '\\', '\n'])),
    (Pattern.anything, Form.anything)]

theorem toOption_parse_forms :
    ∀ e ∈ forms, (Regex.parse (Scanner.anchor e.1)).toOption = some (.held e.2) := by
  decide +kernel

theorem few_forms : ∀ e ∈ forms, (Regex.held e.2).hasFewWays = true := by decide +kernel

theorem parse_form {e : String × Regex} (he : e ∈ forms) :
    Regex.parse (Scanner.anchor e.1) = .ok (.held e.2) := by
  have h := toOption_parse_forms e he
  cases hp : Regex.parse (Scanner.anchor e.1) with
  | error err => rw [hp] at h; cases h
  | ok r => rw [hp] at h; exact congrArg Except.ok (Option.some.inj h)

/-! ## the expression of a pattern -/

/-- the expression of a pattern of the table -/
def form (pattern : String) : Regex := (forms.lookup pattern).getD .empty

theorem isSome_lookup_forms : ∀ s ∈ State.all, ∀ spec ∈ rulesOf s,
    (forms.lookup spec.pattern).isSome = true := by
  decide +kernel

theorem form_mem {s : State} {spec : Spec} (h : spec ∈ rulesOf s) :
    (spec.pattern, form spec.pattern) ∈ forms := by
  have hs : s ∈ State.all := List.mem_of_getElem? (State.all_index s)
  obtain ⟨r, hr⟩ := Option.isSome_iff_exists.1 (isSome_lookup_forms s hs spec h)
  obtain ⟨l₁, l₂, hl, -⟩ := List.lookup_eq_some_iff.1 hr
  rw [form, hr, Option.getD_some, hl]
  exact List.mem_append_right _ List.mem_cons_self

/-- a declared pattern is read as its expression, held at the start of the text -/
theorem parse_pattern {s : State} {spec : Spec} (h : spec ∈ rulesOf s) :
    Regex.parse (Scanner.anchor spec.pattern) = .ok (form spec.pattern).held := by
  have hp := parse_form (form_mem h)
  dsimp only at hp
  exact hp

theorem few_pattern {s : State} {spec : Spec} (h : spec ∈ rulesOf s) :
    (form spec.pattern).held.hasFewWays = true := by
  have hf := few_forms _ (form_mem h)
  dsimp only at hf
  exact hf

end Workbench.Riff
