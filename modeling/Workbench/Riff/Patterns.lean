/-!
# The patterns of Riff

One pattern for each lexical form.  No pattern but the newline's own crosses a newline, which is
what makes a scan by lines the same as a scan of the whole.  Braces are written by their code.
-/

namespace Workbench.Riff.Pattern

/-! ## numbers -/

def binary : String := "\\b0[bB][01_]*"

/-- a hexadecimal number with an optional fraction and an optional binary exponent -/
def hexFloat : String :=
  "\\b0[xX][0-9A-Fa-f_]*\\.?[0-9A-Fa-f][0-9A-Fa-f_]*(?:[pP][+-]?[0-9][0-9_]*)?"

/-- a decimal number; its integer part, point and exponent are optional, one digit is not -/
def decimalFloat : String :=
  "\\b(?:[0-9][0-9_]*)?\\.?[0-9][0-9_]*(?:[eE][+-]?[0-9][0-9_]*)?"

/-- a fraction alone; the digit behind the point keeps it apart from a range operator -/
def fraction : String := "\\.[0-9][0-9_]*(?:[eE][+-]?[0-9][0-9_]*)?"

def hexInteger : String := "\\b0[xX][0-9A-Fa-f_]*"

def decimalInteger : String := "\\b[0-9][0-9_]*"

/-- the forms of a number, in the order in which they are tried -/
def numbers : List String :=
  [binary, hexFloat, decimalFloat, fraction, hexInteger, decimalInteger]

/-! ## inside literals -/

/-- a one-letter escape, a byte by hexadecimal digits, or a character by octal digits -/
def escape : String :=
  "\\\\[\\\\abefnrtv'\"]|\\\\x[0-9A-Fa-f]\x7b1,2\x7d|\\\\[0-7]\x7b1,3\x7d"

def unicodeEscape : String := "\\\\u[0-9A-Fa-f]\x7b1,4\x7d|\\\\U[0-9A-Fa-f]\x7b1,8\x7d"

/-- a format specifier: flags, width, precision and a conversion, or a doubled percent sign -/
def formatSpec : String :=
  "%%|%[-+ 0]*(?:\\*|[0-9]*)?(?:\\.(?:[0-9]*|\\*)?)?[aAcdeEfFgGiosxX]"

/-! ## words -/

def builtins : String :=
  "(?:abs|atan|ceil|cos|exp|int|log|sin|sqrt|tan" ++ "|rand|srand"
    ++ "|byte|char|fmt|hex|lower|num|split|type|upper)\\b"

def nullWord : String := "null\\b"

def keywords : String :=
  "(?:break|continue|exit|fn|local|print|return" ++ "|elif|else|if" ++ "|do|for|loop|while"
    ++ "|in)\\b"

def identifier : String := "[A-Za-z_][A-Za-z0-9_]*"

/-! ## operators -/

def range : String := "\\.\\."

def closer : String := "[)\\]]"

/-- the longer operators come first -/
def operators : String :=
  "\\*\\*=?|<<=?|>>=?|&&|\\|\\||\\+\\+|--|!~" ++ "|[-+*%&|^<>=!]="
    ++ "|[-+*%&|^~!<>=?:#.,;]|[(\\[\x7b\x7d]"

/-! ## regular expression literals -/

/-- a literal that ends on its line, with its flags -/
def regexWhole : String := "/(?:\\\\.|[^\\\\/\\n])*/[A-Za-z]*"

/-- a literal that does not: it goes on in the state of its inside -/
def regexOpen : String := "/(?:\\\\.|[^\\\\/\\n])*"

/-- the last line of a literal that began on an earlier one -/
def regexEnd : String := "(?:\\\\.|[^\\\\/\\n])*/[A-Za-z]*"

def regexInside : String := "(?:\\\\.|[^\\\\/\\n])+"

/-! ## the rest -/

def blanks : String := "[^\\S\\n]+"

def newline : String := "\\n"

def lineComment : String := "//[^\\n]*"

def commentOpen : String := "/\\*"

def commentClose : String := "\\*/"

/-- one character, or nothing before a newline -/
def anything : String := ".?"

end Workbench.Riff.Pattern
