import Workbench.Text.Bytes
import Workbench.Text.Classes
import Workbench.Text.ExtenderTable
import Workbench.Text.UnprintableTable

/-!
# Quoted text

A text between double quotes, on one line and without characters that would not show: the quote, the
backslash, newline, carriage return, tab and NUL are escaped by a letter, characters without a
printed form and grapheme extenders by their code point in hexadecimal.  A single quote stays as it
is.
-/

namespace Workbench.Text

/-- whether a character shows as itself -/
def isPrinted (c : Char) : Bool :=
  if c.toNat < 0x7F then 0x20 ≤ c.toNat
  else !covers unprintableTable c.toNat && !covers extenderTable c.toNat

/-- the lower-case digit of a value below sixteen -/
def hexDigit (n : Nat) : Char :=
  if n < 10 then Char.ofNat ('0'.toNat + n) else Char.ofNat ('a'.toNat + (n - 10))

/-- the hexadecimal digits of a number, with `fuel` as a bound on their count -/
def hexDigits : (fuel : Nat) → Nat → Text
  | 0, _ => []
  | fuel + 1, n =>
    if n < 16 then [hexDigit n] else hexDigits fuel (n / 16) ++ [hexDigit (n % 16)]

/-- a character as it stands in quoted text -/
def quoteChar (c : Char) : Text :=
  match c with
  | '"' => ['\\', '"']
  | '\\' => ['\\', '\\']
  | '\n' => ['\\', 'n']
  | '\r' => ['\\', 'r']
  | '\t' => ['\\', 't']
  | '\x00' => ['\\', '0']
  | _ =>
    if isPrinted c then [c]
    else ['\\', 'u', '\x7b'] ++ hexDigits 6 c.toNat ++ ['\x7d']

def quote (t : Text) : Text := '"' :: t.flatMap quoteChar ++ ['"']

end Workbench.Text
