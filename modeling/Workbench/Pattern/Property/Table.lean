import Workbench.Pattern.CharSet
import Workbench.Text.Bytes

/-!
# Tables of properties

A table lists sets of code points under the names that they go by.  Names are in their plain form:
small letters and digits only.

A set is written as lines of words in increasing order.  `41` is one code point, `41-5A` a range,
and `100-12E/2` every second code point of a range.
-/

namespace Workbench.Pattern.Property

abbrev Table := List (List String × List String)

/-- the value of a hexadecimal numeral with capital letters -/
def codeOf (digits : Text) : Nat :=
  digits.foldl (fun n c => 16 * n + (c.toNat - if c ≤ '9' then '0'.toNat else 'A'.toNat - 10)) 0

/-- the ranges of a word -/
def rangesOf (word : Text) : List Range :=
  let first := codeOf (word.takeWhile fun c => c ≠ '-')
  match word.dropWhile fun c => c ≠ '-' with
  | [] => [.point first]
  | _ :: rest =>
    let last := codeOf (rest.takeWhile fun c => c ≠ '/')
    if rest.contains '/' then
      (List.range ((last - first) / 2 + 1)).map fun i => .point (first + 2 * i)
    else [.between first last]

/-- the set that some lines list -/
def setOfLines (lines : List String) : CharSet :=
  ⟨lines.flatMap fun line => (line.toList.splitOnP (· = ' ')).flatMap rangesOf⟩

/-- the set that goes by a name -/
def Table.find? (table : Table) (name : String) : Option CharSet :=
  (List.find? (fun entry => entry.1.contains name) table).map fun entry => setOfLines entry.2

/-- the set that goes by a name, empty if there is none -/
def Table.get (table : Table) (name : String) : CharSet := (table.find? name).getD .none

end Workbench.Pattern.Property
