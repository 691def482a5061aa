import Workbench.Pattern.Property.Age
import Workbench.Pattern.Property.Binary
import Workbench.Pattern.Property.Category
import Workbench.Pattern.Property.Script
import Workbench.Pattern.Property.ScriptExtension

/-!
# Properties of characters

A property is looked up by its name, or by a name and a value.  A name alone can be that of a
property without a value, of a general category or of a script, in this order.

Many sets follow from others: `derived?` has the properties, `group?` the groups of categories.
-/

namespace Workbench.Pattern.Property

/-! ## names -/

/-- The plain form of a name: blanks, underscores, hyphens, the case of letters and all that is not
ASCII do not count, and `is` may stand before it. -/
def plainName (name : Text) : String :=
  let isKept (c : Char) : Bool := c.toNat < 0x80 && c ≠ ' ' && c ≠ '_' && c ≠ '-'
  let plain (t : Text) : Text := (t.filter isKept).map Char.toLower
  match name with
  | a :: b :: rest =>
    if a.toLower = 'i' ∧ b.toLower = 's' then
      if plain rest = ['c'] then "isc" else String.ofList (plain rest)
    else String.ofList (plain name)
  | _ => String.ofList (plain name)

/-! ## general categories -/

/-- the union of some categories -/
def categories (names : List String) : CharSet :=
  names.foldl (fun s name => s.union (categoryTable.get name)) .none

def letters : CharSet := categories ["lu", "ll", "lt", "lm", "lo"]

def marks : CharSet := categories ["mn", "mc", "me"]

def surrogates : CharSet := ⟨[⟨0xD800, 0xDFFF, by decide⟩]⟩

/-- the code points of every category that is listed, and the surrogates -/
def assigned : CharSet := (categories (categoryTable.filterMap fun e => e.1.head?)).union surrogates

/-- the sets of several categories -/
def group? : String → Option CharSet
  | "any" => some .all
  | "assigned" => some assigned
  | "ascii" => some .ascii
  | "cn" | "unassigned" => some assigned.compl
  | "c" | "other" => some ((categories ["cc", "cf", "co"]).union assigned.compl)
  | "l" | "letter" => some letters
  | "lc" | "casedletter" => some (categories ["lu", "ll", "lt"])
  | "m" | "mark" | "combiningmark" => some marks
  | "n" | "number" => some (categories ["nd", "nl", "no"])
  | "p" | "punctuation" | "punct" => some (categories ["pc", "pd", "ps", "pe", "pi", "pf", "po"])
  | "s" | "symbol" => some (categories ["sm", "sc", "sk", "so"])
  | "z" | "separator" => some (categories ["zs", "zl", "zp"])
  | _ => none

def category? (name : String) : Option CharSet := (categoryTable.find? name).or (group? name)

/-! ## scripts -/

def script? (name : String) : Option CharSet := scriptTable.find? name

/-- the characters that are used with a script -/
def scriptExtension? (name : String) : Option CharSet :=
  (List.find? (fun e => e.1.contains name) scriptTable).map fun e =>
    let byName (table : Table) : CharSet := (e.1.filterMap table.find?).foldl .union .none
    ((setOfLines e.2).union (byName sharedTable)).diff (byName movedTable)

/-! ## properties without a value -/

def alphabetic : CharSet :=
  (letters.union (categoryTable.get "nl")).union (binaryTable.get "otheralphabetic")

def lowercase : CharSet := (categoryTable.get "ll").union (binaryTable.get "otherlowercase")

def uppercase : CharSet := (categoryTable.get "lu").union (binaryTable.get "otheruppercase")

/-- characters of patterns, which are no part of an identifier -/
def patternSigns : CharSet :=
  (binaryTable.get "patternsyntax").union (binaryTable.get "patternwhitespace")

def identifierStart : CharSet :=
  ((letters.union (categoryTable.get "nl")).union (binaryTable.get "otheridstart")).diff
    patternSigns

def identifierPart : CharSet :=
  ((identifierStart.union (categories ["mn", "mc", "nd", "pc"])).union
    (binaryTable.get "otheridcontinue")).diff patternSigns

/-- the characters of identifiers whose compatibility forms are none -/
def unstablePart : CharSet :=
  setOfLines ["37A 309B-309C FC5E-FC63 FDFA-FDFB FE70-FE7E/2"]

/-- the same for the first character of an identifier -/
def unstableStart : CharSet := unstablePart.union (setOfLines ["E33 EB3 FF9E-FF9F"])

def graphemeExtend : CharSet :=
  (categories ["me", "mn"]).union (binaryTable.get "othergraphemeextend")

def graphemeBase : CharSet :=
  (((categories ["cc", "cf", "co", "zl", "zp"]).union surrogates).union assigned.compl).union
    graphemeExtend |>.compl

def caseIgnorable : CharSet :=
  (categories ["mn", "me", "cf", "lm", "sk"]).union (setOfLines
    ["27 2E 3A B7 387 55F 5F4 2018-2019 2024 2027 FE13 FE52 FE55 FF07 FF0E FF1A"])

/-- the characters with another form as a title: small letters but for those that stay as they are,
and capital digraphs -/
def changesAsTitle : CharSet :=
  ((binaryTable.get "changeswhenuppercased").diff (setOfLines
    ["1C5 1C8 1CB 1F2 10D0-10FA 10FD-10FF 1F88-1F8F 1F98-1F9F 1FA8-1FAF 1FBC 1FCC 1FFC"])).union
    (setOfLines ["1C4 1C7 1CA 1F1"])

/-- the characters that case folding changes: capitals, and small letters with another folded
form -/
def changesAsFolded : CharSet :=
  ((binaryTable.get "changeswhenlowercased").diff (setOfLines ["13A0-13F5"])).union (setOfLines
    ["B5 DF 149 17F 345 3C2 3D0-3D1 3D5-3D6 3F0-3F1 3F5 587 13F8-13FD 1C80-1C88 1E9A-1E9B",
      "1F80-1F87 1F90-1F97 1FA0-1FA7 1FB2-1FB4 1FB7 1FC2-1FC4 1FC7 1FF2-1FF4 1FF7 AB70-ABBF",
      "FB00-FB06 FB13-FB17"])

/-- the properties that follow from others -/
def derived? : String → Option CharSet
  | "alphabetic" | "alpha" => some alphabetic
  | "lowercase" | "lower" => some lowercase
  | "uppercase" | "upper" => some uppercase
  | "math" => some ((categoryTable.get "sm").union (binaryTable.get "othermath"))
  | "cased" => some ((lowercase.union uppercase).union (categoryTable.get "lt"))
  | "caseignorable" | "ci" => some caseIgnorable
  | "changeswhencasemapped" | "cwcm" =>
    some (((binaryTable.get "changeswhenlowercased").union
      (binaryTable.get "changeswhenuppercased")).union changesAsTitle)
  | "changeswhentitlecased" | "cwt" => some changesAsTitle
  | "changeswhencasefolded" | "cwcf" => some changesAsFolded
  | "idstart" | "ids" => some identifierStart
  | "idcontinue" | "idc" => some identifierPart
  | "xidstart" | "xids" => some (identifierStart.diff unstableStart)
  | "xidcontinue" | "xidc" => some (identifierPart.diff unstablePart)
  | "graphemeextend" | "grext" => some graphemeExtend
  | "graphemebase" | "grbase" => some graphemeBase
  | _ => none

def binary? (name : String) : Option CharSet := (binaryTable.find? name).or (derived? name)

/-! ## looking up -/

/-- the code points of a version of the standard and of those before it -/
def age? (name : String) : Option CharSet :=
  (ageTable.findIdx? fun e => e.1.contains name).map fun i =>
    (ageTable.take (i + 1)).foldl (fun s e => s.union (setOfLines e.2)) .none

/-- The set of a property by its name alone.  Short names that also name a property with a value
mean the category. -/
def setOf? (name : Text) : Option CharSet :=
  let name := plainName name
  let binary := if ["cf", "sc", "lc"].contains name then none else binary? name
  binary.or ((category? name).or (script? name))

/-- the set of the characters for which a property has a value -/
def setOfValue? (property value : Text) : Option CharSet :=
  let value := plainName value
  match plainName property with
  | "generalcategory" | "gc" => category? value
  | "script" | "sc" => script? value
  | "scriptextensions" | "scx" => scriptExtension? value
  | "age" => age? value
  | _ => none

/-! ## letters and numerals -/

def isAlphabetic (c : Char) : Bool :=
  if c.toNat < 0x80 then Text.isAsciiLetter c else alphabetic.contains c

def isNumeric (c : Char) : Bool :=
  if c.toNat < 0x80 then '0' ≤ c && c ≤ '9' else (categories ["nd", "nl", "no"]).contains c

end Workbench.Pattern.Property
