import Workbench.Text.Bytes

/-!
# Wildcards

A pattern is a text in which three signs stand for more than themselves unless they are quoted: a
star for any text, a question mark for any character, and brackets for one character out of a set.
-/

namespace Workbench.Shell

/-- a character and whether it was quoted -/
abbrev Glyph := Char × Bool

abbrev Wildcard := List Glyph

def Wildcard.ofText (t : Text) : Wildcard := t.map (·, true)

/-- the named classes of characters in brackets -/
def classOf? (name : Text) : Option (Char → Bool) :=
  match String.ofList name with
  | "alpha" => some Char.isAlpha
  | "digit" => some Char.isDigit
  | "alnum" => some Char.isAlphanum
  | "upper" => some Char.isUpper
  | "lower" => some Char.isLower
  | "space" => some fun c => c = ' ' || ('\t' ≤ c && c ≤ '\r')
  | "blank" => some fun c => c = ' ' || c = '\t'
  | "punct" => some fun c => '!' ≤ c && c ≤ '~' && !c.isAlphanum
  | "xdigit" => some fun c => c.isDigit || ('a' ≤ c && c ≤ 'f') || ('A' ≤ c && c ≤ 'F')
  | _ => none

/-- the named class at the front of a pattern, behind `[:`, and the rest behind `:]` -/
def readClass? (w : Wildcard) : Option ((Char → Bool) × Wildcard) :=
  let name := (w.map (·.1)).takeWhile (· ≠ ':')
  match w.drop name.length with
  | (':', _) :: (']', _) :: rest => (classOf? name).map (·, rest)
  | _ => none

/-- a set of characters behind its opening bracket, and the pattern behind the one that closes
it -/
def readSet? : (fuel : Nat) → (first : Bool) → (Char → Bool) → Wildcard →
    Option ((Char → Bool) × Wildcard)
  | 0, _, _, _ => none
  | _ + 1, _, _, [] => none
  | fuel + 1, first, set, (c, quoted) :: w =>
    if c = ']' ∧ ¬ quoted ∧ ¬ first then some (set, w)
    else
      match c, quoted, w with
      | '[', false, (':', _) :: w' =>
        match readClass? w' with
        | some (f, rest) => readSet? fuel false (fun x => set x || f x) rest
        | none => readSet? fuel false (fun x => set x || x == c) w
      | _, _, ('-', false) :: (last, q) :: w' =>
        if last = ']' ∧ ¬ q then readSet? fuel false (fun x => set x || x == c) w
        else readSet? fuel false (fun x => set x || (decide (c ≤ x) && decide (x ≤ last))) w'
      | _, _, _ => readSet? fuel false (fun x => set x || x == c) w

/-- the set of characters that brackets stand for, which may be turned around -/
def readBrackets? (w : Wildcard) : Option ((Char → Bool) × Wildcard) :=
  match w with
  | ('!', false) :: w' =>
    (readSet? (w'.length + 1) true (fun _ => false) w').map fun r => ((fun c => !r.1 c), r.2)
  | _ => readSet? (w.length + 1) true (fun _ => false) w

/-- whether some end of a text is as it should be -/
def anyEnd (holds : Text → Bool) : Text → Bool
  | [] => holds []
  | c :: t => holds (c :: t) || anyEnd holds t

/-- whether a pattern matches a whole text; each round takes at least one sign of the pattern -/
def matchesWith : (fuel : Nat) → Wildcard → Text → Bool
  | 0, _, _ => false
  | _ + 1, [], t => t.isEmpty
  | fuel + 1, ('*', false) :: w, t => anyEnd (matchesWith fuel w) t
  | fuel + 1, ('?', false) :: w, t =>
    match t with
    | _ :: t' => matchesWith fuel w t'
    | [] => false
  | fuel + 1, (c, quoted) :: w, t =>
    match t with
    | [] => false
    | x :: t' =>
      if c = '[' ∧ ¬ quoted then
        match readBrackets? w with
        | some (set, rest) => set x && matchesWith fuel rest t'
        | none => x == c && matchesWith fuel w t'
      else x == c && matchesWith fuel w t'

namespace Wildcard

/-- whether a pattern matches a whole text -/
def fits (w : Wildcard) (t : Text) : Bool := matchesWith (w.length + 1) w t

/-- whether a pattern stands for more than its own text -/
def isOpen (w : Wildcard) : Bool :=
  w.any fun g => !g.2 && (g.1 = '*' || g.1 = '?' || g.1 = '[')

/-- a text without its shortest or longest beginning that a pattern matches -/
def dropStart (w : Wildcard) (longest : Bool) (t : Text) : Text :=
  let lengths := List.range (t.length + 1)
  match (if longest then lengths.reverse else lengths).find? fun n => w.fits (t.take n) with
  | some n => t.drop n
  | none => t

/-- a text without its shortest or longest end that a pattern matches -/
def dropEnd (w : Wildcard) (longest : Bool) (t : Text) : Text :=
  let lengths := List.range (t.length + 1)
  match (if longest then lengths else lengths.reverse).find? fun n => w.fits (t.drop n) with
  | some n => t.take n
  | none => t

end Wildcard

end Workbench.Shell
