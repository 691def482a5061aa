import Workbench.Pattern.Form
import Workbench.Text.Utf8

/-!
# The room that an expression takes

An expression is refused if its automaton over bytes would be too large.  The room is counted in
bytes before anything is written out, so a repetition of repetitions costs nothing to refuse.  There
are two automata, one that reads forward and one that reads backward; both have to fit.

A set beyond ASCII is an automaton over the UTF-8 forms of its characters.  To read forward, states
with the same continuations are one state; to read backward, forms that begin alike share their
first states.  `setEstimate` is an upper bound that needs no automaton, and most expressions fit by
it.
-/

namespace Workbench.Pattern

/-! ## the UTF-8 forms of a range -/

/-- a range of bytes for each place of a form -/
abbrev ByteForm := List (Nat × Nat)

def utf8Bytes (n : Nat) : List Nat :=
  if n < 0x80 then [n]
  else if n < 0x800 then [0xC0 + n / 0x40, 0x80 + n % 0x40]
  else if n < 0x10000 then [0xE0 + n / 0x1000, 0x80 + n / 0x40 % 0x40, 0x80 + n % 0x40]
  else [0xF0 + n / 0x40000, 0x80 + n / 0x1000 % 0x40, 0x80 + n / 0x40 % 0x40, 0x80 + n % 0x40]

/-- where a range has to be cut: the last code point of the first part, the first of the second -/
def cutOf? (lo hi : Nat) : Option (Nat × Nat) :=
  if lo < 0xE000 ∧ 0xD7FF < hi then some (0xD7FF, 0xE000)
  else
    match [0x7F, 0x7FF, 0xFFFF].find? fun m => lo ≤ m ∧ m < hi with
    | some m => some (m, m + 1)
    | none =>
      if hi < 0x80 then none
      else [0x40, 0x1000, 0x40000].findSome? fun m =>
        if lo / m = hi / m then none
        else if lo % m ≠ 0 then some (lo - lo % m + m - 1, lo - lo % m + m)
        else if hi % m ≠ m - 1 then some (hi - hi % m - 1, hi - hi % m)
        else none

/-- the forms of the code points of a range, in order; `fuel` bounds the cuts within one another -/
def formsOf : (fuel : Nat) → (lo hi : Nat) → List ByteForm
  | 0, _, _ => []
  | fuel + 1, lo, hi =>
    if hi < lo then []
    else
      match cutOf? lo hi with
      | some (last, first) => formsOf fuel lo last ++ formsOf fuel first hi
      | none => [(utf8Bytes lo).zip (utf8Bytes hi)]

def CharSet.forms (s : CharSet) : List ByteForm := s.ranges.flatMap fun r => formsOf 32 r.lo r.hi

/-! ## sets -/

/-- the room of one state -/
def stateRoom : Nat := 32

/-- the bytes or ranges with which the forms begin -/
def heads {α : Type} [BEq α] (forms : List (List α)) : List α :=
  (forms.filterMap List.head?).eraseDups

/-- what follows a beginning -/
def tailsAfter {α : Type} [BEq α] (forms : List (List α)) (head : α) : List (List α) :=
  (forms.filter fun f => f.head? == some head).map List.tail

/-- the states that read the forms forward, each given by the forms that it still has to read -/
def formStates : (fuel : Nat) → List ByteForm → List (List ByteForm)
  | 0, _ => []
  | fuel + 1, forms =>
    if forms.all List.isEmpty then []
    else forms :: (heads forms).flatMap fun h => formStates fuel (tailsAfter forms h)

def CharSet.isAscii (s : CharSet) : Bool := s.ranges.all fun r => r.hi < 0x80

def asciiSetRoom (s : CharSet) : Nat := 2 * stateRoom + 8 * s.ranges.length

def forwardSetRoom (s : CharSet) : Nat :=
  if s.isAscii then asciiSetRoom s
  else
    let states := (formStates 5 s.forms).eraseDups
    states.foldl (fun room forms => room + stateRoom + 8 * (heads forms).length) stateRoom

/-- the number of leading places that two forms share -/
def sharedPlaces : ByteForm → ByteForm → Nat
  | a :: as, b :: bs => if a = b then sharedPlaces as bs + 1 else 0
  | _, _ => 0

/-- the number of different beginnings of forms in order -/
def beginnings : (before : ByteForm) → List ByteForm → Nat
  | _, [] => 0
  | before, form :: forms =>
    form.length - sharedPlaces before form + beginnings form forms

def backwardSetRoom (s : CharSet) : Nat :=
  if s.isAscii then asciiSetRoom s
  else
    let forms := s.forms
    2 * stateRoom + 4 * forms.length + stateRoom * beginnings [] forms

/-- at least the room of a set in either direction: a range has at most twenty forms -/
def setEstimate (s : CharSet) : Nat := 2 * stateRoom + 3200 * s.ranges.length

/-! ## choices between texts -/

/-- the room of the states behind a common beginning of some words; of words of which one begins
with the other, the earlier one is preferred, so the later ones do not share its states -/
def trieRoom : (fuel : Nat) → (words : List (List Nat)) → Nat
  | 0, _ => 0
  | fuel + 1, words =>
    let later := words.dropWhile List.isEmpty
    if later.isEmpty then 0
    else
      let chunks := later.splitOnP List.isEmpty
      let ends := chunks.length - 1 + if words.head? == some [] then 1 else 0
      let filled := chunks.filter (! ·.isEmpty)
      let room (chunk : List (List Nat)) : Nat :=
        let bytes := heads chunk
        stateRoom + (if bytes.length = 1 then 0 else 8 * bytes.length)
          + (bytes.map fun b => trieRoom fuel (tailsAfter chunk b)).sum
      stateRoom + 4 * (filled.length + ends) + (filled.map room).sum

/-- the bytes of a text -/
def Regex.word? : Regex → Option (List Nat)
  | .text t => some ((Text.encode t).map UInt8.toNat)
  | _ => none

/-! ## expressions -/

/-- a way to read, with the room of the parts that depend on it -/
structure Reading where
  backward : Bool
  setRoom : CharSet → Nat
  groupRoom : Nat

namespace Reading

def forward : Reading := ⟨false, forwardSetRoom, 2 * stateRoom⟩
def reverse : Reading := ⟨true, backwardSetRoom, 0⟩

/-- reads forward and takes at least the room of either -/
def estimate (backward : Bool) : Reading := ⟨backward, setEstimate, 2 * stateRoom⟩

/-- the room of a fork -/
def forkRoom : Nat := stateRoom + 8

/-- the room of a choice between texts only -/
def wordsRoom (reading : Reading) (words : List (List Nat)) : Nat :=
  let words := if reading.backward then words.map List.reverse else words
  stateRoom + trieRoom ((words.map List.length).foldl max 0 + 1) words

def repeatRoom (least : Nat) (most : Option Nat) (passes : Bool) (room : Nat) : Nat :=
  match least, most with
  | 0, none => if passes then forkRoom + room else 2 * forkRoom + stateRoom + room
  | n + 1, none => (n + 1) * room + forkRoom
  | 0, some 1 => forkRoom + stateRoom + room
  | least, some most =>
    if most = least then least * room
    else (if least = 0 then stateRoom else least * room) + stateRoom
      + (most - least) * (forkRoom + room)

/-- the room of an expression, and of the expression as the sides of a choice -/
def roomOf (reading : Reading) : Regex → Nat × Nat
  | .empty => (stateRoom, stateRoom + 4)
  | .text t => (stateRoom * Text.bytes t, stateRoom * Text.bytes t + 4)
  | .set s => (reading.setRoom s, reading.setRoom s + 4)
  | .look _ => (stateRoom, stateRoom + 4)
  | .seq a b =>
    let room := (reading.roomOf a).1 + (reading.roomOf b).1
    (room, room + 4)
  | .alt a b =>
    let sides := (reading.roomOf a).1 + 4 + (reading.roomOf b).2
    match (Regex.alt a b).branches.mapM Regex.word? with
    | some words => (reading.wordsRoom words, sides)
    | none => (2 * stateRoom + sides, sides)
  | .rep least most _ a =>
    let room := repeatRoom least most (a.minLength.any (0 < ·)) (reading.roomOf a).1
    (room, room + 4)
  | .group _ a =>
    let room := reading.groupRoom + (reading.roomOf a).1
    (room, room + 4)

/-- the room of an expression with the states around it -/
def total (reading : Reading) (held : Bool) (r : Regex) : Nat :=
  (reading.roomOf r).1 + reading.groupRoom + stateRoom
    + if held then stateRoom else 2 * forkRoom + stateRoom

end Reading

/-! ## the limit -/

/-- ten mebibytes -/
def roomLimit : Nat := 10 * Nat.pow 2 20

namespace Regex

/-- whether both automata of an expression keep within the limit -/
def fits (r : Regex) : Bool :=
  ((Reading.estimate false).total false r ≤ roomLimit
      && (Reading.estimate true).total false r ≤ roomLimit)
    || (Reading.forward.total r.anchored r ≤ roomLimit
      && Reading.reverse.total r.anchoredEnd r ≤ roomLimit)

end Regex

end Workbench.Pattern
