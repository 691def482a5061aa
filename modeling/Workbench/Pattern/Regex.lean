import Workbench.Pattern.CharSet
import Workbench.Text.Bytes

/-!
# Regular expressions and where they match

An expression matches at a `Cursor`: the characters that follow, and the one before, which word
boundaries look at.  Alternatives are tried in order and repetitions are greedy or lazy, so an
expression has a list of places where a match can end, the preferred one first: `ends`.  The match
is the head of that list.

`run` finds the first end from which the rest of the work succeeds without building the list:
`run_eq` says that it is the first success along `ends`.

A repetition stops at a round that passes no character.  Its rounds are counted against the rest of
the text, of which every other round passes at least one character.
-/

namespace Workbench.Pattern

/-! ## cursors -/

/-- a place in a text: how many characters were passed, the last of them, and those that follow -/
structure Cursor where
  taken : Nat
  before : Option Char
  rest : Text
  deriving DecidableEq, Repr

namespace Cursor

def start (t : Text) : Cursor := ⟨0, none, t⟩

/-- the place behind the next character, which is `c` -/
def pass (p : Cursor) (c : Char) (rest : Text) : Cursor := ⟨p.taken + 1, some c, rest⟩

/-- the place behind the given characters, if they are the next ones -/
def passAll : Text → Cursor → List Cursor
  | [], p => [p]
  | c :: t, p =>
    match p.rest with
    | [] => []
    | d :: rest => if c = d then passAll t (p.pass d rest) else []

end Cursor

/-! ## conditions -/

/-- where a word begins or ends; a half looks at one side only -/
inductive WordLook where
  | boundary
  | noBoundary
  | start
  | stop
  | startHalf
  | stopHalf
  deriving DecidableEq, Repr

/-- a condition on a place, which passes no character -/
inductive Look where
  | textStart
  | textEnd
  | lineStart (crlf : Bool)
  | lineEnd (crlf : Bool)
  | word (unicode : Bool) (side : WordLook)
  deriving DecidableEq, Repr

/-- whether there is a character and it belongs to a word -/
def wordAt (unicode : Bool) : Option Char → Bool
  | some c => if unicode then Text.isWord c else CharSet.asciiWord.contains c
  | none => false

def WordLook.holds (before after : Bool) : WordLook → Bool
  | .boundary => before != after
  | .noBoundary => before == after
  | .start => !before && after
  | .stop => before && !after
  | .startHalf => !before
  | .stopHalf => !after

/-- With `crlf`, a line also ends at a carriage return, and a carriage return and the newline behind
it are one end. -/
def Look.holds : Look → Cursor → Bool
  | .textStart, p => p.before.isNone
  | .textEnd, p => p.rest.isEmpty
  | .lineStart false, p => p.before.isNone || p.before == some '\n'
  | .lineStart true, p =>
    p.before.isNone || p.before == some '\n'
      || (p.before == some '\r' && p.rest.head? != some '\n')
  | .lineEnd false, p => p.rest.isEmpty || p.rest.head? == some '\n'
  | .lineEnd true, p =>
    p.rest.isEmpty || p.rest.head? == some '\r'
      || (p.rest.head? == some '\n' && p.before != some '\r')
  | .word unicode side, p => side.holds (wordAt unicode p.before) (wordAt unicode p.rest.head?)

/-! ## expressions -/

/-- Literal characters, one of a set, a condition, a sequence, a choice that prefers its first side,
a repetition between two bounds, or a numbered group. -/
inductive Regex where
  | empty
  | text (t : Text)
  | set (s : CharSet)
  | look (l : Look)
  | seq (a b : Regex)
  | alt (a b : Regex)
  | rep (least : Nat) (most : Option Nat) (greedy : Bool) (a : Regex)
  | group (index : Nat) (a : Regex)
  deriving DecidableEq, Repr

/-! ## the ends of the matches, preferred first -/

/-- the ends of any number of rounds of a body whose ends are known; `fuel` bounds the rounds -/
def starEnds (body : Cursor → List Cursor) (greedy : Bool) : Text → Cursor → List Cursor
  | [], p => [p]
  | _ :: fuel, p =>
    let more := (body p).flatMap fun q =>
      if q.taken = p.taken then [q] else starEnds body greedy fuel q
    if greedy then more ++ [p] else p :: more

/-- the ends of at most `n` rounds -/
def upToEnds (body : Cursor → List Cursor) (greedy : Bool) : Nat → Cursor → List Cursor
  | 0, p => [p]
  | n + 1, p =>
    let more := (body p).flatMap (upToEnds body greedy n)
    if greedy then more ++ [p] else p :: more

/-- the ends of `n` rounds and of what comes after them -/
def timesEnds (body last : Cursor → List Cursor) : Nat → Cursor → List Cursor
  | 0, p => last p
  | n + 1, p => (body p).flatMap (timesEnds body last n)

def Regex.ends : Regex → Cursor → List Cursor
  | .empty, p => [p]
  | .text t, p => p.passAll t
  | .set s, p =>
    match p.rest with
    | [] => []
    | c :: rest => if s.contains c then [p.pass c rest] else []
  | .look l, p => if l.holds p then [p] else []
  | .seq a b, p => (a.ends p).flatMap b.ends
  | .alt a b, p => a.ends p ++ b.ends p
  | .rep least none greedy a, p =>
    timesEnds a.ends (fun q => starEnds a.ends greedy q.rest q) least p
  | .rep least (some most) greedy a, p =>
    timesEnds a.ends (upToEnds a.ends greedy (most - least)) least p
  | .group _ a, p => a.ends p

/-! ## running an expression -/

section
variable {α : Type}

/--
A greedy repetition, then `next`.  While the body has one end the loop goes on from it and keeps the
places passed in `back`, nearest first: they are what is left to try when the body fails.
-/
def runGreedy (body : Cursor → List Cursor) (next : Cursor → Option α) :
    Text → Cursor → List Cursor → Option α
  | [], p, back => (p :: back).findSome? next
  | _ :: fuel, p, back =>
    match body p with
    | [] => (p :: back).findSome? next
    | [q] =>
      if q.taken = p.taken then (q :: p :: back).findSome? next
      else runGreedy body next fuel q (p :: back)
    | ends =>
      match ends.findSome? fun q =>
        if q.taken = p.taken then next q else runGreedy body next fuel q [] with
      | some r => some r
      | none => (p :: back).findSome? next

/-- A lazy repetition, then `next`. -/
def runLazy (body : Cursor → List Cursor) (next : Cursor → Option α) :
    Text → Cursor → Option α
  | [], p => next p
  | _ :: fuel, p =>
    match next p with
    | some r => some r
    | none =>
      match body p with
      | [q] => if q.taken = p.taken then next q else runLazy body next fuel q
      | ends => ends.findSome? fun q =>
          if q.taken = p.taken then next q else runLazy body next fuel q

/-- At most `n` rounds of a body that is run, then `next`. -/
def runUpTo (body : (Cursor → Option α) → Cursor → Option α) (greedy : Bool)
    (next : Cursor → Option α) : Nat → Cursor → Option α
  | 0, p => next p
  | n + 1, p =>
    if greedy then
      match body (runUpTo body greedy next n) p with
      | some r => some r
      | none => next p
    else
      match next p with
      | some r => some r
      | none => body (runUpTo body greedy next n) p

/-- `n` rounds of a body that is run, then `next`. -/
def runTimes (body : (Cursor → Option α) → Cursor → Option α) (next : Cursor → Option α) :
    Nat → Cursor → Option α
  | 0, p => next p
  | n + 1, p => body (runTimes body next n) p

/-- The first result of `next` at an end of a match, in the order of preference. -/
def Regex.run : Regex → (Cursor → Option α) → Cursor → Option α
  | .empty, next, p => next p
  | .text t, next, p => (p.passAll t).findSome? next
  | .set s, next, p =>
    match p.rest with
    | [] => none
    | c :: rest => if s.contains c then next (p.pass c rest) else none
  | .look l, next, p => if l.holds p then next p else none
  | .seq a b, next, p => a.run (b.run next) p
  | .alt a b, next, p =>
    match a.run next p with
    | some r => some r
    | none => b.run next p
  | .rep least none greedy a, next, p =>
    runTimes a.run (fun q =>
      if greedy then runGreedy a.ends next q.rest q [] else runLazy a.ends next q.rest q) least p
  | .rep least (some most) greedy a, next, p =>
    runTimes a.run (runUpTo a.run greedy next (most - least)) least p
  | .group _ a, next, p => a.run next p

/-! ## running is searching the list of ends -/

theorem findSome?_flatMap {β γ : Type} (l : List β) (f : β → List γ) (g : γ → Option α) :
    (l.flatMap f).findSome? g = l.findSome? fun x => (f x).findSome? g := by
  induction l with
  | nil => rfl
  | cons x l ih =>
    rw [List.flatMap_cons, List.findSome?_append, ih, List.findSome?_cons]
    cases (f x).findSome? g <;> rfl

theorem findSome?_pair {β : Type} (x : β) (g : β → Option α) : [x].findSome? g = g x := by
  rw [List.findSome?_cons]
  cases g x <;> rfl

theorem runGreedy_eq (body : Cursor → List Cursor) (next : Cursor → Option α) (fuel : Text)
    (p : Cursor) (back : List Cursor) :
    runGreedy body next fuel p back = (starEnds body true fuel p ++ back).findSome? next := by
  induction fuel generalizing p back with
  | nil => rfl
  | cons x fuel ih =>
    have one : (fun q : Cursor =>
        if q.taken = p.taken then next q else runGreedy body next fuel q [])
          = fun q => (if q.taken = p.taken then [q] else starEnds body true fuel q).findSome?
              next := by
      funext q
      split
      · exact (findSome?_pair q next).symm
      · rw [ih, List.append_nil]
    have tail : starEnds body true (x :: fuel) p ++ back
        = (body p).flatMap (fun q => if q.taken = p.taken then [q] else starEnds body true fuel q)
          ++ (p :: back) := by
      simp [starEnds]
    rw [tail, List.findSome?_append, findSome?_flatMap, ← one, runGreedy]
    split
    · next h => rw [h]; rfl
    · next q h =>
      rw [h, findSome?_pair]
      by_cases hq : q.taken = p.taken
      · rw [if_pos hq, if_pos hq, List.findSome?_cons]
        cases next q <;> rfl
      · rw [if_neg hq, if_neg hq, ih, ih, List.append_nil, List.findSome?_append]
    · split
      · next h => rw [h]; rfl
      · next h => rw [h]; rfl

theorem runLazy_eq (body : Cursor → List Cursor) (next : Cursor → Option α) (fuel : Text)
    (p : Cursor) :
    runLazy body next fuel p = (starEnds body false fuel p).findSome? next := by
  induction fuel generalizing p with
  | nil => exact (findSome?_pair p next).symm
  | cons x fuel ih =>
    have one : (fun q : Cursor => if q.taken = p.taken then next q else runLazy body next fuel q)
          = fun q => (if q.taken = p.taken then [q] else starEnds body false fuel q).findSome?
              next := by
      funext q
      split
      · exact (findSome?_pair q next).symm
      · exact ih q
    have head : starEnds body false (x :: fuel) p
        = p :: (body p).flatMap
            fun q => if q.taken = p.taken then [q] else starEnds body false fuel q := by
      simp [starEnds]
    rw [head, List.findSome?_cons, findSome?_flatMap, ← one, runLazy]
    cases next p with
    | some r => rfl
    | none =>
      show (match body p with
        | [q] => if q.taken = p.taken then next q else runLazy body next fuel q
        | ends => ends.findSome? fun q : Cursor =>
            if q.taken = p.taken then next q else runLazy body next fuel q) = _
      split
      · next h => rw [h]; exact (findSome?_pair _ _).symm
      · rfl

section
variable {body : (Cursor → Option α) → Cursor → Option α} {ends : Cursor → List Cursor}

theorem runUpTo_eq (h : ∀ next p, body next p = (ends p).findSome? next) (greedy : Bool)
    (next : Cursor → Option α) (n : Nat) (p : Cursor) :
    runUpTo body greedy next n p = (upToEnds ends greedy n p).findSome? next := by
  induction n generalizing p with
  | zero => exact (findSome?_pair p next).symm
  | succ n ih =>
    have step : runUpTo body greedy next n
        = fun q => (upToEnds ends greedy n q).findSome? next := funext ih
    rw [runUpTo, upToEnds, step, h]
    cases greedy with
    | true =>
      rw [if_pos rfl, if_pos rfl, List.findSome?_append, findSome?_flatMap, findSome?_pair]
      cases (ends p).findSome? fun q => (upToEnds ends true n q).findSome? next <;> rfl
    | false =>
      rw [if_neg Bool.false_ne_true, if_neg Bool.false_ne_true, List.findSome?_cons,
        findSome?_flatMap]
      cases next p <;> rfl

theorem runTimes_eq (h : ∀ next p, body next p = (ends p).findSome? next)
    (last : Cursor → List Cursor) (next : Cursor → Option α) (n : Nat) (p : Cursor) :
    runTimes body (fun q => (last q).findSome? next) n p
      = (timesEnds ends last n p).findSome? next := by
  induction n generalizing p with
  | zero => rfl
  | succ n ih =>
    rw [runTimes, timesEnds, findSome?_flatMap, h]
    congr 1
    exact funext ih

end

/-- Running an expression is taking the first success along the list of its ends. -/
theorem Regex.run_eq (r : Regex) (next : Cursor → Option α) (p : Cursor) :
    r.run next p = (r.ends p).findSome? next := by
  induction r generalizing next p with
  | empty => exact (findSome?_pair p next).symm
  | text t => rfl
  | set s =>
    simp only [Regex.run, Regex.ends]
    split
    · rfl
    · split
      · exact (findSome?_pair _ next).symm
      · rfl
  | look l =>
    simp only [Regex.run, Regex.ends]
    split
    · exact (findSome?_pair p next).symm
    · rfl
  | seq a b iha ihb =>
    rw [Regex.run, Regex.ends, iha, findSome?_flatMap]
    congr 1
    funext q
    exact ihb next q
  | alt a b iha ihb =>
    simp only [Regex.run, Regex.ends, iha, ihb, List.findSome?_append]
    cases (a.ends p).findSome? next <;> rfl
  | rep least most greedy a ih =>
    cases most with
    | none =>
      rw [Regex.run, Regex.ends, ← runTimes_eq ih]
      congr 1
      funext q
      cases greedy with
      | true => rw [if_pos rfl, runGreedy_eq, List.append_nil]
      | false => rw [if_neg Bool.false_ne_true, runLazy_eq]
    | some most =>
      rw [Regex.run, Regex.ends, ← runTimes_eq ih]
      congr 1
      funext q
      exact runUpTo_eq ih greedy next (most - least) q
  | group index a ih => exact ih next p

end

end Workbench.Pattern
