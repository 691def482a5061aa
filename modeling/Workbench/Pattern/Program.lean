import Workbench.Pattern.Form

/-!
# Programs of expressions

An expression is written out as a numbered list of steps: pass a character of a set, go on if a
condition holds, or fork.  `search` follows all ways through the program side by side, the preferred
ones first, and takes no step twice at one place of the text.  So its work is bounded by the length
of the text times the number of steps, however the expression is nested, and a loop that passes no
character comes to its end.

The answer never lies beyond the end of the text: `search_le`.
-/

namespace Workbench.Pattern

/-! ## steps -/

/-- the numbers say which step comes next; a fork prefers its first way -/
inductive Step where
  | done
  | set (s : CharSet) (next : Nat)
  | look (l : Look) (next : Nat)
  | fork (first second : Nat)
  deriving DecidableEq, Repr

/-- a fork that prefers to go on with a round, or not to -/
def Step.choose (greedy : Bool) (round out : Nat) : Step :=
  if greedy then .fork round out else .fork out round

/-- steps in the order of their numbers -/
abbrev Steps := Array Step

/-! ## writing an expression out

Each writer is given the number of the step that comes after, and gives back the number of the step
to begin with. -/

abbrev Writer := (next : Nat) → Steps → Nat × Steps

def writeText : Text → Writer
  | [], next, steps => (next, steps)
  | c :: t, next, steps =>
    let (after, steps) := writeText t next steps
    (steps.size, steps.push (.set (.single c) after))

/-- `n` rounds -/
def writeTimes (body : Writer) : Nat → Writer
  | 0, next, steps => (next, steps)
  | n + 1, next, steps =>
    let (entry, steps) := body next steps
    writeTimes body n entry steps

/-- at most `n` rounds; each can be the last -/
def writeUpTo (body : Writer) (greedy : Bool) : Nat → Writer
  | 0, next, steps => (next, steps)
  | n + 1, next, steps =>
    let (entry, steps) := writeUpTo body greedy n next steps
    let (entry, steps) := body entry steps
    (steps.size, steps.push (.choose greedy entry next))

/-- one round or more; gives the number of the fork behind the round too -/
def writeLoop (body : Writer) (greedy : Bool) (next : Nat) (steps : Steps) : Nat × Nat × Steps :=
  let again := steps.size
  let (entry, steps) := body again (steps.push .done)
  (entry, again, steps.setIfInBounds again (.choose greedy entry next))

/-- any number of rounds; a body that can pass nothing is entered by a fork of its own -/
def writeStar (body : Writer) (passes greedy : Bool) : Writer := fun next steps =>
  let (entry, again, steps) := writeLoop body greedy next steps
  if passes then (again, steps)
  else (steps.size, steps.push (.choose greedy entry next))

def Regex.write : Regex → Writer
  | .empty, next, steps => (next, steps)
  | .text t, next, steps => writeText t next steps
  | .set s, next, steps => (steps.size, steps.push (.set s next))
  | .look l, next, steps => (steps.size, steps.push (.look l next))
  | .seq a b, next, steps =>
    let (middle, steps) := b.write next steps
    a.write middle steps
  | .alt a b, next, steps =>
    let (first, steps) := a.write next steps
    let (second, steps) := b.write next steps
    (steps.size, steps.push (.fork first second))
  | .rep 0 none greedy a, next, steps =>
    writeStar a.write (a.minLength.any (0 < ·)) greedy next steps
  | .rep (n + 1) none greedy a, next, steps =>
    let (entry, _, steps) := writeLoop a.write greedy next steps
    writeTimes a.write n entry steps
  | .rep least (some most) greedy a, next, steps =>
    let (entry, steps) := writeUpTo a.write greedy (most - least) next steps
    writeTimes a.write least entry steps
  | .group _ a, next, steps => a.write next steps

/-- the steps of an expression, of which the first is the last to be taken -/
structure Program where
  start : Nat
  steps : Steps

def Regex.program (r : Regex) : Program :=
  let (start, steps) := r.write 0 #[.done]
  ⟨start, steps⟩

/-! ## following a program -/

namespace Program

/--
The steps that wait for a character or end the match, among those that can be reached at a place
from the ones to do, in the order of preference.  `seen` marks the steps that were reached; `fuel`
bounds the work.
-/
def spread (program : Program) (p : Cursor) :
    (fuel : Nat) → (todo : List Nat) → (seen : Array Bool) → (waiting : List Nat) → List Nat
  | 0, _, _, waiting => waiting.reverse
  | _ + 1, [], _, waiting => waiting.reverse
  | fuel + 1, i :: todo, seen, waiting =>
    if seen.getD i true then spread program p fuel todo seen waiting
    else
      let seen := seen.setIfInBounds i true
      match program.steps.getD i .done with
      | .fork a b => spread program p fuel (a :: b :: todo) seen waiting
      | .look l next =>
        spread program p fuel (if l.holds p then next :: todo else todo) seen waiting
      | _ => spread program p fuel todo seen (i :: waiting)

/-- the same with no step reached before; no step leads to more than two others -/
def waitingAt (program : Program) (p : Cursor) (todo : List Nat) : List Nat :=
  let size := program.steps.size
  program.spread p (2 * size + todo.length + 1) todo (Array.replicate size false) []

def isDone (program : Program) (i : Nat) : Bool := program.steps.getD i .done == .done

/-- the steps behind those that let a character pass -/
def passing (program : Program) (c : Char) (waiting : List Nat) : List Nat :=
  waiting.filterMap fun i =>
    match program.steps.getD i .done with
    | .set s next => if s.contains c then some next else none
    | _ => none

/--
The end of the preferred match, with the one found so far.  A way that ends the match leaves those
that are preferred to it open and closes the others.  Unless the match is `held` at the start of the
text, another one can begin at each place as long as none is found.
-/
def searchFrom (program : Program) (held : Bool) :
    (todo : List Nat) → (found : Option Nat) → (taken : Nat) → (before : Option Char) → Text →
    Option Nat
  | todo, found, taken, before, rest =>
    let waiting := program.waitingAt ⟨taken, before, rest⟩ todo
    let found := if waiting.any program.isDone then some taken else found
    match rest with
    | [] => found
    | c :: rest =>
      let todo := program.passing c (waiting.takeWhile fun i => !program.isDone i)
      let todo := if held || found.isSome then todo else todo ++ [program.start]
      if todo.isEmpty then found
      else program.searchFrom held todo found (taken + 1) (some c) rest

/-- The number of characters up to the end of the preferred match. -/
def search (program : Program) (held : Bool) (t : Text) : Option Nat :=
  program.searchFrom held [program.start] none 0 none t

theorem searchFrom_le (program : Program) (held : Bool) (todo : List Nat) (found : Option Nat)
    (taken : Nat) (before : Option Char) (t : Text) (h : ∀ n ∈ found, n ≤ taken + t.length) :
    ∀ n ∈ program.searchFrom held todo found taken before t, n ≤ taken + t.length := by
  induction t generalizing todo found taken before with
  | nil =>
    intro n hn
    rw [searchFrom] at hn
    split at hn
    · simp only [Option.mem_some] at hn
      omega
    · exact h n hn
  | cons c t ih =>
    intro n hn
    rw [searchFrom] at hn
    obtain ⟨best, hbest⟩ : ∃ best : Option Nat, best =
      if (program.waitingAt ⟨taken, before, c :: t⟩ todo).any program.isDone then some taken
      else found := ⟨_, rfl⟩
    have kept : ∀ m ∈ best, m ≤ taken + 1 + t.length := by
      intro m hm
      rw [hbest] at hm
      split at hm
      · simp only [Option.mem_some] at hm
        omega
      · have := h m hm
        simp only [List.length_cons] at this
        omega
    have bound : ∀ m, m ≤ taken + 1 + t.length → m ≤ taken + (c :: t).length := by
      intro m hm
      simp only [List.length_cons]
      omega
    simp only [← hbest] at hn
    generalize (if (held || best.isSome) = true then _ else _ : List Nat) = todo' at hn
    split at hn
    · exact bound n (kept n hn)
    · exact bound n (ih _ _ _ _ kept n hn)

theorem search_le (program : Program) (held : Bool) (t : Text) :
    ∀ n ∈ program.search held t, n ≤ t.length := by
  intro n hn
  have := program.searchFrom_le held [program.start] none 0 none t (by simp) n hn
  omega

end Program

end Workbench.Pattern
