import Workbench.Pattern.Program

/-!
# Searching a text

An expression with few ways to match is run as it stands: the order in which `run` tries the ways is
the order of preference.  Any other expression goes through its program, in which no step is taken
twice at one place.

Few means at most a constant times the square of the length of the text, and that no repetition has
two ways to go through the same characters: each round passes a character, and the next character
decides how.

A match ends within the text, whichever way it was found: `matchEnd?_le`.
-/

namespace Workbench.Pattern

namespace Regex

/-! ## expressions with few ways to match -/

/-- the characters with which a match of an expression that passes some can begin -/
def starts : Regex → CharSet
  | .text (c :: _) => .single c
  | .set s => s
  | .seq a _ => a.starts
  | .alt a b => a.starts.union b.starts
  | .group _ a => a.starts
  | _ => .none

/-- whether each match passes a character and the next character decides which way it goes -/
def isDecided : Regex → Bool
  | .text t => !t.isEmpty
  | .set _ => true
  | .seq a b => a.isDecided && b.isDecided
  | .alt a b => a.isDecided && b.isDecided && (a.starts.inter b.starts).isEmpty
  | .group _ a => a.isDecided
  | _ => false

/-- the characters that a match can pass -/
def chars : Regex → CharSet
  | .text t => t.foldl (fun s c => s.union (.single c)) .none
  | .set s => s
  | .seq a b | .alt a b => a.chars.union b.chars
  | .rep _ _ _ a | .group _ a => a.chars
  | _ => .none

/-- `count` times the `degree`-th power of the length of the text -/
structure Ways where
  count : Nat := 1
  degree : Nat := 0
  deriving DecidableEq, Repr

def Ways.add (v w : Ways) : Ways := ⟨v.count + w.count, max v.degree w.degree⟩

/--
About how many ways there are to match `before` and then the expression, where `before` passes only
characters of `passed`; `none` if there may be more than a power of the length.  An optional part
that begins with another character is entered from one place only, which leaves one choice less to
what is before it.
-/
def waysAfter : (before : Ways) → (passed : CharSet) → Regex → Option Ways
  | before, passed, .seq a b =>
    (a.waysAfter before passed).bind fun w => b.waysAfter w (passed.union a.chars)
  | before, passed, .alt a b =>
    match a.waysAfter before passed, b.waysAfter before passed with
    | some v, some w => some (v.add w)
    | _, _ => none
  | before, passed, .rep least most _ a =>
    if a.isDecided then
      match most with
      | some most => some ⟨before.count * (most - least + 1), before.degree⟩
      | none => some ⟨before.count, before.degree + 1⟩
    else if least = 0 ∧ most = some 1 then
      let entered : Ways :=
        if (a.starts.inter passed).isEmpty then ⟨before.count, before.degree - 1⟩ else before
      (a.waysAfter entered passed).map before.add
    else none
  | before, passed, .group _ a => a.waysAfter before passed
  | before, _, _ => some before

def hasFewWays (r : Regex) : Bool :=
  (r.waysAfter {} .none).any fun w => w.count ≤ 64 && w.degree ≤ 2

end Regex

/-! ## the end of the match -/

/-- an expression made ready for many searches; a program can be `held` at the start of the text -/
inductive Matcher where
  | direct (r : Regex)
  | program (held : Bool) (p : Program)

def Regex.matcher (r : Regex) : Matcher :=
  if r.anchored && r.hasFewWays then .direct r else .program r.anchored r.program

/-- The number of characters up to the end of the leftmost match. -/
def Matcher.matchEnd? : Matcher → Text → Option Nat
  | .direct r, t => (r.run some (Cursor.start t)).map (·.taken)
  | .program held p, t => p.search held t

def Regex.matchEnd? (r : Regex) (t : Text) : Option Nat := r.matcher.matchEnd? t

/-! ## a match ends within the text -/

/-- what was passed and what follows make up the text -/
def Cursor.total (p : Cursor) : Nat := p.taken + p.rest.length

theorem Cursor.total_pass {p : Cursor} {c : Char} {rest : Text} (h : p.rest = c :: rest) :
    (p.pass c rest).total = p.total := by
  simp only [total, pass, h, List.length_cons]
  omega

theorem Cursor.total_passAll (t : Text) (p : Cursor) : ∀ q ∈ p.passAll t, q.total = p.total := by
  induction t generalizing p with
  | nil => intro q hq; rw [passAll, List.mem_singleton] at hq; rw [hq]
  | cons c t ih =>
    intro q hq
    rw [passAll] at hq
    split at hq
    · simp at hq
    · next d rest h =>
      split at hq
      · rw [ih _ q hq, total_pass h]
      · simp at hq

section
variable {body last : Cursor → List Cursor}

theorem total_starEnds (h : ∀ p, ∀ q ∈ body p, q.total = p.total) (greedy : Bool) (fuel : Text)
    (p : Cursor) : ∀ q ∈ starEnds body greedy fuel p, q.total = p.total := by
  induction fuel generalizing p with
  | nil => intro q hq; rw [starEnds, List.mem_singleton] at hq; rw [hq]
  | cons x fuel ih =>
    intro q hq
    have : q = p ∨ ∃ m ∈ body p, q ∈ if m.taken = p.taken then [m]
        else starEnds body greedy fuel m := by
      rw [starEnds] at hq
      cases greedy with
      | true =>
        rw [if_pos rfl, List.mem_append, List.mem_singleton, List.mem_flatMap] at hq
        exact hq.symm
      | false =>
        rw [if_neg Bool.false_ne_true, List.mem_cons, List.mem_flatMap] at hq
        exact hq
    rcases this with rfl | ⟨m, hm, hq⟩
    · rfl
    · split at hq
      · rw [List.mem_singleton] at hq
        rw [hq, h p m hm]
      · rw [ih m q hq, h p m hm]

theorem total_upToEnds (h : ∀ p, ∀ q ∈ body p, q.total = p.total) (greedy : Bool) (n : Nat)
    (p : Cursor) : ∀ q ∈ upToEnds body greedy n p, q.total = p.total := by
  induction n generalizing p with
  | zero => intro q hq; rw [upToEnds, List.mem_singleton] at hq; rw [hq]
  | succ n ih =>
    intro q hq
    have : q = p ∨ ∃ m ∈ body p, q ∈ upToEnds body greedy n m := by
      rw [upToEnds] at hq
      cases greedy with
      | true =>
        rw [if_pos rfl, List.mem_append, List.mem_singleton, List.mem_flatMap] at hq
        exact hq.symm
      | false =>
        rw [if_neg Bool.false_ne_true, List.mem_cons, List.mem_flatMap] at hq
        exact hq
    rcases this with rfl | ⟨m, hm, hq⟩
    · rfl
    · rw [ih m q hq, h p m hm]

theorem total_timesEnds (h : ∀ p, ∀ q ∈ body p, q.total = p.total)
    (hlast : ∀ p, ∀ q ∈ last p, q.total = p.total) (n : Nat) (p : Cursor) :
    ∀ q ∈ timesEnds body last n p, q.total = p.total := by
  induction n generalizing p with
  | zero => exact hlast p
  | succ n ih =>
    intro q hq
    rw [timesEnds, List.mem_flatMap] at hq
    obtain ⟨m, hm, hq⟩ := hq
    rw [ih m q hq, h p m hm]

end

namespace Regex

theorem total_ends (r : Regex) (p : Cursor) : ∀ q ∈ r.ends p, q.total = p.total := by
  induction r generalizing p with
  | empty => intro q hq; rw [ends, List.mem_singleton] at hq; rw [hq]
  | text t => exact p.total_passAll t
  | set s =>
    intro q hq
    rw [ends] at hq
    split at hq
    · simp at hq
    · next c rest h =>
      split at hq
      · rw [List.mem_singleton] at hq
        rw [hq, Cursor.total_pass h]
      · simp at hq
  | look l =>
    intro q hq
    rw [ends] at hq
    split at hq
    · rw [List.mem_singleton] at hq
      rw [hq]
    · simp at hq
  | seq a b iha ihb =>
    intro q hq
    rw [ends, List.mem_flatMap] at hq
    obtain ⟨m, hm, hq⟩ := hq
    rw [ihb m q hq, iha p m hm]
  | alt a b iha ihb =>
    intro q hq
    rw [ends, List.mem_append] at hq
    exact hq.elim (iha p q) (ihb p q)
  | rep least most greedy a ih =>
    cases most with
    | none => exact total_timesEnds ih (fun p => total_starEnds ih greedy p.rest p) least p
    | some most => exact total_timesEnds ih (total_upToEnds ih greedy (most - least)) least p
  | group index a ih => exact ih p

theorem matchEnd?_le (r : Regex) (t : Text) : ∀ n ∈ r.matchEnd? t, n ≤ t.length := by
  intro n hn
  rw [matchEnd?, matcher] at hn
  split at hn
  · rw [Matcher.matchEnd?, run_eq, Option.mem_def, Option.map_eq_some_iff] at hn
    obtain ⟨q, hq, rfl⟩ := hn
    obtain ⟨m, hm, hmq⟩ := List.exists_of_findSome?_eq_some hq
    have := r.total_ends (Cursor.start t) m hm
    simp only [Option.some.injEq] at hmq
    subst hmq
    simp only [Cursor.total, Cursor.start] at this
    omega
  · exact r.program.search_le r.anchored t n hn

end Regex

end Workbench.Pattern
