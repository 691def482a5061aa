import Workbench.Text.Bytes

/-!
# Tokens

A token is a kind and a span of byte offsets; it does not hold its text.  `layout` puts pieces of
text end to end and gives them their spans.  `coalesce` joins neighbours of one kind whose spans
touch.
-/

namespace Workbench.Scanner

/-! ## spans -/

structure Span where
  start : Nat
  stop : Nat
  deriving DecidableEq, Repr

namespace Span

def length (s : Span) : Nat := s.stop - s.start
def isEmpty (s : Span) : Bool := s.start == s.stop
def shift (s : Span) (n : Nat) : Span := ⟨s.start + n, s.stop + n⟩

/-- the span between two offsets, which have to be in order -/
def between? (start stop : Nat) : Option Span :=
  if start ≤ stop then some ⟨start, stop⟩ else none

/-- the offsets of a text are below this bound -/
def bound : Nat := Nat.pow 2 64

/-- a span moved by a number of bytes, if it still ends below the bound -/
def shift? (s : Span) (n : Nat) : Option Span :=
  if (s.shift n).start < bound ∧ (s.shift n).stop < bound then some (s.shift n) else none

@[simp] theorem length_shift (s : Span) (n : Nat) : (s.shift n).length = s.length := by
  simp only [shift, length]; omega

@[simp] theorem shift_zero (s : Span) : s.shift 0 = s := rfl

@[simp] theorem shift_shift (s : Span) (m n : Nat) : (s.shift m).shift n = s.shift (m + n) := by
  simp only [shift, Nat.add_assoc]

end Span

/-! ## tokens -/

structure Token (K : Type) where
  kind : K
  span : Span
  deriving DecidableEq, Repr

variable {K : Type}

namespace Token

def shift (t : Token K) (n : Nat) : Token K := { t with span := t.span.shift n }

/-- the text of a token, if its span lies in the source and cuts no character -/
def text? (t : Token K) (source : Text) : Option Text :=
  Text.slice source t.span.start t.span.stop

@[simp] theorem kind_shift (t : Token K) (n : Nat) : (t.shift n).kind = t.kind := rfl
@[simp] theorem span_shift (t : Token K) (n : Nat) : (t.shift n).span = t.span.shift n := rfl
@[simp] theorem shift_zero (t : Token K) : t.shift 0 = t := rfl

@[simp] theorem shift_shift (t : Token K) (m n : Nat) :
    (t.shift m).shift n = t.shift (m + n) := by
  simp only [shift, Span.shift_shift]

end Token

/-- pieces of text laid end to end from an offset -/
def layout : Nat → List (K × Text) → List (Token K)
  | _, [] => []
  | n, (k, t) :: ps => ⟨k, n, n + t.bytes⟩ :: layout (n + t.bytes) ps

@[simp] theorem layout_nil (n : Nat) : layout n ([] : List (K × Text)) = [] := rfl
@[simp] theorem layout_cons (n : Nat) (k : K) (t : Text) (ps : List (K × Text)) :
    layout n ((k, t) :: ps) = ⟨k, n, n + t.bytes⟩ :: layout (n + t.bytes) ps := rfl

theorem layout_append (n : Nat) (ps qs : List (K × Text)) :
    layout n (ps ++ qs) = layout n ps ++ layout (n + Text.bytes (ps.map (·.2)).flatten) qs := by
  induction ps generalizing n with
  | nil => simp
  | cons p ps ih =>
    obtain ⟨k, t⟩ := p
    rw [List.cons_append, layout_cons, layout_cons, ih, List.map_cons, List.flatten_cons,
      Text.bytes_append, List.cons_append, Nat.add_assoc]

theorem layout_shift (n m : Nat) (ps : List (K × Text)) :
    (layout n ps).map (·.shift m) = layout (n + m) ps := by
  induction ps generalizing n with
  | nil => rfl
  | cons p ps ih =>
    obtain ⟨k, t⟩ := p
    rw [layout_cons, List.map_cons, ih, layout_cons, Nat.add_right_comm n m]
    simp only [Token.shift, Span.shift, Nat.add_right_comm n t.bytes m]

/-! ## runs of one kind -/

section
variable [DecidableEq K]

/-- the runs of a list of tokens that begins with a run not yet ended -/
def joinRuns (run : Token K) : List (Token K) → List (Token K)
  | [] => [run]
  | t :: ts =>
    if run.kind = t.kind ∧ run.span.stop = t.span.start then
      joinRuns { run with span := ⟨run.span.start, t.span.stop⟩ } ts
    else run :: joinRuns t ts

/-- neighbours of one kind joined where their spans touch -/
def coalesce : List (Token K) → List (Token K)
  | [] => []
  | t :: ts => joinRuns t ts

@[simp] theorem coalesce_nil : coalesce ([] : List (Token K)) = [] := rfl

end

end Workbench.Scanner
