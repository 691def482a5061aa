import Workbench.Text.Bytes

/-!
# Lines of a text

Two ways to take a text apart at its newlines.  `pieces` keeps each newline with the line that it
ends, so nothing is lost (`flatten_pieces`).  `lines` drops the newlines, and one carriage return
before each of them.
-/

namespace Workbench.Text

/-! ## pieces -/

/-- the lines of a text, each with the newline that ends it; only the last can lack one -/
def pieces : Text → List Text
  | [] => []
  | c :: t =>
    if c = '\n' then [c] :: pieces t
    else
      match pieces t with
      | [] => [[c]]
      | p :: ps => (c :: p) :: ps

@[simp] theorem pieces_nil : pieces [] = [] := rfl

@[simp] theorem pieces_newline (t : Text) : pieces ('\n' :: t) = ['\n'] :: pieces t := by
  rw [pieces, if_pos rfl]

@[simp] theorem flatten_pieces (t : Text) : (pieces t).flatten = t := by
  induction t with
  | nil => rfl
  | cons c t ih =>
    rw [pieces]
    split
    · rw [List.flatten_cons, ih]; rfl
    · cases h : pieces t with
      | nil => rw [h] at ih; rw [← ih]; rfl
      | cons p ps => rw [h] at ih; rw [← ih]; rfl

theorem pieces_ne_nil (t : Text) : ∀ p ∈ pieces t, p ≠ [] := by
  induction t with
  | nil => intro p hp; cases hp
  | cons c t ih =>
    intro p hp
    rw [pieces] at hp
    split at hp
    · rcases List.mem_cons.1 hp with h | h
      · rw [h]; exact List.cons_ne_nil _ _
      · exact ih p h
    · cases ht : pieces t with
      | nil =>
        rw [ht] at hp
        rw [List.mem_singleton.1 hp]; exact List.cons_ne_nil _ _
      | cons q qs =>
        rw [ht] at hp
        rcases List.mem_cons.1 hp with h | h
        · rw [h]; exact List.cons_ne_nil _ _
        · exact ih p (ht ▸ List.mem_cons_of_mem _ h)

/-! ## lines -/

/-- a line without its newline and without one carriage return before that -/
def stripEnd (p : Text) : Text :=
  match p.reverse with
  | '\n' :: '\r' :: r => r.reverse
  | '\n' :: r => r.reverse
  | _ => p

/-- the lines of a text without what ends them; an unended last line is kept as it is -/
def lines (t : Text) : List Text := (pieces t).map stripEnd

end Workbench.Text
