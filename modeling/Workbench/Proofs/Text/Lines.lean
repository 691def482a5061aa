import Mathlib.Data.List.Basic
import Mathlib.Data.List.Induction
import Workbench.Text.Lines

/-!
# The shape of the lines of a text

A line of `pieces` has a newline at its end or nowhere (`newline_not_mem_dropLast`), and only the
last line can lack it (`ended_of_mem_dropLast`).  `Ended` says that a text ends in a newline or is
empty: such a text has a line for each newline (`Ended.length_pieces`), and what follows it begins
a line of its own (`Ended.pieces_append`).  Every text is such a text and the front of one more line
(`exists_lineFront`).  What `stripEnd` drops at the end of a line is a carriage return and a
newline, a newline, or nothing.
-/

namespace Workbench.Text

theorem pieces_cons_of_ne {c : Char} (hc : c ≠ '\n') (t : Text) :
    pieces (c :: t) = match pieces t with
      | [] => [[c]]
      | p :: ps => (c :: p) :: ps := by
  cases h : pieces t with
  | nil => rw [pieces, if_neg hc, h]
  | cons p ps => rw [pieces, if_neg hc, h]

/-- a line has a newline at its end or nowhere -/
theorem newline_not_mem_dropLast (t : Text) : ∀ p ∈ pieces t, '\n' ∉ p.dropLast := by
  induction t with
  | nil => intro p hp; cases hp
  | cons c t ih =>
    intro p hp
    by_cases hc : c = '\n'
    · rw [hc, pieces_newline] at hp
      rcases List.mem_cons.1 hp with rfl | hp
      · exact List.not_mem_nil
      · exact ih p hp
    · rw [pieces_cons_of_ne hc] at hp
      cases ht : pieces t with
      | nil =>
        rw [ht] at hp
        rw [List.mem_singleton.1 hp]
        exact List.not_mem_nil
      | cons q qs =>
        rw [ht] at hp ih
        rcases List.mem_cons.1 hp with rfl | hp
        · have hq : q ≠ [] := pieces_ne_nil t q (ht ▸ List.mem_cons_self)
          rw [List.dropLast_cons_of_ne_nil hq, List.mem_cons, not_or]
          exact ⟨fun h => hc h.symm, ih q List.mem_cons_self⟩
        · exact ih p (List.mem_cons_of_mem _ hp)

/-- only the last line can lack its newline -/
theorem ended_of_mem_dropLast (t : Text) : ∀ p ∈ (pieces t).dropLast, ∃ l, p = l ++ ['\n'] := by
  induction t with
  | nil => intro p hp; cases hp
  | cons c t ih =>
    intro p hp
    by_cases hc : c = '\n'
    · rw [hc, pieces_newline] at hp
      cases ht : pieces t with
      | nil => rw [ht] at hp; cases hp
      | cons q qs =>
        rw [ht, List.dropLast_cons_cons] at hp
        rcases List.mem_cons.1 hp with rfl | hp
        · exact ⟨[], rfl⟩
        · exact ih p (ht ▸ hp)
    · rw [pieces_cons_of_ne hc] at hp
      cases ht : pieces t with
      | nil => rw [ht] at hp; cases hp
      | cons q qs =>
        rw [ht] at hp ih
        cases qs with
        | nil => cases hp
        | cons r rs =>
          rw [List.dropLast_cons_cons] at hp ih
          rcases List.mem_cons.1 hp with rfl | hp
          · obtain ⟨l, hl⟩ := ih q List.mem_cons_self
            exact ⟨c :: l, by rw [hl, List.cons_append]⟩
          · exact ih p (List.mem_cons_of_mem _ hp)

/-! ## texts that end in a newline -/

/-- the last character, if there is one, is a newline -/
def Ended (t : Text) : Prop := ∀ c ∈ t.getLast?, c = '\n'

@[simp] theorem ended_nil : Ended [] := fun _ hc => nomatch hc

theorem ended_append_newline (t : Text) : Ended (t ++ ['\n']) := by
  intro c hc
  rw [List.getLast?_append, List.getLast?_singleton, Option.some_or, Option.mem_some] at hc
  exact hc.symm

theorem Ended.append {a b : Text} (ha : Ended a) (hb : Ended b) : Ended (a ++ b) := by
  intro c hc
  rw [List.getLast?_append] at hc
  cases h : b.getLast? with
  | none => rw [h, Option.none_or] at hc; exact ha c hc
  | some d => rw [h, Option.some_or] at hc; exact hb c (h ▸ hc)

theorem Ended.of_append {a b : Text} (h : Ended (a ++ b)) : Ended b := by
  intro c hc
  refine h c ?_
  rw [Option.mem_def] at hc
  rw [List.getLast?_append, hc]
  rfl

theorem Ended.mem {t : Text} (h : Ended t) (ht : t ≠ []) : '\n' ∈ t := by
  have hl := List.getLast?_eq_some_getLast ht
  have hc : t.getLast ht = '\n' := h _ hl
  rw [← hc]
  exact List.getLast_mem ht

theorem ended_of_mem_pieces (t : Text) : ∀ p ∈ (pieces t).dropLast, Ended p := by
  intro p hp
  obtain ⟨l, rfl⟩ := t.ended_of_mem_dropLast p hp
  exact ended_append_newline l

/-- a text of several lines that ends in a newline has a first line -/
theorem Ended.exists_pieces_tail {c : Char} {t : Text} (h : Ended (c :: t)) (hc : c ≠ '\n') :
    ∃ p ps, pieces t = p :: ps := by
  cases ht : pieces t with
  | cons p ps => exact ⟨p, ps, rfl⟩
  | nil =>
    have hnil : t = [] := by rw [← flatten_pieces t, ht, List.flatten_nil]
    rw [hnil] at h
    exact absurd (h c rfl) hc

/-- what follows a newline begins a line of its own -/
theorem Ended.pieces_append {a : Text} (h : Ended a) (b : Text) :
    pieces (a ++ b) = pieces a ++ pieces b := by
  induction a with
  | nil => rfl
  | cons c a ih =>
    have ih' := ih (Ended.of_append (a := [c]) h)
    rw [List.cons_append]
    by_cases hc : c = '\n'
    · rw [hc, pieces_newline, pieces_newline, ih', List.cons_append]
    · obtain ⟨p, ps, hp⟩ := h.exists_pieces_tail hc
      rw [pieces_cons_of_ne hc, pieces_cons_of_ne hc, ih', hp]
      rfl

/-- a text that ends in a newline has a line for each newline -/
theorem Ended.length_pieces {t : Text} (h : Ended t) : (pieces t).length = t.count '\n' := by
  induction t with
  | nil => rfl
  | cons c t ih =>
    have ih' := ih (Ended.of_append (a := [c]) h)
    by_cases hc : c = '\n'
    · rw [hc, pieces_newline, List.length_cons, ih', List.count_cons_self]
    · obtain ⟨p, ps, hp⟩ := h.exists_pieces_tail hc
      rw [pieces_cons_of_ne hc, List.count_cons_of_ne hc, ← ih', hp]
      rfl

/-- full lines are none, or they end in a newline -/
theorem Ended.eq_nil_or {t : Text} (h : t.Ended) : t = [] ∨ ∃ l, t = l ++ ['\n'] := by
  rcases List.eq_nil_or_concat' t with rfl | ⟨l, c, rfl⟩
  · exact .inl rfl
  · have hc : c = '\n' := h c (List.getLast?_concat ..)
    exact .inr ⟨l, by rw [hc]⟩

/-! ## the line that is not ended -/

/-- a text is some full lines and the front of a line -/
theorem exists_lineFront (t : Text) :
    ∃ above front, t = above ++ front ∧ above.Ended ∧ '\n' ∉ front := by
  induction t using List.reverseRecOn with
  | nil => exact ⟨[], [], rfl, ended_nil, List.not_mem_nil⟩
  | append_singleton t c ih =>
    by_cases hc : c = '\n'
    · refine ⟨t ++ [c], [], (List.append_nil _).symm, ?_, List.not_mem_nil⟩
      rw [hc]
      exact ended_append_newline t
    · obtain ⟨above, front, ht, habove, hfront⟩ := ih
      refine ⟨above, front ++ [c], by rw [ht, List.append_assoc], habove, ?_⟩
      simp [hfront, Ne.symm hc]

/-- a text with a newline at its end or nowhere is one line -/
theorem pieces_line {t : Text} (ht : t ≠ []) (h : '\n' ∉ t.dropLast) : pieces t = [t] := by
  induction t with
  | nil => exact absurd rfl ht
  | cons c t ih =>
    cases t with
    | nil =>
      rw [pieces]
      split <;> rfl
    | cons d t =>
      rw [List.dropLast_cons_cons, List.mem_cons, not_or] at h
      rw [pieces_cons_of_ne (Ne.symm h.1), ih (List.cons_ne_nil d t) h.2]

theorem pieces_append_newline {l : Text} (h : '\n' ∉ l) (rest : Text) :
    pieces (l ++ '\n' :: rest) = (l ++ ['\n']) :: pieces rest := by
  have hline : pieces (l ++ ['\n']) = [l ++ ['\n']] :=
    pieces_line (List.append_ne_nil_of_right_ne_nil l (List.cons_ne_nil _ _))
      (by rwa [List.dropLast_concat])
  rw [List.append_cons, (ended_append_newline l).pieces_append, hline]
  rfl

/-- behind a newline at the end of a text no line begins -/
theorem length_pieces_add (t : Text) :
    (pieces t).length + (if t = [] ∨ t.getLast? = some '\n' then 1 else 0) = t.count '\n' + 1 := by
  obtain ⟨above, front, rfl, habove, hfront⟩ := t.exists_lineFront
  rw [habove.pieces_append, List.length_append, habove.length_pieces, List.count_append,
    List.count_eq_zero.2 hfront]
  by_cases hnil : front = []
  · have hend : above ++ front = [] ∨ (above ++ front).getLast? = some '\n' := by
      rw [hnil, List.append_nil]
      rcases habove.eq_nil_or with rfl | ⟨l, rfl⟩
      · exact .inl rfl
      · exact .inr List.getLast?_concat
    rw [if_pos hend, hnil]
    rfl
  · have hend : ¬ (above ++ front = [] ∨ (above ++ front).getLast? = some '\n') := by
      rintro (h | h)
      · exact hnil (List.append_eq_nil_iff.1 h).2
      · rw [List.getLast?_append_of_ne_nil _ hnil] at h
        exact hfront (List.mem_of_getLast? h)
    rw [if_neg hend, pieces_line hnil fun h => hfront (List.dropLast_subset front h)]
    rfl

/-! ## what ends a line -/

theorem stripEnd_return_newline (l : Text) : stripEnd (l ++ ['\r', '\n']) = l := by
  unfold stripEnd
  rw [List.reverse_append]
  exact l.reverse_reverse

theorem stripEnd_newline {l : Text} (h : l.getLast? ≠ some '\r') :
    stripEnd (l ++ ['\n']) = l := by
  rw [← List.head?_reverse] at h
  unfold stripEnd
  rw [List.reverse_append]
  split
  · next r hr =>
    have hl : l.reverse = '\r' :: r := (List.cons.inj hr).2
    exact absurd (congrArg List.head? hl) h
  · next r _ hr =>
    have hl : l.reverse = r := (List.cons.inj hr).2
    rw [← hl, List.reverse_reverse]
  · next hne => exact absurd rfl (hne l.reverse)

theorem stripEnd_open {l : Text} (h : l.getLast? ≠ some '\n') : stripEnd l = l := by
  rw [← List.head?_reverse] at h
  unfold stripEnd
  split
  · next hr => exact absurd (congrArg List.head? hr) h
  · next hr => exact absurd (congrArg List.head? hr) h
  · rfl

end Workbench.Text
