import Workbench.Json.Typed

/-!
# Reading what was written

What readers make of values that were written without blanks: a string of characters that need no
escape (`gives_readString`), one of the names of a choice (`gives_choice`), and a list of values that
are read back one by one (`ReadsBack.gives_list`).

`Gives` says what a reader takes off a text and what it leaves, without the bound on what is left
that the result carries in its type.
-/

namespace Workbench.Json

variable {α : Type}

/-- a reading that takes `a` off its text and leaves `rest` -/
def Gives {n : Nat} (reading : Except Refusal (Taken α n)) (a : α) (rest : Text) : Prop :=
  ∃ shorter, reading = .ok ⟨a, rest, shorter⟩

/-! ## the next character -/

theorem next?_cons {c : Char} (hc : isBlank c = false) (s : Text) :
    next? (c :: s) = some ⟨c, s, Nat.lt_succ_self _⟩ := by
  have hskip : skipBlank (c :: s) = c :: s := by
    rw [skipBlank, List.dropWhile_cons_of_neg (by rw [hc]; exact Bool.false_ne_true)]
  unfold next?
  split
  · next h => rw [hskip] at h; cases h
  · next d r h =>
    rw [hskip, List.cons.injEq] at h
    obtain ⟨rfl, rfl⟩ := h
    rfl

/-! ## strings and choices -/

/-- whether a character stands for itself in a string -/
def isPlain (c : Char) : Bool := c != '"' && c != '\\' && !decide (c.toNat < 0x20)

theorem isPlain_iff (c : Char) :
    isPlain c = true ↔ c ≠ '"' ∧ c ≠ '\\' ∧ ¬ c.toNat < 0x20 := by
  simp [isPlain, and_assoc]

theorem gives_readString {w : Text} (hw : ∀ c ∈ w, isPlain c = true) (s : Text) :
    Gives (readString (w ++ '"' :: s)) w s := by
  induction w with
  | nil =>
    rw [List.nil_append, readString, if_pos rfl]
    exact ⟨_, rfl⟩
  | cons c w ih =>
    obtain ⟨hquote, hslash, hcontrol⟩ := (isPlain_iff c).1 (hw c List.mem_cons_self)
    obtain ⟨_, hread⟩ := ih fun d hd => hw d (List.mem_cons_of_mem _ hd)
    rw [List.cons_append, readString, if_neg hquote, if_neg hslash, if_neg hcontrol, hread]
    exact ⟨_, rfl⟩

/-- one of the names of a choice, between quotes -/
theorem gives_choice {known : List (String × α)} {name : String} {a : α}
    (hplain : ∀ c ∈ name.toList, isPlain c = true)
    (hknown : known.find? (fun k => k.1.toList == name.toList) = some (name, a)) (s : Text) :
    Gives (choice known ('"' :: (name.toList ++ '"' :: s))) a s := by
  obtain ⟨_, hread⟩ := gives_readString hplain s
  rw [choice, next?_cons (by decide)]
  simp only [if_true, hread, chosen, Taken.widen, hknown, Taken.map]
  exact ⟨_, rfl⟩

/-! ## lists -/

/-- what is written is read, whatever follows; it begins like a value -/
structure ReadsBack (read : Reader α) (write : α → Text) : Prop where
  front : ∀ a, ∃ c w, write a = c :: w ∧ isBlank c = false ∧ c ≠ ']'
  back : ∀ a s, Gives (read (write a ++ s)) a s

namespace ReadsBack

variable {read : Reader α} {write : α → Text} (h : ReadsBack read write)
include h

theorem gives_nextElement_first (a : α) (s : Text) :
    Gives (nextElement true (write a ++ s)) true (write a ++ s) := by
  obtain ⟨c, w, hw, hblank, hclose⟩ := h.front a
  rw [hw, List.cons_append, nextElement, next?_cons hblank]
  simp only [if_neg hclose, if_true]
  exact ⟨_, rfl⟩

theorem gives_nextElement_comma (a : α) (s : Text) :
    Gives (nextElement false (',' :: (write a ++ s))) true (write a ++ s) := by
  obtain ⟨c, w, hw, hblank, hclose⟩ := h.front a
  have hcomma : ',' ≠ ']' := by decide
  rw [hw, List.cons_append, nextElement, next?_cons (by decide)]
  simp only [if_neg hcomma, Bool.false_eq_true, if_false, if_true, next?_cons hblank,
    if_neg hclose]
  exact ⟨_, rfl⟩

/-- an element, where the elements behind it are read -/
theorem gives_elements_cons {first : Bool} {t rest s : Text} {a : α} {as : List α}
    (hnext : Gives (nextElement first t) true (write a ++ rest))
    (hrest : Gives (elements read false rest) as s) :
    Gives (elements read first t) (a :: as) s := by
  obtain ⟨_, hnext⟩ := hnext
  obtain ⟨_, hrest⟩ := hrest
  obtain ⟨_, hread⟩ := h.back a rest
  rw [elements, hnext]
  simp only [hread, hrest]
  exact ⟨_, rfl⟩

/-- elements behind the first, each behind a comma -/
theorem gives_elements (as : List α) (s : Text) :
    Gives (elements read false (as.flatMap (',' :: write ·) ++ ']' :: s)) as s := by
  induction as with
  | nil =>
    rw [List.flatMap_nil, List.nil_append, elements, nextElement, next?_cons (by decide)]
    exact ⟨_, rfl⟩
  | cons a as ih =>
    rw [List.flatMap_cons, List.cons_append, List.cons_append, List.append_assoc]
    exact h.gives_elements_cons (h.gives_nextElement_comma a _) ih

/-- a list of at least one element -/
theorem gives_list (a : α) (as : List α) (s : Text) :
    Gives (list read ('[' :: (write a ++ (as.flatMap (',' :: write ·) ++ ']' :: s)))) (a :: as)
      s := by
  obtain ⟨_, helements⟩ := h.gives_elements_cons
    (h.gives_nextElement_first a (as.flatMap (',' :: write ·) ++ ']' :: s)) (h.gives_elements as s)
  rw [list, next?_cons (by decide)]
  simp only [if_true, helements]
  exact ⟨_, rfl⟩

end ReadsBack

end Workbench.Json
