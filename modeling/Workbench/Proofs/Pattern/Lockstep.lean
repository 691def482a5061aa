import Workbench.Proofs.Pattern.Spread

/-!
# Ways through a program side by side

A search looks at a place (`foundAt`), lets the open ways pass the next character (`openAt`,
`passing`) and goes on.

* A search that is held at the start finds what the first way that succeeds leads to, as if the ways
  were tried one after the other: `searchFrom_outcome`.
* A search that can begin anew at each place prefers the ways that were begun before, so it finds
  what the held search finds, if that finds anything: `searchFrom_free`.
-/

namespace Workbench.Pattern.Program

/-! ## one place -/

variable {program : Program} {todo : List Nat} {found : Option Nat} {taken : Nat}
  {before : Option Char} {rest : Text} {p : Cursor}

@[simp] theorem waitingAt_nil (program : Program) (p : Cursor) : program.waitingAt p [] = [] := by
  obtain ⟨_, h⟩ := program.spreads_waitingAt p []
  generalize program.waitingAt p [] = waiting at h
  cases h
  rfl

@[simp] theorem searchFrom_nil (program : Program) (found : Option Nat) (taken : Nat)
    (before : Option Char) (rest : Text) :
    program.searchFrom true [] found taken before rest = found := by
  cases rest with
  | nil => rw [searchFrom, waitingAt_nil]; rfl
  | cons c rest => rw [searchFrom, waitingAt_nil]; rfl

/-- the steps that wait in front of the first that ends the match -/
def openAt (program : Program) (p : Cursor) (todo : List Nat) : List Nat :=
  (program.waitingAt p todo).takeWhile fun i => !program.isDone i

/-- the end that is found once a place was looked at -/
def foundAt (program : Program) (p : Cursor) (todo : List Nat) (found : Option Nat) : Option Nat :=
  if (program.waitingAt p todo).any program.isDone then some p.taken else found

theorem searchFrom_at_end (program : Program) (held : Bool) (todo : List Nat) (found : Option Nat)
    (taken : Nat) (before : Option Char) :
    program.searchFrom held todo found taken before []
      = program.foundAt ⟨taken, before, []⟩ todo found := by
  rw [searchFrom]
  rfl

theorem searchFrom_cons (program : Program) (held : Bool) (todo : List Nat) (found : Option Nat)
    (taken : Nat) (before : Option Char) (c : Char) (rest : Text) :
    program.searchFrom held todo found taken before (c :: rest)
      = let next := program.passing c (program.openAt ⟨taken, before, c :: rest⟩ todo)
        let found := program.foundAt ⟨taken, before, c :: rest⟩ todo found
        let next := if held || found.isSome then next else next ++ [program.start]
        if next.isEmpty then found
        else program.searchFrom held next found (taken + 1) (some c) rest := by
  rw [searchFrom]
  rfl

/-- A search that is held at the start goes on with the ways that are open. -/
theorem searchFrom_held_cons (program : Program) (todo : List Nat) (found : Option Nat)
    (taken : Nat) (before : Option Char) (c : Char) (rest : Text) :
    program.searchFrom true todo found taken before (c :: rest)
      = program.searchFrom true
          (program.passing c (program.openAt ⟨taken, before, c :: rest⟩ todo))
          (program.foundAt ⟨taken, before, c :: rest⟩ todo found) (taken + 1) (some c) rest := by
  rw [searchFrom_cons]
  dsimp only
  rw [Bool.true_or, if_pos rfl]
  split
  · next h => rw [List.isEmpty_iff.1 h, searchFrom_nil]
  · rfl

/-! ## a held search follows the ways one after the other -/

/-- the open steps wait for a character -/
theorem exists_set_of_mem_openAt {i : Nat} (h : i ∈ program.openAt p todo) :
    ∃ s next, program.steps.getD i .done = .set s next := by
  obtain ⟨_, hspread⟩ := program.spreads_waitingAt p todo
  rcases hspread.waits i ((List.takeWhile_sublist _).subset h) with hdone | hset
  · have hopen := List.all_eq_true.1 List.all_takeWhile i h
    rw [isDone, hdone] at hopen
    cases hopen
  · exact hset

theorem findSome?_open {f : Nat → Option Nat} {x : Nat} {l : List Nat}
    (h : ∀ i ∈ l, program.isDone i = true → f i = some x) :
    l.findSome? f = ((l.takeWhile fun i => !program.isDone i).findSome? f).or
      (if l.any program.isDone then some x else none) := by
  induction l with
  | nil => rfl
  | cons i l ih =>
    obtain ⟨hi, hl⟩ := List.forall_mem_cons.1 h
    cases hdone : program.isDone i with
    | true =>
      rw [List.takeWhile_cons_of_neg (by rw [hdone]; decide), List.any_cons, hdone,
        List.findSome?_cons, hi hdone]
      rfl
    | false =>
      rw [List.takeWhile_cons_of_pos (by rw [hdone]; rfl), List.any_cons, hdone,
        List.findSome?_cons, List.findSome?_cons, ih hl]
      cases f i <;> rfl

theorem findSome?_waiting (hled : ∀ i ∈ todo, Led program p i) :
    todo.findSome? (program.outcome p)
      = ((program.openAt p todo).findSome? (program.outcome p)).or
          (program.foundAt p todo none) := by
  obtain ⟨hledw, heq⟩ := program.findSome?_waitingAt p hled
  rw [← heq]
  exact findSome?_open fun i hi hdone => (hledw i hi).done (beq_iff_eq.1 hdone)

section
variable {c : Char} (hp : p.rest = c :: rest) (hled : ∀ i ∈ todo, Led program p i)
include hp hled

theorem led_passing : ∀ i ∈ program.passing c (program.openAt p todo),
    Led program (p.pass c rest) i := by
  intro i hi
  obtain ⟨j, hj, hji⟩ := List.mem_filterMap.1 hi
  obtain ⟨s, next, hset⟩ := exists_set_of_mem_openAt hj
  rw [hset] at hji
  dsimp only at hji
  split at hji
  · next hc =>
    cases hji
    have hjled := (program.findSome?_waitingAt p hled).1 j ((List.takeWhile_sublist _).subset hj)
    exact (hjled.pass hset hp hc).1
  · cases hji

theorem findSome?_passing :
    (program.passing c (program.openAt p todo)).findSome? (program.outcome (p.pass c rest))
      = (program.openAt p todo).findSome? (program.outcome p) := by
  have hopen : ∀ i ∈ program.openAt p todo, Led program p i
      ∧ ∃ s next, program.steps.getD i .done = .set s next := fun i hi =>
    ⟨(program.findSome?_waitingAt p hled).1 i ((List.takeWhile_sublist _).subset hi),
      exists_set_of_mem_openAt hi⟩
  generalize program.openAt p todo = l at hopen
  induction l with
  | nil => rfl
  | cons i l ih =>
    obtain ⟨⟨hi, s, next, hset⟩, hl⟩ := List.forall_mem_cons.1 hopen
    have hcons : program.passing c (i :: l)
        = (if s.contains c then [next] else []) ++ program.passing c l := by
      rw [passing, List.filterMap_cons, hset]
      dsimp only
      cases s.contains c <;> rfl
    rw [hcons, List.findSome?_append, ih hl, List.findSome?_cons]
    split
    · next hc =>
      rw [findSome?_pair, (hi.pass hset hp hc).2]
      cases program.outcome (p.pass c rest) next <;> rfl
    · next hc =>
      rw [hi.fail hset fun d u hd => ?_]
      · rfl
      · rw [hp] at hd
        cases hd
        rwa [Bool.not_eq_true] at hc

end

theorem findSome?_open_at_end (hp : p.rest = []) (hled : ∀ i ∈ todo, Led program p i) :
    (program.openAt p todo).findSome? (program.outcome p) = none := by
  refine List.findSome?_eq_none_iff.2 fun i hi => ?_
  obtain ⟨s, next, hset⟩ := exists_set_of_mem_openAt hi
  have hiled := (program.findSome?_waitingAt p hled).1 i ((List.takeWhile_sublist _).subset hi)
  exact hiled.fail hset fun c rest hrest => by rw [hp] at hrest; cases hrest

theorem foundAt_eq_or (program : Program) (p : Cursor) (todo : List Nat) (found : Option Nat) :
    program.foundAt p todo found = (program.foundAt p todo none).or found := by
  rw [foundAt, foundAt]
  split <;> rfl

/-- A search that is held at the start finds what the first way that succeeds leads to. -/
theorem searchFrom_outcome (hled : ∀ i ∈ todo, Led program ⟨taken, before, rest⟩ i) :
    program.searchFrom true todo found taken before rest
      = (todo.findSome? (program.outcome ⟨taken, before, rest⟩)).or found := by
  induction rest generalizing todo found taken before with
  | nil =>
    rw [searchFrom_at_end, findSome?_waiting hled, findSome?_open_at_end rfl hled, foundAt_eq_or]
    rfl
  | cons c rest ih =>
    have hnext := findSome?_passing (p := ⟨taken, before, c :: rest⟩) rfl hled
    rw [Cursor.pass] at hnext
    rw [searchFrom_held_cons, ih (led_passing rfl hled), hnext, foundAt_eq_or,
      findSome?_waiting hled, Option.or_assoc]

/-! ## a search that can begin anew -/

theorem isSome_foundAt (h : found.isSome) (program : Program) (p : Cursor) (todo : List Nat) :
    (program.foundAt p todo found).isSome := by
  rw [foundAt]
  split
  · rfl
  · exact h

/-- once something is found nothing begins anew -/
theorem searchFrom_free_of_found (h : found.isSome) :
    program.searchFrom false todo found taken before rest
      = program.searchFrom true todo found taken before rest := by
  induction rest generalizing todo found taken before with
  | nil => rw [searchFrom_at_end, searchFrom_at_end]
  | cons c rest ih =>
    have hfound := isSome_foundAt h program ⟨taken, before, c :: rest⟩ todo
    rw [searchFrom_held_cons, ← ih hfound, searchFrom_cons]
    dsimp only
    rw [hfound, Bool.or_true, if_pos rfl]
    split
    · next hnil => rw [List.isEmpty_iff.1 hnil, ih hfound, searchFrom_nil]
    · rfl

/-- The end of a match closes the ways that are put behind. -/
theorem openAt_append_of_done (h : (program.waitingAt p todo).any program.isDone = true)
    (others : List Nat) :
    program.openAt p (todo ++ others) = program.openAt p todo
      ∧ ∀ found, program.foundAt p (todo ++ others) found = some p.taken := by
  obtain ⟨ws, hws⟩ := program.exists_waitingAt_append p todo others
  constructor
  · rw [openAt, hws, List.takeWhile_append, if_neg]
    · rfl
    · intro hall
      have hself := (List.takeWhile_prefix _).eq_of_length hall
      obtain ⟨i, hi, hdone⟩ := List.any_eq_true.1 h
      have hopen := List.all_eq_true.1 List.all_takeWhile i (hself ▸ hi)
      rw [hdone] at hopen
      cases hopen
  · intro found
    rw [foundAt, hws, List.any_append, h]
    rfl

/-- As long as no match ends, all that wait are open. -/
theorem takeWhile_open_append {l : List Nat} (h : l.any program.isDone = false) (ws : List Nat) :
    (l ++ ws).takeWhile (fun i => !program.isDone i)
      = l ++ ws.takeWhile fun i => !program.isDone i :=
  List.takeWhile_append_of_pos fun i hi => by
    rw [Bool.not_eq_true', ← Bool.not_eq_true]
    exact List.any_eq_false.1 h i hi

theorem openAt_eq_of_open (h : (program.waitingAt p todo).any program.isDone = false) :
    program.openAt p todo = program.waitingAt p todo := by
  have hopen := takeWhile_open_append h []
  rwa [List.append_nil, List.takeWhile_nil, List.append_nil] at hopen

/-- The ways that are put behind come last. -/
theorem openAt_append_of_open (h : (program.waitingAt p todo).any program.isDone = false)
    (others : List Nat) :
    ∃ ws, program.openAt p (todo ++ others) = program.openAt p todo ++ ws := by
  obtain ⟨ws, hws⟩ := program.exists_waitingAt_append p todo others
  exact ⟨_, by rw [openAt, hws, takeWhile_open_append h, openAt_eq_of_open h]⟩

/-- A search that can begin anew finds what a held search finds, whatever else it follows: the ways
of the held search are preferred to all others. -/
theorem searchFrom_free {n : Nat}
    (h : program.searchFrom true todo none taken before rest = some n) (others : List Nat)
    (found : Option Nat) :
    program.searchFrom false (todo ++ others) found taken before rest = some n := by
  induction rest generalizing todo others found taken before with
  | nil =>
    rw [searchFrom_at_end] at h ⊢
    cases hdone : (program.waitingAt ⟨taken, before, []⟩ todo).any program.isDone with
    | true =>
      rw [foundAt, hdone] at h
      rw [(openAt_append_of_done hdone others).2, ← h]
      rfl
    | false =>
      rw [foundAt, hdone] at h
      cases h
  | cons c rest ih =>
    rw [searchFrom_held_cons] at h
    rw [searchFrom_cons]
    cases hdone : (program.waitingAt ⟨taken, before, c :: rest⟩ todo).any program.isDone with
    | true =>
      -- the others are closed, and from here on nothing begins anew
      obtain ⟨hopen, hfound⟩ := openAt_append_of_done hdone others
      have hfound' : program.foundAt ⟨taken, before, c :: rest⟩ todo none = some taken := by
        rw [foundAt, hdone]
        rfl
      rw [hfound', ← searchFrom_free_of_found rfl] at h
      dsimp only
      rw [hopen, hfound, Option.isSome_some, Bool.or_true, if_pos rfl]
      split
      · next hnil =>
        rw [List.isEmpty_iff.1 hnil, searchFrom_free_of_found rfl, searchFrom_nil] at h
        exact h
      · exact h
    | false =>
      obtain ⟨ws, hopen⟩ := openAt_append_of_open hdone others
      have hfound : program.foundAt ⟨taken, before, c :: rest⟩ todo none = none := by
        rw [foundAt, hdone]
        rfl
      rw [hfound] at h
      dsimp only
      rw [hopen]
      generalize program.foundAt ⟨taken, before, c :: rest⟩ (todo ++ others) found = found'
      generalize program.openAt ⟨taken, before, c :: rest⟩ todo = ways at h ⊢
      have hpassing : program.passing c (ways ++ ws)
          = program.passing c ways ++ program.passing c ws := List.filterMap_append
      have hne : program.passing c ways ≠ [] := by
        intro hnil
        rw [hnil, searchFrom_nil] at h
        cases h
      -- a new way, if there is one, stands behind those of the held search too
      obtain ⟨others', hothers⟩ : ∃ others', (if (false || found'.isSome) = true
          then program.passing c (ways ++ ws)
          else program.passing c (ways ++ ws) ++ [program.start])
            = program.passing c ways ++ others' := by
        rw [hpassing]
        split
        · exact ⟨_, rfl⟩
        · exact ⟨_, List.append_assoc ..⟩
      have hmore : ¬ (program.passing c ways ++ others').isEmpty = true := fun hempty =>
        hne (List.append_eq_nil_iff.1 (List.isEmpty_iff.1 hempty)).1
      rw [hothers, if_neg hmore]
      exact ih h others' found'

end Workbench.Pattern.Program
