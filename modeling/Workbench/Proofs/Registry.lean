import Mathlib.Data.List.Basic
import Mathlib.Data.List.Induction
import Workbench.Registry

/-!
# What a registry remembers

A registry is made by changes: registrations of modes and bindings of MIME types.  A change writes
under some key, and a look-up finds what was written last under its key (`get_ofHistory`), however
much was written there before.  So what is found can be said of the history of the registry, and
neither of the two operations needs to be looked at again.

* `LastWrite`       the last change of a history that writes under a key;
* `find_ofHistory`  a key finds the mode registered last under it, or else under the name to which
                    it was bound last; the names are those ever registered, each once, in order.
-/

namespace Workbench.Registry

/-! ## histories -/

/-- what can be done to a registry -/
inductive Change where
  | register (m : Mode)
  | defineMime (mime name : String)

namespace Change

/-- the mode that a change puts under a name -/
def mode? (name : String) : Change → Option Mode
  | .register m => if m.name = name then some m else none
  | .defineMime _ _ => none

/-- the name to which a change binds a MIME type; a registration binds that of its mode -/
def binding? (mime : String) : Change → Option String
  | .register m => if m.mime = mime then some m.name else none
  | .defineMime mime' name => if mime' = mime then some name else none

end Change

def change (r : Registry) : Change → Registry
  | .register m => r.register m
  | .defineMime mime name => r.defineMime mime name

/-- the registry behind changes, of which the first comes first -/
def ofHistory (history : List Change) : Registry := history.foldl change empty

@[simp] theorem ofHistory_concat (history : List Change) (c : Change) :
    ofHistory (history ++ [c]) = (ofHistory history).change c := List.foldl_append

/-! ## the last write -/

section
variable {β : Type}

/-- the last change that writes a value writes the given one -/
def LastWrite (write? : Change → Option β) (history : List Change) (value : β) : Prop :=
  ∃ before c after, history = before ++ c :: after ∧ write? c = some value
    ∧ ∀ d ∈ after, write? d = none

variable {write? : Change → Option β} {history : List Change} {c : Change}

@[simp] theorem not_lastWrite_nil (value : β) : ¬ LastWrite write? [] value := by
  rintro ⟨before, c, after, hsplit, -⟩
  cases before <;> cases hsplit

/-- the last write of a history is that of its last change, or else that of the changes before -/
@[simp] theorem lastWrite_concat (value : β) : LastWrite write? (history ++ [c]) value
    ↔ write? c = some value ∨ write? c = none ∧ LastWrite write? history value := by
  constructor
  · rintro ⟨before, d, after, hsplit, hd, hafter⟩
    rcases List.eq_nil_or_concat' after with rfl | ⟨after, d', rfl⟩
    · obtain ⟨-, hcd⟩ := List.append_inj' hsplit rfl
      obtain rfl := List.singleton_inj.1 hcd
      exact .inl hd
    · rw [← List.cons_append, ← List.append_assoc] at hsplit
      obtain ⟨hhistory, hcd⟩ := List.append_inj' hsplit rfl
      obtain rfl := List.singleton_inj.1 hcd
      obtain ⟨hafter, hc⟩ := List.forall_mem_append.1 hafter
      exact .inr ⟨hc c (List.mem_singleton_self c), before, d, after, hhistory, hd, hafter⟩
  · rintro (hc | ⟨hc, before, d, after, rfl, hd, hafter⟩)
    · exact ⟨history, c, [], rfl, hc, fun _ hd => absurd hd List.not_mem_nil⟩
    · refine ⟨before, d, after ++ [c], by rw [List.append_assoc]; rfl, hd, ?_⟩
      exact List.forall_mem_append.2 ⟨hafter, List.forall_mem_singleton.2 hc⟩

/-- a look-up that finds what a change writes, and otherwise what it found before, finds the last
write -/
theorem get_ofHistory (get : Registry → Option β) (hempty : get empty = none)
    (hchange : ∀ r c, get (r.change c) = (write? c).or (get r)) (history : List Change)
    (value : β) : get (ofHistory history) = some value ↔ LastWrite write? history value := by
  induction history using List.reverseRecOn with
  | nil =>
    show get empty = some value ↔ _
    rw [hempty]
    exact iff_of_false (Option.some_ne_none value).symm (not_lastWrite_nil value)
  | append_singleton history c ih =>
    rw [ofHistory_concat, hchange, Option.or_eq_some_iff, ih, lastWrite_concat]

end

/-! ## modes and bindings -/

theorem named?_change (name : String) (r : Registry) (c : Change) :
    (r.change c).named? name = (c.mode? name).or (r.named? name) := by
  cases c with
  | register m =>
    show (m :: r.modes).find? (·.name == name) = (if m.name = name then some m else none).or _
    rw [List.find?_cons]
    by_cases h : m.name = name
    · rw [if_pos h, beq_iff_eq.2 h, Option.some_or]
    · rw [if_neg h, beq_false_of_ne h, Option.none_or]
      rfl
  | defineMime mime name => rfl

theorem lookup_mimes_change (mime : String) (r : Registry) (c : Change) :
    (r.change c).mimes.lookup mime = (c.binding? mime).or (r.mimes.lookup mime) := by
  have hcons (k name : String) : ((k, name) :: r.mimes).lookup mime
      = (if k = mime then some name else none).or (r.mimes.lookup mime) := by
    rw [List.lookup_cons]
    by_cases h : k = mime
    · rw [if_pos h, h, beq_self_eq_true, Option.some_or]
    · rw [if_neg h, beq_false_of_ne (Ne.symm h), Option.none_or]
  cases c with
  | register m => exact hcons m.mime m.name
  | defineMime k name => exact hcons k name

theorem named?_ofHistory (history : List Change) (name : String) (m : Mode) :
    (ofHistory history).named? name = some m ↔ LastWrite (Change.mode? name) history m :=
  get_ofHistory (·.named? name) rfl (named?_change name) history m

theorem lookup_mimes_ofHistory (history : List Change) (mime name : String) :
    (ofHistory history).mimes.lookup mime = some name
      ↔ LastWrite (Change.binding? mime) history name :=
  get_ofHistory (·.mimes.lookup mime) rfl (lookup_mimes_change mime) history name

/-! ## names -/

/-- whether a history holds a registration under a name -/
def Registered (history : List Change) (name : String) : Prop :=
  ∃ m, .register m ∈ history ∧ m.name = name

theorem mem_modes_ofHistory (history : List Change) (m : Mode) :
    m ∈ (ofHistory history).modes ↔ .register m ∈ history := by
  induction history using List.reverseRecOn with
  | nil => exact iff_of_false List.not_mem_nil List.not_mem_nil
  | append_singleton history c ih =>
    rw [ofHistory_concat, List.mem_append, List.mem_singleton, ← ih]
    cases c with
    | register m' =>
      show m ∈ m' :: (ofHistory history).modes ↔ _
      rw [List.mem_cons, Change.register.injEq, or_comm]
    | defineMime mime name =>
      exact ⟨.inl, fun h => h.resolve_right fun h => nomatch h⟩

theorem named?_eq_none_iff (history : List Change) (name : String) :
    (ofHistory history).named? name = none ↔ ¬ Registered history name := by
  rw [named?, List.find?_eq_none]
  constructor
  · rintro h ⟨m, hm, rfl⟩
    exact h m ((mem_modes_ofHistory history m).2 hm) (beq_self_eq_true m.name)
  · intro h m hm hname
    exact h ⟨m, (mem_modes_ofHistory history m).1 hm, eq_of_beq hname⟩

theorem mem_insertName (name : String) (ns : List String) (x : String) :
    x ∈ insertName name ns ↔ x = name ∨ x ∈ ns := by
  fun_induction insertName name ns with
  | case1 => exact List.mem_cons
  | case2 n ns hlt => exact List.mem_cons
  | case3 ns hlt => rw [List.mem_cons, ← or_assoc, or_self]
  | case4 n ns hlt hne ih => rw [List.mem_cons, ih, List.mem_cons, or_left_comm]

theorem pairwise_insertName (name : String) {ns : List String} (h : ns.Pairwise (· < ·)) :
    (insertName name ns).Pairwise (· < ·) := by
  fun_induction insertName name ns with
  | case1 => exact List.pairwise_singleton _ _
  | case2 n ns hlt =>
    obtain ⟨hn, -⟩ := List.pairwise_cons.1 h
    refine .cons (List.forall_mem_cons.2 ⟨hlt, fun x hx => ?_⟩) h
    exact String.lt_trans hlt (hn x hx)
  | case3 ns hlt => exact h
  | case4 n ns hlt hne ih =>
    obtain ⟨hn, hns⟩ := List.pairwise_cons.1 h
    have hlt' : n < name := Decidable.byContradiction fun hge =>
      hne (String.le_antisymm (String.not_lt.1 hge) (String.not_lt.1 hlt))
    refine .cons (fun x hx => ?_) (ih hns)
    rcases (mem_insertName name ns x).1 hx with rfl | hx
    · exact hlt'
    · exact hn x hx

theorem mem_names (r : Registry) (name : String) :
    name ∈ r.names ↔ name ∈ r.modes.map Mode.name := by
  rw [names]
  induction r.modes with
  | nil => rfl
  | cons m ms ih => rw [List.foldr_cons, mem_insertName, ih, List.map_cons, List.mem_cons]

theorem pairwise_names (r : Registry) : r.names.Pairwise (· < ·) := by
  rw [names]
  induction r.modes with
  | nil => exact .nil
  | cons m ms ih => exact pairwise_insertName m.name ih

/-! ## looking up -/

theorem find_eq (r : Registry) (key : String) :
    r.find key = ((r.named? key).or ((r.mimes.lookup key).bind r.named?)).elim
      (.error (.unknown key)) .ok := by
  rw [find]
  cases r.named? key with
  | some m => rfl
  | none =>
    rw [Option.none_or]
    cases (r.mimes.lookup key).bind r.named? <;> rfl

theorem find_eq_ok_iff (r : Registry) (key : String) (m : Mode) :
    r.find key = .ok m ↔ r.named? key = some m
      ∨ r.named? key = none ∧ ∃ name, r.mimes.lookup key = some name ∧ r.named? name = some m := by
  rw [← Option.bind_eq_some_iff, ← Option.or_eq_some_iff, find_eq]
  cases (r.named? key).or ((r.mimes.lookup key).bind r.named?) with
  | none => exact iff_of_false nofun nofun
  | some m' =>
    exact ⟨fun h => congrArg some (Except.ok.inj h), fun h => congrArg _ (Option.some.inj h)⟩

theorem find_eq_error_iff (r : Registry) (key : String) (e : ModeError) :
    r.find key = .error e ↔ e = .unknown key ∧ r.named? key = none
      ∧ ∀ name, r.mimes.lookup key = some name → r.named? name = none := by
  rw [← Option.bind_eq_none_iff, ← Option.or_eq_none_iff, find_eq]
  cases (r.named? key).or ((r.mimes.lookup key).bind r.named?) with
  | none => exact ⟨fun h => ⟨(Except.error.inj h).symm, rfl⟩, fun h => congrArg _ h.1.symm⟩
  | some m => exact iff_of_false nofun fun h => nomatch h.2

/-- A key finds the mode registered last under it; if none was, the mode registered last under the
name to which the key was bound last, before or after that; and otherwise it is unknown.  The names
are those ever registered, each once, in increasing order. -/
theorem find_ofHistory (history : List Change) (key : String) :
    (∀ m, (ofHistory history).find key = .ok m ↔ LastWrite (Change.mode? key) history m
      ∨ ¬ Registered history key ∧ ∃ name, LastWrite (Change.binding? key) history name
        ∧ LastWrite (Change.mode? name) history m)
    ∧ (∀ e, (ofHistory history).find key = .error e ↔ e = .unknown key ∧ ¬ Registered history key
      ∧ ∀ name, LastWrite (Change.binding? key) history name → ¬ Registered history name)
    ∧ (ofHistory history).names.Pairwise (· < ·)
    ∧ ∀ name, name ∈ (ofHistory history).names ↔ Registered history name := by
  refine ⟨fun m => ?_, fun e => ?_, pairwise_names _, fun name => ?_⟩
  · simp only [find_eq_ok_iff, named?_eq_none_iff, named?_ofHistory, lookup_mimes_ofHistory]
  · simp only [find_eq_error_iff, named?_eq_none_iff, lookup_mimes_ofHistory]
  · simp only [mem_names, List.mem_map, mem_modes_ofHistory, Registered]

end Workbench.Registry
