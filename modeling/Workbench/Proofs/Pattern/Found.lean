import Workbench.Proofs.Pattern.Reached

/-!
# A match is found if there is one

A search takes no step twice at one place, but loses nothing by that: each step that is marked waits
or has been followed (`Spreads.followed`), so a way goes on from a step that waits, and something is
found in the end (`isSome_searchFrom_of_reaches`).  Each end of a match is passed by a way: `Full`.

So a search that is held at the start finds nothing only where no match begins, whatever the
expression: `Regex.search_eq_none_iff`.
-/

namespace Workbench.Pattern

namespace Program

variable {program : Program} {p q : Cursor} {i n : Nat}

/-! ## marked steps -/

section
variable {todo waiting : List Nat} {seen seen' : Array Bool}

theorem Spreads.keeps (h : Spreads program p todo seen waiting seen') (k : Nat)
    (hk : seen.getD k true = true) : seen'.getD k true = true := by
  induction h with
  | nil => exact hk
  | again _ _ ih => exact ih hk
  | fork _ _ _ ih | look _ _ _ ih | wait _ _ _ _ ih =>
    exact ih (by rw [getD_mark, hk, Bool.true_or])

theorem Spreads.marks (h : Spreads program p todo seen waiting seen') :
    ∀ k ∈ todo, seen'.getD k true = true := by
  have hmark (seen : Array Bool) (i : Nat) : (seen.setIfInBounds i true).getD i true = true := by
    rw [getD_mark, beq_self_eq_true, Bool.or_true]
  induction h with
  | nil => nofun
  | again hseen hrest ih => exact List.forall_mem_cons.2 ⟨hrest.keeps _ hseen, ih⟩
  | fork _ _ hrest ih =>
    obtain ⟨-, ih⟩ := List.forall_mem_cons.1 ih
    obtain ⟨-, ih⟩ := List.forall_mem_cons.1 ih
    exact List.forall_mem_cons.2 ⟨hrest.keeps _ (hmark _ _), ih⟩
  | look _ _ hrest ih =>
    refine List.forall_mem_cons.2 ⟨hrest.keeps _ (hmark _ _), fun k hk => ih k ?_⟩
    split
    · exact List.mem_cons_of_mem _ hk
    · exact hk
  | wait _ _ _ hrest ih => exact List.forall_mem_cons.2 ⟨hrest.keeps _ (hmark _ _), ih⟩

/-- a step waits, or the steps that it leads to are marked -/
def Followed (program : Program) (p : Cursor) (waiting : List Nat) (seen : Array Bool) (k : Nat) :
    Prop :=
  match program.steps.getD k .done with
  | .done | .set _ _ => k ∈ waiting
  | .look l next => l.holds p = true → seen.getD next true = true
  | .fork a b => seen.getD a true = true ∧ seen.getD b true = true

theorem Followed.cons {k : Nat} (h : Followed program p waiting seen k) (i : Nat) :
    Followed program p (i :: waiting) seen k := by
  rw [Followed] at h ⊢
  cases hstep : program.steps.getD k .done with
  | done | set => rw [hstep] at h; exact List.mem_cons_of_mem i h
  | look | fork => rw [hstep] at h; exact h

theorem followed_of_mark (hi : Followed program p waiting seen' i) {k : Nat}
    (h : (seen.setIfInBounds i true).getD k true = true ∨ Followed program p waiting seen' k) :
    seen.getD k true = true ∨ Followed program p waiting seen' k := by
  rw [getD_mark, Bool.or_eq_true, beq_iff_eq] at h
  rcases h with (hk | rfl) | hk
  · exact .inl hk
  · exact .inr hi
  · exact .inr hk

/-- what is marked anew has been followed -/
theorem Spreads.followed (h : Spreads program p todo seen waiting seen') (k : Nat)
    (hk : seen'.getD k true = true) :
    seen.getD k true = true ∨ Followed program p waiting seen' k := by
  induction h with
  | nil => exact .inl hk
  | again _ _ ih => exact ih hk
  | fork _ hstep hrest ih =>
    refine followed_of_mark ?_ (ih hk)
    obtain ⟨ha, hrest⟩ := List.forall_mem_cons.1 hrest.marks
    rw [Followed, hstep]
    exact ⟨ha, (List.forall_mem_cons.1 hrest).1⟩
  | look _ hstep hrest ih =>
    refine followed_of_mark ?_ (ih hk)
    rw [Followed, hstep]
    exact fun hl => hrest.marks _ (by rw [if_pos hl]; exact List.mem_cons_self)
  | @wait i _ _ _ _ _ hfork hlook _ ih =>
    refine followed_of_mark ?_ ((ih hk).imp_right fun h => h.cons i)
    rw [Followed]
    cases hstep : program.steps.getD i .done with
    | done | set => exact List.mem_cons_self
    | look l next => exact absurd hstep (hlook l next)
    | fork a b => exact absurd hstep (hfork a b)

end

/-! ## what is reached is found -/

theorem isSome_searchFrom_of_found {todo : List Nat} {found : Option Nat} {taken : Nat}
    {before : Option Char} {rest : Text} (h : found.isSome) :
    (program.searchFrom true todo found taken before rest).isSome := by
  induction rest generalizing todo found taken before with
  | nil => rw [searchFrom_at_end]; exact isSome_foundAt h program _ todo
  | cons c rest ih => rw [searchFrom_held_cons]; exact ih (isSome_foundAt h program _ todo)

section
variable (hclosed : program.steps.Closed)
include hclosed

/-- A way goes on from a step that waits. -/
theorem exists_waiting_of_reaches {todo : List Nat} (hi : i ∈ todo) (hlt : i < program.steps.size)
    (hr : Reaches program n i p q) :
    ∃ j ∈ program.waitingAt p todo, program.isDone j = true ∨ ∃ s next c rest m,
      program.steps.getD j .done = .set s next ∧ p.rest = c :: rest ∧ s.contains c = true
        ∧ Reaches program m next (p.pass c rest) q := by
  obtain ⟨seen, h⟩ := program.spreads_waitingAt p todo
  have hfollowed {k : Nat} (hk : seen.getD k true = true) (hlt : k < program.steps.size) :
      Followed program p (program.waitingAt p todo) seen k :=
    (h.followed k hk).resolve_left (by rw [getD_noMarks hlt]; exact Bool.false_ne_true)
  have hmarked := h.marks i hi
  clear hi
  induction hr with
  | @done i p hstep =>
    have hi := hfollowed hmarked hlt
    rw [Followed, hstep] at hi
    exact ⟨i, hi, .inl (by rw [isDone, hstep]; rfl)⟩
  | @pass n i next p q s c rest hstep hrest hc hr =>
    have hi := hfollowed hmarked hlt
    rw [Followed, hstep] at hi
    exact ⟨i, hi, .inr ⟨s, next, c, rest, n, hstep, hrest, hc, hr⟩⟩
  | @hold n i next p q l hstep hl hr ih =>
    have hi := hfollowed hmarked hlt
    have hbelow := hclosed.below i
    rw [Followed, hstep] at hi
    rw [hstep] at hbelow
    exact ih hbelow h hfollowed (hi hl)
  | @first n i a b p q hstep hr ih =>
    have hi := hfollowed hmarked hlt
    have hbelow := hclosed.below i
    rw [Followed, hstep] at hi
    rw [hstep] at hbelow
    exact ih hbelow.1 h hfollowed hi.1
  | @second n i a b p q hstep hr ih =>
    have hi := hfollowed hmarked hlt
    have hbelow := hclosed.below i
    rw [Followed, hstep] at hi
    rw [hstep] at hbelow
    exact ih hbelow.2 h hfollowed hi.2

theorem isSome_searchFrom_of_reaches {todo : List Nat} {found : Option Nat} {taken : Nat}
    {before : Option Char} {rest : Text} (hi : i ∈ todo) (hlt : i < program.steps.size)
    (hr : Reaches program n i ⟨taken, before, rest⟩ q) :
    (program.searchFrom true todo found taken before rest).isSome := by
  induction rest generalizing i n todo found taken before with
  | nil =>
    obtain ⟨j, hj, hdone | ⟨s, next, c, rest, m, -, hrest, -⟩⟩ :=
      exists_waiting_of_reaches hclosed hi hlt hr
    · rw [searchFrom_at_end, foundAt, if_pos (List.any_eq_true.2 ⟨j, hj, hdone⟩)]
      rfl
    · cases hrest
  | cons c rest ih =>
    obtain ⟨j, hj, hway⟩ := exists_waiting_of_reaches hclosed hi hlt hr
    rw [searchFrom_held_cons]
    cases hany : (program.waitingAt ⟨taken, before, c :: rest⟩ todo).any program.isDone with
    | true =>
      refine isSome_searchFrom_of_found ?_
      rw [foundAt, hany]
      rfl
    | false =>
      rcases hway with hdone | ⟨s, next, d, rest', m, hstep, hrest, hc, hr⟩
      · rw [List.any_eq_true.2 ⟨j, hj, hdone⟩] at hany
        cases hany
      · cases hrest
        have hbelow := hclosed.below j
        rw [hstep] at hbelow
        refine ih (List.mem_filterMap.2 ⟨j, ?_, ?_⟩) hbelow hr
        · rwa [openAt_eq_of_open hany]
        · rw [hstep]
          exact if_pos hc

end

/-! ## each end is reached -/

/-- A way that goes on from an end of a match begins at the entry of the part. -/
def Full (program : Program) (part : (next entry : Nat) → Prop) (body : Cursor → List Cursor) :
    Prop :=
  ∀ ⦃next entry n : Nat⦄ ⦃p m q : Cursor⦄, part next entry → m ∈ body p →
    Reaches program n next m q → ∃ k, Reaches program k entry p q

section
variable {part part' : Nat → Nat → Prop} {body body' : Cursor → List Cursor}

theorem full_nothing : Full program (fun next entry => entry = next) fun p => [p] := by
  rintro next entry n p m q rfl hm h
  exact ⟨n, List.mem_singleton.1 hm ▸ h⟩

theorem Full.behind (h : Full program part body) (h' : Full program part' body') :
    Full program (fun next entry => ∃ m, part next m ∧ part' m entry)
      fun p => (body' p).flatMap body := by
  rintro next entry n p m q ⟨x, hx, hentry⟩ hm hr
  obtain ⟨p', hp', hm⟩ := List.mem_flatMap.1 hm
  obtain ⟨k, hr⟩ := h hx hm hr
  exact h' hentry hp' hr

theorem full_set (s : CharSet) :
    Full program (fun next entry => program.steps[entry]? = some (.set s next))
      (Regex.set s).ends := by
  intro next entry n p m q hstep hm hr
  rw [Regex.ends] at hm
  split at hm
  · cases hm
  · next c rest hrest =>
    split at hm
    · next hc =>
      rw [List.mem_singleton.1 hm] at hr
      exact ⟨_, .pass (step_eq hstep rfl).symm hrest hc hr⟩
    · cases hm

theorem full_look (l : Look) :
    Full program (fun next entry => program.steps[entry]? = some (.look l next))
      (Regex.look l).ends := by
  intro next entry n p m q hstep hm hr
  rw [Regex.ends] at hm
  split at hm
  · next hl =>
    rw [List.mem_singleton.1 hm] at hr
    exact ⟨_, .hold (step_eq hstep rfl).symm hl hr⟩
  · cases hm

theorem full_text (t : Text) : Full program (TextAt program.steps t) fun p => p.passAll t := by
  induction t with
  | nil => exact full_nothing
  | cons c t ih =>
    rw [funext (Cursor.passAll_cons c t)]
    exact ih.behind (full_set _)

theorem reaches_choose {greedy : Bool} {round out : Nat}
    (hstep : program.steps[i]? = some (.choose greedy round out))
    (h : Reaches program n round p q ∨ Reaches program n out p q) :
    Reaches program (n + 1) i p q := by
  cases greedy with
  | true => exact h.elim (.first (step_eq hstep rfl).symm) (.second (step_eq hstep rfl).symm)
  | false => exact h.elim (.second (step_eq hstep rfl).symm) (.first (step_eq hstep rfl).symm)

theorem Full.upTo (h : Full program part body) (greedy : Bool) (n : Nat) :
    Full program (UpToAt program.steps part greedy n) (upToEnds body greedy n) := by
  induction n with
  | zero => exact full_nothing
  | succ n ih =>
    rintro next entry len p m q ⟨x, hx, hstep⟩ hm hr
    rcases mem_upToEnds.1 hm with rfl | ⟨p', hp', hm⟩
    · exact ⟨_, reaches_choose hstep (.inr hr)⟩
    · obtain ⟨k, hr⟩ := (ih.behind h) hx (List.mem_flatMap.2 ⟨p', hp', hm⟩) hr
      exact ⟨_, reaches_choose hstep (.inl hr)⟩

theorem Full.times (h : Full program part body) (n : Nat) :
    Full program (TimesAt part n) (timesEnds body (fun q => [q]) n) := by
  induction n with
  | zero => exact full_nothing
  | succ n ih =>
    rw [funext (timesEnds_concat body n)]
    exact h.behind ih

/-- A round that passes nothing leads to the fork too, and out of the loop from there. -/
theorem Full.loop (h : Full program part body) {greedy : Bool} {round again next : Nat}
    (hround : part again round) (hagain : program.steps[again]? = some (.choose greedy round next))
    {fuel : Text} {m : Cursor} (hi : program.steps[i]? = some (.choose greedy round next))
    (hm : m ∈ starEnds body greedy fuel p) (hr : Reaches program n next m q) :
    ∃ k, Reaches program k i p q := by
  induction fuel generalizing i p with
  | nil =>
    rw [List.mem_singleton.1 hm] at hr
    exact ⟨_, reaches_choose hi (.inr hr)⟩
  | cons x fuel ih =>
    rcases mem_starEnds.1 hm with rfl | ⟨p', hp', hm⟩
    · exact ⟨_, reaches_choose hi (.inr hr)⟩
    · obtain ⟨k, hr⟩ : ∃ k, Reaches program k again p' q := by
        split at hm
        · rw [List.mem_singleton.1 hm] at hr
          exact ⟨_, reaches_choose hagain (.inr hr)⟩
        · exact ih hagain hm
      obtain ⟨k, hr⟩ := h hround hp' hr
      exact ⟨_, reaches_choose hi (.inl hr)⟩

theorem Full.star (h : Full program part body) (greedy : Bool) :
    Full program (LoopAt program.steps part greedy) fun p => starEnds body greedy p.rest p := by
  rintro next entry n p m q ⟨round, again, hround, hagain, hentry⟩ hm hr
  have hentry : program.steps[entry]? = some (.choose greedy round next) :=
    hentry.elim (fun h => h ▸ hagain) id
  exact h.loop hround hagain hentry hm hr

end

end Program

namespace Regex

theorem full_at (r : Regex) (program : Program) : program.Full (r.At program.steps) r.ends := by
  induction r with
  | empty => exact Program.full_nothing
  | text t => exact Program.full_text t
  | set s => exact Program.full_set s
  | look l => exact Program.full_look l
  | seq a b iha ihb => exact ihb.behind iha
  | alt a b iha ihb =>
    rintro next entry n p m q ⟨first, second, ha, hb, hstep⟩ hm hr
    rcases List.mem_append.1 hm with hm | hm
    · obtain ⟨k, hr⟩ := iha ha hm hr
      exact ⟨_, .first (Program.step_eq hstep rfl).symm hr⟩
    · obtain ⟨k, hr⟩ := ihb hb hm hr
      exact ⟨_, .second (Program.step_eq hstep rfl).symm hr⟩
  | rep least most greedy a ih =>
    match least, most with
    | 0, none => exact ih.star greedy
    | n + 1, none =>
      rw [ends_rep_none]
      exact ((ih.star greedy).behind ih).behind (ih.times n)
    | 0, some most =>
      rw [ends_rep_some]
      exact (ih.upTo greedy (most - 0)).behind (ih.times 0)
    | n + 1, some most =>
      rw [ends_rep_some]
      exact (ih.upTo greedy (most - (n + 1))).behind (ih.times (n + 1))
  | group index a ih => exact ih

/-- A search that is held at the start finds nothing only if there is no match from there. -/
theorem search_eq_none_iff (r : Regex) (t : Text) :
    r.program.search true t = none ↔ r.ends (Cursor.start t) = [] := by
  constructor
  · intro h
    refine List.eq_nil_iff_forall_not_mem.2 fun q hq => ?_
    obtain ⟨hat, hdone⟩ := r.at_program
    obtain ⟨hclosed, hstart⟩ := r.program_closed
    obtain ⟨k, hr⟩ := r.full_at r.program hat hq (.done (Program.step_eq hdone rfl).symm)
    have hsome : (r.program.search true t).isSome :=
      Program.isSome_searchFrom_of_reaches hclosed List.mem_cons_self hstart hr
    rw [h] at hsome
    cases hsome
  · intro h
    cases hsearch : r.program.search true t with
    | none => rfl
    | some n =>
      obtain ⟨q, hq, -⟩ := exists_end_of_search hsearch
      rw [h] at hq
      cases hq

end Regex

end Workbench.Pattern
