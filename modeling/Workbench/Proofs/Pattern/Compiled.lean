import Workbench.Proofs.Pattern.Held
import Workbench.Proofs.Pattern.Written

/-!
# Programs mean what their expressions mean

The ends of the matches of an expression are listed in the order of preference.  If its steps are
followed one way after the other, what they lead to is the first of these ends from which the next
step succeeds: `Means`, with a lemma for each way to write steps.  So a search that is held at the
start of the text finds the first end: `Regex.search_eq_firstEnd?`.

This needs that each round of an unbounded repetition passes a character (`Regex.loopsPass`): else
the fork of the loop leads back to itself.  An expression with few ways to match is of this kind.
-/

namespace Workbench.Pattern

/-! ## a match goes forward -/

namespace Cursor

/-- the same place, or one further on -/
def Moves (p q : Cursor) : Prop := q = p ∨ p.taken < q.taken ∧ q.rest.length < p.rest.length

theorem Moves.trans {p q r : Cursor} (h : p.Moves q) (h' : q.Moves r) : p.Moves r := by
  rcases h with rfl | h
  · exact h'
  · rcases h' with rfl | h'
    · exact .inr h
    · exact .inr ⟨Nat.lt_trans h.1 h'.1, Nat.lt_trans h'.2 h.2⟩

theorem moves_pass {p : Cursor} {c : Char} {rest : Text} (h : p.rest = c :: rest) :
    p.Moves (p.pass c rest) :=
  .inr ⟨Nat.lt_succ_self _, by rw [h]; exact Nat.lt_succ_self _⟩

theorem moves_of_mem_passAll {t : Text} {p q : Cursor} (h : q ∈ p.passAll t) : p.Moves q := by
  induction t generalizing p with
  | nil => exact .inl (List.mem_singleton.1 h)
  | cons c t ih =>
    rw [passAll] at h
    split at h
    · cases h
    · next d rest hrest =>
      split at h
      · exact (moves_pass hrest).trans (ih h)
      · cases h

end Cursor

section
variable {body last : Cursor → List Cursor} (hbody : ∀ {p q}, q ∈ body p → p.Moves q)
include hbody

theorem moves_of_mem_starEnds {greedy : Bool} {fuel : Text} {p q : Cursor}
    (h : q ∈ starEnds body greedy fuel p) : p.Moves q := by
  induction fuel generalizing p with
  | nil => exact .inl (List.mem_singleton.1 h)
  | cons x fuel ih =>
    rcases mem_starEnds.1 h with rfl | ⟨m, hm, hq⟩
    · exact .inl rfl
    · split at hq
      · exact List.mem_singleton.1 hq ▸ hbody hm
      · exact (hbody hm).trans (ih hq)

theorem moves_of_mem_upToEnds {greedy : Bool} {n : Nat} {p q : Cursor}
    (h : q ∈ upToEnds body greedy n p) : p.Moves q := by
  induction n generalizing p with
  | zero => exact .inl (List.mem_singleton.1 h)
  | succ n ih =>
    rcases mem_upToEnds.1 h with rfl | ⟨m, hm, hq⟩
    · exact .inl rfl
    · exact (hbody hm).trans (ih hq)

theorem moves_of_mem_timesEnds (hlast : ∀ {p q}, q ∈ last p → p.Moves q) {n : Nat} {p q : Cursor}
    (h : q ∈ timesEnds body last n p) : p.Moves q := by
  induction n generalizing p with
  | zero => exact hlast h
  | succ n ih =>
    obtain ⟨m, hm, hq⟩ := List.mem_flatMap.1 h
    exact (hbody hm).trans (ih hq)

end

theorem Regex.moves_of_mem_ends {r : Regex} {p q : Cursor} (h : q ∈ r.ends p) : p.Moves q := by
  induction r generalizing p q with
  | empty => exact .inl (List.mem_singleton.1 h)
  | text t => exact Cursor.moves_of_mem_passAll h
  | set s =>
    rw [ends] at h
    split at h
    · cases h
    · next c rest hrest =>
      split at h
      · exact List.mem_singleton.1 h ▸ Cursor.moves_pass hrest
      · cases h
  | look l =>
    rw [ends] at h
    split at h
    · exact .inl (List.mem_singleton.1 h)
    · cases h
  | seq a b iha ihb =>
    obtain ⟨m, hm, hq⟩ := List.mem_flatMap.1 h
    exact (iha hm).trans (ihb hq)
  | alt a b iha ihb => exact (List.mem_append.1 h).elim iha ihb
  | rep least most greedy a ih =>
    cases most with
    | none => exact moves_of_mem_timesEnds ih (moves_of_mem_starEnds ih) h
    | some most => exact moves_of_mem_timesEnds ih (moves_of_mem_upToEnds ih) h
  | group index a ih => exact ih h

/-! ## rounds, counted from the end -/

theorem findSome?_congr {α β : Type} {l : List α} {f g : α → Option β} (h : ∀ x ∈ l, f x = g x) :
    l.findSome? f = l.findSome? g := by
  induction l with
  | nil => rfl
  | cons x l ih =>
    obtain ⟨hx, hl⟩ := List.forall_mem_cons.1 h
    rw [List.findSome?_cons, List.findSome?_cons, hx, ih hl]

section
variable (body last : Cursor → List Cursor) (n : Nat) (p : Cursor)

theorem timesEnds_eq_flatMap :
    timesEnds body last n p = (timesEnds body (fun q => [q]) n p).flatMap last := by
  induction n generalizing p with
  | zero => exact (List.flatMap_singleton last p).symm
  | succ n ih => rw [timesEnds, timesEnds, List.flatMap_assoc, funext ih]

theorem timesEnds_succ :
    timesEnds body last (n + 1) p = timesEnds body (fun q => (body q).flatMap last) n p := by
  induction n generalizing p with
  | zero => rfl
  | succ n ih =>
    rw [timesEnds, funext ih]
    rfl

theorem timesEnds_concat : timesEnds body (fun q => [q]) (n + 1) p
    = (timesEnds body (fun q => [q]) n p).flatMap body := by
  rw [timesEnds_succ, timesEnds_eq_flatMap]
  simp only [List.flatMap_singleton']

end

theorem Cursor.passAll_cons (c : Char) (t : Text) (p : Cursor) :
    p.passAll (c :: t) = ((Regex.set (.single c)).ends p).flatMap (passAll t) := by
  rw [passAll, Regex.ends]
  split
  · rfl
  · next d rest _ =>
    by_cases hcd : c = d
    · rw [if_pos hcd, if_pos (by rw [CharSet.contains_single]; exact decide_eq_true hcd.symm)]
      exact (List.flatMap_singleton _ _).symm
    · rw [if_neg hcd,
        if_neg (by rw [CharSet.contains_single, decide_eq_true_iff]; exact Ne.symm hcd)]
      rfl

section
variable (least most n : Nat) (greedy : Bool) (a : Regex)

theorem Regex.ends_rep_some : (rep least (some most) greedy a).ends = fun p =>
    (timesEnds a.ends (fun q => [q]) least p).flatMap (upToEnds a.ends greedy (most - least)) :=
  funext (timesEnds_eq_flatMap a.ends _ least)

theorem Regex.ends_rep_none : (rep (n + 1) none greedy a).ends = fun p =>
    (timesEnds a.ends (fun q => [q]) n p).flatMap fun p =>
      (a.ends p).flatMap fun q => starEnds a.ends greedy q.rest q :=
  funext fun p => (timesEnds_succ a.ends _ n p).trans (timesEnds_eq_flatMap a.ends _ n p)

end

/-! ## the ways of a program, tried one after the other -/

namespace Program

variable {program : Program} {p : Cursor} {i next : Nat}

theorem Leads.led {n : Nat} {o : Option Nat} (h : Leads program n i p o) :
    Led program p i ∧ program.outcome p i = o := ⟨⟨n, o, h⟩, h.eq.2⟩

/-- A fork between a round, which comes to the first success along a list of places, and the way
out. -/
theorem led_choose {greedy : Bool} {round out : Nat} {l : List Cursor}
    (hstep : program.steps[i]? = some (.choose greedy round out)) (hround : Led program p round)
    (heq : program.outcome p round = l.findSome? fun q => program.outcome q out)
    (hout : Led program p out) :
    Led program p i ∧ program.outcome p i
      = (if greedy then l ++ [p] else p :: l).findSome? fun q => program.outcome q out := by
  cases greedy with
  | true =>
    obtain ⟨hled, hi⟩ := (Leads.fork hstep hround.leads hout.leads).led
    rw [hi, heq, if_pos rfl, List.findSome?_append, findSome?_pair]
    exact ⟨hled, rfl⟩
  | false =>
    obtain ⟨hled, hi⟩ := (Leads.fork hstep hout.leads hround.leads).led
    rw [hi, heq, if_neg Bool.false_ne_true, List.findSome?_cons]
    exact ⟨hled, by cases program.outcome p out <;> rfl⟩

theorem forall_mem_choose {greedy : Bool} {l : List Cursor} {P : Cursor → Prop}
    (h : ∀ q ∈ if greedy then l ++ [p] else p :: l, P q) : (∀ q ∈ l, P q) ∧ P p := by
  cases greedy with
  | true => exact (List.forall_mem_append.1 h).imp_right List.forall_mem_singleton.1
  | false => exact (List.forall_mem_cons.1 h).symm

/-- A part leads on as the ends of a match say: to the first of them from which the next step
succeeds. -/
def Means (program : Program) (part : (next entry : Nat) → Prop) (body : Cursor → List Cursor) :
    Prop :=
  ∀ ⦃next entry : Nat⦄ ⦃p : Cursor⦄, part next entry → (∀ q ∈ body p, Led program q next) →
    Led program p entry
      ∧ program.outcome p entry = (body p).findSome? fun q => program.outcome q next

section
variable {part part' : Nat → Nat → Prop} {body body' : Cursor → List Cursor}

theorem means_nothing : Means program (fun next entry => entry = next) fun p => [p] := by
  rintro next entry p rfl h
  exact ⟨h p List.mem_cons_self, (findSome?_pair p fun q => program.outcome q entry).symm⟩

theorem Means.behind (h : Means program part body) (h' : Means program part' body') :
    Means program (fun next entry => ∃ m, part next m ∧ part' m entry)
      fun p => (body' p).flatMap body := by
  rintro next entry p ⟨m, hm, hentry⟩ hnext
  have hm' : ∀ q ∈ body' p, Led program q m
      ∧ program.outcome q m = (body q).findSome? fun q => program.outcome q next := fun q hq =>
    h hm fun q' hq' => hnext q' (List.mem_flatMap.2 ⟨q, hq, hq'⟩)
  obtain ⟨hled, heq⟩ := h' hentry fun q hq => (hm' q hq).1
  refine ⟨hled, ?_⟩
  rw [heq, findSome?_flatMap]
  exact findSome?_congr fun q hq => (hm' q hq).2

theorem means_set (s : CharSet) :
    Means program (fun next entry => program.steps[entry]? = some (.set s next))
      (Regex.set s).ends := by
  intro next entry p hstep hnext
  rw [Regex.ends] at hnext ⊢
  cases hrest : p.rest with
  | nil =>
    exact (Leads.fail hstep fun c rest h => by rw [hrest] at h; cases h).led
  | cons c rest =>
    simp only [hrest] at hnext ⊢
    cases hc : s.contains c with
    | true =>
      simp only [hc, if_true] at hnext ⊢
      rw [findSome?_pair]
      exact (Leads.pass hstep hrest hc (hnext _ List.mem_cons_self).leads).led
    | false =>
      exact (Leads.fail hstep fun d u h => by rw [hrest] at h; cases h; exact hc).led

theorem means_look (l : Look) :
    Means program (fun next entry => program.steps[entry]? = some (.look l next))
      (Regex.look l).ends := by
  intro next entry p hstep hnext
  rw [Regex.ends] at hnext ⊢
  cases hl : l.holds p with
  | true =>
    simp only [hl, if_true] at hnext ⊢
    rw [findSome?_pair]
    exact (Leads.hold hstep hl (hnext _ List.mem_cons_self).leads).led
  | false => exact (Leads.block hstep hl).led

theorem means_text (t : Text) : Means program (TextAt program.steps t) fun p => p.passAll t := by
  induction t with
  | nil => exact means_nothing
  | cons c t ih =>
    rw [funext (Cursor.passAll_cons c t)]
    exact ih.behind (means_set _)

theorem Means.choose (h : Means program part body) (greedy : Bool) :
    Means program (fun next entry => ∃ x, part next x
        ∧ program.steps[entry]? = some (.choose greedy x next))
      fun p => if greedy then body p ++ [p] else p :: body p := by
  rintro next entry p ⟨x, hx, hstep⟩ hnext
  obtain ⟨hbody, hp⟩ := forall_mem_choose hnext
  obtain ⟨hled, heq⟩ := h hx hbody
  exact led_choose hstep hled heq hp

theorem Means.upTo (h : Means program part body) (greedy : Bool) (n : Nat) :
    Means program (UpToAt program.steps part greedy n) (upToEnds body greedy n) := by
  induction n with
  | zero => exact means_nothing
  | succ n ih => exact (ih.behind h).choose greedy

theorem Means.times (h : Means program part body) (n : Nat) :
    Means program (TimesAt part n) (timesEnds body (fun q => [q]) n) := by
  induction n with
  | zero => exact means_nothing
  | succ n ih =>
    rw [funext (timesEnds_concat body n)]
    exact h.behind ih

/-- A loop whose rounds go forward; the text bounds their number. -/
theorem Means.loop (h : Means program part body)
    (hbody : ∀ p, ∀ q ∈ body p, p.taken < q.taken ∧ q.rest.length < p.rest.length) {greedy : Bool}
    {round again next : Nat} (hround : part again round)
    (hagain : program.steps[again]? = some (.choose greedy round next)) {fuel : Text} {p : Cursor}
    (hfuel : p.rest.length ≤ fuel.length)
    (hnext : ∀ q ∈ starEnds body greedy fuel p, Led program q next) :
    ∃ l, starEnds body greedy fuel p = (if greedy then l ++ [p] else p :: l)
      ∧ Led program p round
      ∧ program.outcome p round = l.findSome? fun q => program.outcome q next := by
  induction fuel generalizing p with
  | nil =>
    have hnil : body p = [] := List.eq_nil_iff_forall_not_mem.2 fun q hq => by
      have := (hbody p q hq).2
      rw [List.length_nil] at hfuel
      omega
    obtain ⟨hled, heq⟩ := h (p := p) hround (by rw [hnil]; nofun)
    rw [hnil] at heq
    exact ⟨[], by cases greedy <;> rfl, hled, heq⟩
  | cons x fuel ih =>
    have hmore : (body p).flatMap (fun q =>
          if q.taken = p.taken then [q] else starEnds body greedy fuel q)
        = (body p).flatMap (starEnds body greedy fuel) :=
      List.flatMap_congr fun q hq => if_neg (Nat.ne_of_gt (hbody p q hq).1)
    rw [starEnds, hmore] at hnext ⊢
    have hrounds := (forall_mem_choose hnext).1
    have hq : ∀ q ∈ body p, Led program q again
        ∧ program.outcome q again
          = (starEnds body greedy fuel q).findSome? fun q => program.outcome q next := by
      intro q hq
      have hled : ∀ q' ∈ starEnds body greedy fuel q, Led program q' next := fun q' hq' =>
        hrounds q' (List.mem_flatMap.2 ⟨q, hq, hq'⟩)
      have hlen := (hbody p q hq).2
      rw [List.length_cons] at hfuel
      obtain ⟨l, hl, hledr, heq⟩ := ih (by omega) hled
      rw [hl] at hled ⊢
      exact led_choose hagain hledr heq (forall_mem_choose hled).2
    obtain ⟨hled, heq⟩ := h hround fun q h => (hq q h).1
    refine ⟨_, rfl, hled, ?_⟩
    rw [heq, findSome?_flatMap]
    exact findSome?_congr fun q h => (hq q h).2

theorem Means.star (h : Means program part body)
    (hbody : ∀ p, ∀ q ∈ body p, p.taken < q.taken ∧ q.rest.length < p.rest.length) (greedy : Bool) :
    Means program (LoopAt program.steps part greedy) fun p => starEnds body greedy p.rest p := by
  rintro next entry p ⟨round, again, hround, hagain, hentry⟩ hnext
  have hentry : program.steps[entry]? = some (.choose greedy round next) :=
    hentry.elim (fun h => h ▸ hagain) id
  obtain ⟨l, hl, hled, heq⟩ := h.loop hbody hround hagain (Nat.le_refl _) hnext
  dsimp only at hnext ⊢
  rw [hl] at hnext ⊢
  exact led_choose hentry hled heq (forall_mem_choose hnext).2

end

end Program

namespace Regex

/-- no round of an unbounded repetition is empty -/
def loopsPass : Regex → Bool
  | .empty | .text _ | .set _ | .look _ => true
  | .seq a b | .alt a b => a.loopsPass && b.loopsPass
  | .rep _ most _ a => a.loopsPass && (most.isSome || !a.nullable)
  | .group _ a => a.loopsPass

theorem lt_of_mem_ends {r : Regex} (hr : r.nullable = false) (p : Cursor) :
    ∀ q ∈ r.ends p, p.taken < q.taken ∧ q.rest.length < p.rest.length := by
  intro q hq
  refine (moves_of_mem_ends hq).resolve_left ?_
  rintro rfl
  obtain ⟨s, hs, hpass⟩ := r.spells_of_mem_ends q q hq
  have hnil : s = [] := by
    have := hpass.2
    exact List.length_eq_zero_iff.1 (by omega)
  rw [nullable_of_spells (hnil ▸ hs)] at hr
  cases hr

variable {program : Program}

/-- The steps of an expression lead on as the ends of its matches say. -/
theorem means_at {r : Regex} (hr : r.loopsPass = true) :
    program.Means (r.At program.steps) r.ends := by
  induction r with
  | empty => exact Program.means_nothing
  | text t => exact Program.means_text t
  | set s => exact Program.means_set s
  | look l => exact Program.means_look l
  | seq a b iha ihb =>
    rw [loopsPass, Bool.and_eq_true] at hr
    exact (ihb hr.2).behind (iha hr.1)
  | alt a b iha ihb =>
    rw [loopsPass, Bool.and_eq_true] at hr
    rintro next entry p ⟨first, second, ha, hb, hstep⟩ hnext
    obtain ⟨hnexta, hnextb⟩ := List.forall_mem_append.1 hnext
    obtain ⟨hleda, heqa⟩ := iha hr.1 ha hnexta
    obtain ⟨hledb, heqb⟩ := ihb hr.2 hb hnextb
    obtain ⟨hled, heq⟩ := (Program.Leads.fork hstep hleda.leads hledb.leads).led
    refine ⟨hled, ?_⟩
    rw [heq, heqa, heqb, ends, List.findSome?_append]
  | rep least most greedy a ih =>
    rw [loopsPass, Bool.and_eq_true] at hr
    have ha := ih hr.1
    cases most with
    | some most =>
      rw [ends_rep_some]
      cases least with
      | zero => exact (ha.upTo greedy (most - 0)).behind (ha.times 0)
      | succ n => exact (ha.upTo greedy (most - (n + 1))).behind (ha.times (n + 1))
    | none =>
      have hloop := ha.star (lt_of_mem_ends (by simpa using hr.2)) greedy
      cases least with
      | zero => exact hloop
      | succ n =>
        rw [ends_rep_none]
        exact (hloop.behind ha).behind (ha.times n)
  | group index a ih => exact ih hr

theorem passes_of_isDecided {r : Regex} (h : r.isDecided = true) :
    r.nullable = false ∧ r.loopsPass = true := by
  induction r with
  | text t => exact ⟨by rwa [isDecided, Bool.not_eq_true'] at h, rfl⟩
  | set s => exact ⟨rfl, rfl⟩
  | seq a b iha ihb =>
    rw [isDecided, Bool.and_eq_true] at h
    rw [nullable, loopsPass, (iha h.1).1, (iha h.1).2, (ihb h.2).2]
    exact ⟨rfl, rfl⟩
  | alt a b iha ihb =>
    rw [isDecided, Bool.and_eq_true, Bool.and_eq_true] at h
    rw [nullable, loopsPass, (iha h.1.1).1, (iha h.1.1).2, (ihb h.1.2).1, (ihb h.1.2).2]
    exact ⟨rfl, rfl⟩
  | group index a ih => exact ih h
  | empty | look | rep => cases h

theorem loopsPass_of_waysAfter {r : Regex} {before w : Ways} {passed : CharSet}
    (h : r.waysAfter before passed = some w) : r.loopsPass = true := by
  induction r generalizing before w passed with
  | empty | text | set | look => rfl
  | seq a b iha ihb =>
    rw [waysAfter, Option.bind_eq_some_iff] at h
    obtain ⟨v, ha, hb⟩ := h
    rw [loopsPass, iha ha, ihb hb]
    rfl
  | alt a b iha ihb =>
    rw [waysAfter] at h
    split at h
    · next v v' ha hb =>
      rw [loopsPass, iha ha, ihb hb]
      rfl
    · cases h
  | rep least most greedy a ih =>
    unfold waysAfter at h
    split at h
    · next hdecided =>
      obtain ⟨hnullable, hloops⟩ := passes_of_isDecided hdecided
      rw [loopsPass, hloops, hnullable, Bool.not_false, Bool.or_true]
      rfl
    · split at h
      · next hopt =>
        obtain ⟨v, ha, -⟩ := Option.map_eq_some_iff.1 h
        rw [loopsPass, ih ha, hopt.2]
        rfl
      · cases h
  | group index a ih => exact ih h

theorem loopsPass_of_hasFewWays {r : Regex} (h : r.hasFewWays = true) : r.loopsPass = true := by
  rw [hasFewWays, Option.any_eq_true] at h
  obtain ⟨w, hw, -⟩ := h
  exact loopsPass_of_waysAfter hw

/-- A search that is held at the start finds the first of the ends from there, unless a round of an
unbounded repetition can be empty. -/
theorem search_eq_firstEnd? {r : Regex} (hr : r.loopsPass = true) (t : Text) :
    r.program.search true t = r.firstEnd? t := by
  obtain ⟨hat, hdone⟩ := r.at_program
  have hnext : ∀ q ∈ r.ends (Cursor.start t), r.program.Led q 0 := fun q _ =>
    (Program.Leads.done hdone).led.1
  obtain ⟨hled, heq⟩ := means_at hr hat hnext
  have hend : (fun q => r.program.outcome q 0) = fun q => some q.taken :=
    funext fun q => (Program.Leads.done hdone).led.2
  rw [hend] at heq
  rw [Program.search, Program.searchFrom_outcome (List.forall_mem_singleton.2 hled), findSome?_pair,
    Option.or_none]
  show r.program.outcome (Cursor.start t) r.program.start = _
  rw [heq, firstEnd?]
  cases r.ends (Cursor.start t) <;> rfl

end Regex

end Workbench.Pattern
