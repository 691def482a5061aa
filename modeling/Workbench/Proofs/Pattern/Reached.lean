import Workbench.Proofs.Pattern.Compiled

/-!
# What a search finds is the end of a match

A way through a program is a list of steps that follow each other (`Reaches`).  A search finds only
what a way from one of its steps reaches (`exists_reaches_of_searchFrom`), and each way through the
steps of an expression leads over one of the ends of its matches: `Sound`.  Here a round that passes
nothing does no harm, since a way is followed by its length.

So what a search from the start finds is the end of a match there, whatever the expression
(`Regex.exists_end_of_search`), and it is the leftmost match (`Regex.matchEnd?_of_search`).
-/

namespace Workbench.Pattern

namespace Program

variable {program : Program} {p q : Cursor} {i n : Nat}

/-- A way from a step at one place to the end of a match at another, with its length. -/
inductive Reaches (program : Program) : (length i : Nat) → (p q : Cursor) → Prop
  | done {i : Nat} {p : Cursor} (hstep : program.steps.getD i .done = .done) :
      Reaches program 0 i p p
  | pass {n i next : Nat} {p q : Cursor} {s : CharSet} {c : Char} {rest : Text}
      (hstep : program.steps.getD i .done = .set s next) (hrest : p.rest = c :: rest)
      (hc : s.contains c = true) (h : Reaches program n next (p.pass c rest) q) :
      Reaches program (n + 1) i p q
  | hold {n i next : Nat} {p q : Cursor} {l : Look}
      (hstep : program.steps.getD i .done = .look l next) (hl : l.holds p = true)
      (h : Reaches program n next p q) : Reaches program (n + 1) i p q
  | first {n i a b : Nat} {p q : Cursor} (hstep : program.steps.getD i .done = .fork a b)
      (h : Reaches program n a p q) : Reaches program (n + 1) i p q
  | second {n i a b : Nat} {p q : Cursor} (hstep : program.steps.getD i .done = .fork a b)
      (h : Reaches program n b p q) : Reaches program (n + 1) i p q

/-! ## what is found is reached -/

theorem Spreads.exists_reaches {todo waiting : List Nat} {seen seen' : Array Bool}
    (h : Spreads program p todo seen waiting seen') (hi : i ∈ waiting)
    (hr : Reaches program n i p q) : ∃ j ∈ todo, ∃ m, Reaches program m j p q := by
  induction h with
  | nil => cases hi
  | again _ _ ih =>
    obtain ⟨j, hj, hr⟩ := ih hi
    exact ⟨j, List.mem_cons_of_mem _ hj, hr⟩
  | @fork k a b _ _ _ _ _ hstep _ ih =>
    obtain ⟨j, hj, m, hr⟩ := ih hi
    rcases List.mem_cons.1 hj with rfl | hj
    · exact ⟨k, List.mem_cons_self, _, .first hstep hr⟩
    · rcases List.mem_cons.1 hj with rfl | hj
      · exact ⟨k, List.mem_cons_self, _, .second hstep hr⟩
      · exact ⟨j, List.mem_cons_of_mem _ hj, m, hr⟩
  | @look k next l _ _ _ _ _ hstep _ ih =>
    obtain ⟨j, hj, m, hr⟩ := ih hi
    split at hj
    · next hl =>
      rcases List.mem_cons.1 hj with rfl | hj
      · exact ⟨k, List.mem_cons_self, _, .hold hstep hl hr⟩
      · exact ⟨j, List.mem_cons_of_mem _ hj, m, hr⟩
    · exact ⟨j, List.mem_cons_of_mem _ hj, m, hr⟩
  | @wait k _ _ _ _ _ _ _ _ ih =>
    rcases List.mem_cons.1 hi with rfl | hi
    · exact ⟨i, List.mem_cons_self, n, hr⟩
    · obtain ⟨j, hj, hr⟩ := ih hi
      exact ⟨j, List.mem_cons_of_mem _ hj, hr⟩

theorem exists_reaches_of_waitingAt {todo : List Nat} (hi : i ∈ program.waitingAt p todo)
    (hr : Reaches program n i p q) : ∃ j ∈ todo, ∃ m, Reaches program m j p q := by
  obtain ⟨_, h⟩ := program.spreads_waitingAt p todo
  exact h.exists_reaches hi hr

theorem exists_reaches_of_foundAt {todo : List Nat} {found : Option Nat}
    (h : program.foundAt p todo found = some n) :
    found = some n ∨ ∃ j ∈ todo, ∃ m q, Reaches program m j p q ∧ q.taken = n := by
  rw [foundAt] at h
  split at h
  · next hany =>
    obtain ⟨i, hi, hdone⟩ := List.any_eq_true.1 hany
    obtain ⟨j, hj, m, hr⟩ := exists_reaches_of_waitingAt hi (.done (beq_iff_eq.1 hdone))
    exact .inr ⟨j, hj, m, p, hr, Option.some.inj h⟩
  · exact .inl h

theorem exists_reaches_of_passing {todo : List Nat} {c : Char} {rest : Text}
    (hp : p.rest = c :: rest) (hi : i ∈ program.passing c (program.openAt p todo))
    (hr : Reaches program n i (p.pass c rest) q) : ∃ j ∈ todo, ∃ m, Reaches program m j p q := by
  obtain ⟨j, hj, hji⟩ := List.mem_filterMap.1 hi
  split at hji
  · next s next hset =>
    split at hji
    · next hc =>
      cases hji
      exact exists_reaches_of_waitingAt ((List.takeWhile_sublist _).subset hj) (.pass hset hp hc hr)
    · cases hji
  · cases hji

theorem exists_reaches_of_searchFrom {todo : List Nat} {found : Option Nat} {taken : Nat}
    {before : Option Char} {rest : Text}
    (h : program.searchFrom true todo found taken before rest = some n) :
    found = some n
      ∨ ∃ j ∈ todo, ∃ m q, Reaches program m j ⟨taken, before, rest⟩ q ∧ q.taken = n := by
  induction rest generalizing todo found taken before with
  | nil =>
    rw [searchFrom_at_end] at h
    exact exists_reaches_of_foundAt h
  | cons c rest ih =>
    rw [searchFrom_held_cons] at h
    rcases ih h with h | ⟨i, hi, m, q, hr, hq⟩
    · exact exists_reaches_of_foundAt h
    · obtain ⟨j, hj, m, hr⟩ := exists_reaches_of_passing rfl hi hr
      exact .inr ⟨j, hj, m, q, hr, hq⟩

/-! ## the ways through a part -/

/-- Each way through a part leads over one of the ends of a match to the next step. -/
def Sound (program : Program) (part : (next entry : Nat) → Prop) (body : Cursor → List Cursor) :
    Prop :=
  ∀ ⦃next entry n : Nat⦄ ⦃p q : Cursor⦄, part next entry → Reaches program n entry p q →
    ∃ m ∈ body p, ∃ k ≤ n, Reaches program k next m q

section
variable {part part' : Nat → Nat → Prop} {body body' : Cursor → List Cursor}

theorem sound_nothing : Sound program (fun next entry => entry = next) fun p => [p] := by
  rintro next entry n p q rfl h
  exact ⟨p, List.mem_cons_self, n, Nat.le_refl n, h⟩

theorem Sound.behind (h : Sound program part body) (h' : Sound program part' body') :
    Sound program (fun next entry => ∃ m, part next m ∧ part' m entry)
      fun p => (body' p).flatMap body := by
  rintro next entry n p q ⟨m, hm, hentry⟩ hr
  obtain ⟨p₁, hp₁, k, hk, hr⟩ := h' hentry hr
  obtain ⟨p₂, hp₂, k', hk', hr⟩ := h hm hr
  exact ⟨p₂, List.mem_flatMap.2 ⟨p₁, hp₁, hp₂⟩, k', Nat.le_trans hk' hk, hr⟩

theorem sound_set (s : CharSet) :
    Sound program (fun next entry => program.steps[entry]? = some (.set s next))
      (Regex.set s).ends := by
  intro next entry n p q hstep hr
  cases hr with
  | pass hstep' hrest hc h =>
    cases step_eq hstep hstep'
    refine ⟨_, ?_, _, Nat.le_succ _, h⟩
    rw [Regex.ends, hrest]
    dsimp only
    rw [if_pos hc]
    exact List.mem_cons_self
  | done hstep' | hold hstep' | first hstep' | second hstep' => cases step_eq hstep hstep'

theorem sound_look (l : Look) :
    Sound program (fun next entry => program.steps[entry]? = some (.look l next))
      (Regex.look l).ends := by
  intro next entry n p q hstep hr
  cases hr with
  | hold hstep' hl h =>
    cases step_eq hstep hstep'
    refine ⟨_, ?_, _, Nat.le_succ _, h⟩
    rw [Regex.ends, if_pos hl]
    exact List.mem_cons_self
  | done hstep' | pass hstep' | first hstep' | second hstep' => cases step_eq hstep hstep'

theorem Reaches.fork {a b : Nat} (hstep : program.steps[i]? = some (.fork a b))
    (h : Reaches program n i p q) :
    ∃ k < n, Reaches program k a p q ∨ Reaches program k b p q := by
  cases h with
  | first hstep' h =>
    cases step_eq hstep hstep'
    exact ⟨_, Nat.lt_succ_self _, .inl h⟩
  | second hstep' h =>
    cases step_eq hstep hstep'
    exact ⟨_, Nat.lt_succ_self _, .inr h⟩
  | done hstep' | pass hstep' | hold hstep' => cases step_eq hstep hstep'

theorem Reaches.choose {greedy : Bool} {round out : Nat}
    (hstep : program.steps[i]? = some (.choose greedy round out)) (h : Reaches program n i p q) :
    ∃ k < n, Reaches program k round p q ∨ Reaches program k out p q := by
  cases greedy with
  | true => exact h.fork hstep
  | false =>
    obtain ⟨k, hk, h⟩ := h.fork hstep
    exact ⟨k, hk, h.symm⟩

theorem sound_text (t : Text) : Sound program (TextAt program.steps t) fun p => p.passAll t := by
  induction t with
  | nil => exact sound_nothing
  | cons c t ih =>
    rw [funext (Cursor.passAll_cons c t)]
    exact ih.behind (sound_set _)

theorem Sound.upTo (h : Sound program part body) (greedy : Bool) (n : Nat) :
    Sound program (UpToAt program.steps part greedy n) (upToEnds body greedy n) := by
  induction n with
  | zero => exact sound_nothing
  | succ n ih =>
    rintro next entry len p q ⟨x, hx, hstep⟩ hr
    obtain ⟨k, hk, hr | hr⟩ := hr.choose hstep
    · obtain ⟨m, hm, k', hk', hr⟩ := (ih.behind h) hx hr
      exact ⟨m, mem_upToEnds.2 (.inr (List.mem_flatMap.1 hm)), k', by omega, hr⟩
    · exact ⟨p, mem_upToEnds.2 (.inl rfl), k, Nat.le_of_lt hk, hr⟩

theorem Sound.times (h : Sound program part body) (n : Nat) :
    Sound program (TimesAt part n) (timesEnds body (fun q => [q]) n) := by
  induction n with
  | zero => exact sound_nothing
  | succ n ih =>
    rw [funext (timesEnds_concat body n)]
    exact h.behind ih

/-- The rounds of a loop are counted by the length of the way, so a round that passes nothing does
not hold it up. -/
theorem Sound.loop (h : Sound program part body) (hbody : ∀ {p q}, q ∈ body p → p.Moves q)
    {greedy : Bool} {round again next : Nat} (hround : part again round)
    (hagain : program.steps[again]? = some (.choose greedy round next)) {fuel : Text}
    (hfuel : p.rest.length ≤ fuel.length)
    (hi : program.steps[i]? = some (.choose greedy round next)) (hr : Reaches program n i p q) :
    ∃ m ∈ starEnds body greedy fuel p, ∃ k ≤ n, Reaches program k next m q := by
  induction n using Nat.strongRecOn generalizing i p fuel with
  | ind n ih =>
    obtain ⟨k, hk, hr | hr⟩ := hr.choose hi
    · obtain ⟨p₁, hp₁, k₁, hk₁, hr⟩ := h hround hr
      rcases hbody hp₁ with hp | ⟨htaken, hlen⟩
      · obtain ⟨m, hm, k₂, hk₂, hr⟩ := ih k₁ (by omega) hfuel hagain (hp ▸ hr)
        exact ⟨m, hm, k₂, by omega, hr⟩
      · cases fuel with
        | nil => rw [List.length_nil] at hfuel; omega
        | cons x fuel =>
          rw [List.length_cons] at hfuel
          obtain ⟨m, hm, k₂, hk₂, hr⟩ := @ih k₁ (by omega) _ _ fuel (by omega) hagain hr
          refine ⟨m, mem_starEnds.2 (.inr ⟨p₁, hp₁, ?_⟩), k₂, by omega, hr⟩
          rwa [if_neg (Nat.ne_of_gt htaken)]
    · refine ⟨p, ?_, k, Nat.le_of_lt hk, hr⟩
      cases fuel with
      | nil => exact List.mem_cons_self
      | cons x fuel => exact mem_starEnds.2 (.inl rfl)

theorem Sound.star (h : Sound program part body) (hbody : ∀ {p q}, q ∈ body p → p.Moves q)
    (greedy : Bool) :
    Sound program (LoopAt program.steps part greedy) fun p => starEnds body greedy p.rest p := by
  rintro next entry n p q ⟨round, again, hround, hagain, hentry⟩ hr
  have hentry : program.steps[entry]? = some (.choose greedy round next) :=
    hentry.elim (fun h => h ▸ hagain) id
  exact h.loop hbody hround hagain (Nat.le_refl _) hentry hr

end

end Program

namespace Regex

theorem sound_at (r : Regex) (program : Program) : program.Sound (r.At program.steps) r.ends := by
  induction r with
  | empty => exact Program.sound_nothing
  | text t => exact Program.sound_text t
  | set s => exact Program.sound_set s
  | look l => exact Program.sound_look l
  | seq a b iha ihb => exact ihb.behind iha
  | alt a b iha ihb =>
    rintro next entry n p q ⟨first, second, ha, hb, hstep⟩ hr
    obtain ⟨k, hk, hr | hr⟩ := hr.fork hstep
    · obtain ⟨m, hm, k', hk', hr⟩ := iha ha hr
      exact ⟨m, List.mem_append_left _ hm, k', by omega, hr⟩
    · obtain ⟨m, hm, k', hk', hr⟩ := ihb hb hr
      exact ⟨m, List.mem_append_right _ hm, k', by omega, hr⟩
  | rep least most greedy a ih =>
    have hloop := ih.star moves_of_mem_ends greedy
    match least, most with
    | 0, none => exact hloop
    | n + 1, none =>
      rw [ends_rep_none]
      exact (hloop.behind ih).behind (ih.times n)
    | 0, some most =>
      rw [ends_rep_some]
      exact (ih.upTo greedy (most - 0)).behind (ih.times 0)
    | n + 1, some most =>
      rw [ends_rep_some]
      exact (ih.upTo greedy (most - (n + 1))).behind (ih.times (n + 1))
  | group index a ih => exact ih

/-- What a search that is held at the start finds is one of the ends of a match from there. -/
theorem exists_end_of_search {r : Regex} {t : Text} {n : Nat}
    (h : r.program.search true t = some n) : ∃ q ∈ r.ends (Cursor.start t), q.taken = n := by
  obtain ⟨hat, hdone⟩ := r.at_program
  rcases Program.exists_reaches_of_searchFrom h with h | ⟨j, hj, m, q, hr, hq⟩
  · cases h
  · rw [List.mem_singleton.1 hj] at hr
    obtain ⟨e, he, k, -, hr⟩ := r.sound_at r.program hat hr
    refine ⟨e, he, ?_⟩
    cases hr with
    | done => exact hq
    | pass hstep | hold hstep | first hstep | second hstep => cases Program.step_eq hdone hstep

/-! ## the end of the leftmost match -/

theorem matchEnd?_direct {r : Regex} (h : r.hasFewWays = true) (t : Text) :
    (Matcher.direct r).matchEnd? t = r.program.search true t := by
  rw [search_eq_firstEnd? (loopsPass_of_hasFewWays h), firstEnd?, Matcher.matchEnd?, run_eq]
  cases r.ends (Cursor.start t) <;> rfl

/-- Whether it is run or compiled, an expression whose matches all begin at the start of the text is
searched for from there only. -/
theorem matchEnd?_of_anchored {r : Regex} (h : r.anchored = true) (t : Text) :
    r.matchEnd? t = r.program.search true t := by
  rw [matchEnd?, matcher, h, Bool.true_and]
  split
  · next hfew => exact matchEnd?_direct hfew t
  · rfl

/-- A match from the start of the text is the leftmost one, wherever else a match could begin. -/
theorem matchEnd?_of_search {r : Regex} {t : Text} {n : Nat}
    (h : r.program.search true t = some n) : r.matchEnd? t = some n := by
  cases hanchored : r.anchored with
  | true => rw [matchEnd?_of_anchored hanchored, h]
  | false =>
    rw [matchEnd?, matcher, hanchored]
    have hfree := Program.searchFrom_free h [] none
    rw [List.append_nil] at hfree
    exact hfree

end Regex

end Workbench.Pattern
