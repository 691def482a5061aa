import Workbench.Proofs.Pattern.Pushed
import Workbench.Proofs.Pattern.Wrapped

/-!
# The steps that are written for an expression

A writer puts its steps behind those that are there: `Writes` says so, and which steps they are.
Its lemmas follow the writers, so what is written for an expression (`Regex.writes_write`) has the
shape of the expression: `Regex.At`.  A later step never changes an earlier one, so the same holds
of the whole program: `Regex.at_program`.

A condition in front of an expression is written behind it, which the search does not notice:
`Regex.search_concat_look`.
-/

namespace Workbench.Pattern

/-! ## closed lists of steps -/

theorem Step.Below.mono {m n : Nat} {step : Step} (h : step.Below m) (hle : m ≤ n) :
    step.Below n := by
  cases step with
  | done => trivial
  | set | look => exact Nat.lt_of_lt_of_le h hle
  | fork => exact ⟨Nat.lt_of_lt_of_le h.1 hle, Nat.lt_of_lt_of_le h.2 hle⟩

theorem Step.below_choose {greedy : Bool} {n round out : Nat} (hround : round < n)
    (hout : out < n) : (Step.choose greedy round out).Below n := by
  cases greedy with
  | false => exact ⟨hout, hround⟩
  | true => exact ⟨hround, hout⟩

theorem Steps.Closed.push {steps : Steps} (h : steps.Closed) {step : Step}
    (hstep : step.Below (steps.size + 1)) : Steps.Closed (steps.push step) := by
  intro i s hs
  rw [Array.size_push]
  rw [Array.getElem?_push] at hs
  split at hs
  · cases hs
    exact hstep
  · exact (h i s hs).mono (Nat.le_succ _)

theorem Steps.Closed.set {steps : Steps} (h : steps.Closed) {step : Step}
    (hstep : step.Below steps.size) (i : Nat) : Steps.Closed (steps.setIfInBounds i step) := by
  intro j s hs
  rw [Array.size_setIfInBounds]
  rw [Array.getElem?_setIfInBounds] at hs
  split at hs
  · split at hs
    · cases hs
      exact hstep
    · cases hs
  · exact h j s hs

/-! ## writers -/

/-- from a number on, the steps are those of another list -/
def Steps.Agrees (final : Steps) (first : Nat) (steps : Steps) : Prop :=
  ∀ i, first ≤ i → i < steps.size → final[i]? = steps[i]?

/-- A writer puts its steps behind the others, which stay as they are, and they lead nowhere else;
`part` says what they are. -/
structure Writes (w : Writer) (part : Steps → (next entry : Nat) → Prop) : Prop where
  size_le (next : Nat) (steps : Steps) : steps.size ≤ (w next steps).2.size
  keeps (next : Nat) (steps : Steps) : ∀ i < steps.size, (w next steps).2[i]? = steps[i]?
  closed {next : Nat} {steps : Steps} (hnext : next < steps.size) (hsteps : steps.Closed) :
    (w next steps).1 < (w next steps).2.size ∧ (w next steps).2.Closed
  part_of {next : Nat} {steps final : Steps} (h : final.Agrees steps.size (w next steps).2) :
    part final next (w next steps).1

theorem writes_nothing :
    Writes (fun next steps => (next, steps)) fun _ next entry => entry = next where
  size_le _ _ := Nat.le_refl _
  keeps _ _ _ _ := rfl
  closed hnext hsteps := ⟨hnext, hsteps⟩
  part_of _ := rfl

section
variable {w w' : Writer} {part part' : Steps → Nat → Nat → Prop}

theorem Writes.imp (h : Writes w part)
    (himp : ∀ {final next entry}, part final next entry → part' final next entry) :
    Writes w part' where
  size_le := h.size_le
  keeps := h.keeps
  closed := h.closed
  part_of hfinal := himp (h.part_of hfinal)

/-- what was written first stays to the end -/
theorem Writes.agrees {final steps steps' : Steps} {next : Nat} (h : Writes w part)
    (hfinal : final.Agrees steps.size (w next steps').2) : final.Agrees steps.size steps' := by
  intro i hi hlt
  rw [hfinal i hi (Nat.lt_of_lt_of_le hlt (h.size_le next steps')), h.keeps next steps' i hlt]

theorem Writes.behind (h : Writes w part) (h' : Writes w' part') :
    Writes (fun next steps => let (m, steps) := w next steps; w' m steps)
      fun final next entry => ∃ m, part final next m ∧ part' final m entry where
  size_le next steps := Nat.le_trans (h.size_le next steps) (h'.size_le _ _)
  keeps next steps i hi := by
    dsimp only
    rw [h'.keeps _ _ i (Nat.lt_of_lt_of_le hi (h.size_le next steps)), h.keeps next steps i hi]
  closed hnext hsteps := have ⟨hm, hs⟩ := h.closed hnext hsteps; h'.closed hm hs
  part_of {next steps final} hfinal := by
    have hle := h.size_le next steps
    exact ⟨(w next steps).1, h.part_of (h'.agrees hfinal),
      h'.part_of fun i hi => hfinal i (Nat.le_trans hle hi)⟩

/-- a step put behind, which may lead to the part and to what comes after -/
theorem Writes.push (h : Writes w part) (f : (entry next : Nat) → Step)
    (hf : ∀ {n entry next}, entry < n → next < n → (f entry next).Below n) :
    Writes (fun next steps => let (m, steps) := w next steps; (steps.size, steps.push (f m next)))
      fun final next entry => ∃ m, part final next m ∧ final[entry]? = some (f m next) where
  size_le next steps := by
    dsimp only
    rw [Array.size_push]
    exact Nat.le_succ_of_le (h.size_le next steps)
  keeps next steps i hi := by
    have hlt := Nat.lt_of_lt_of_le hi (h.size_le next steps)
    dsimp only
    rw [Array.getElem?_push_lt hlt, ← h.keeps next steps i hi, Array.getElem?_eq_getElem hlt]
  closed {next steps} hnext hsteps := by
    obtain ⟨hm, hs⟩ := h.closed hnext hsteps
    have hnext' := Nat.lt_of_lt_of_le hnext (h.size_le next steps)
    dsimp only
    rw [Array.size_push]
    exact ⟨Nat.lt_succ_self _, hs.push (hf (Nat.lt_succ_of_lt hm) (Nat.lt_succ_of_lt hnext'))⟩
  part_of {next steps final} hfinal := by
    have hle := h.size_le next steps
    dsimp only [Steps.Agrees] at hfinal
    rw [Array.size_push] at hfinal
    refine ⟨(w next steps).1, h.part_of fun i hi hlt => ?_, ?_⟩
    · rw [hfinal i hi (Nat.lt_succ_of_lt hlt), Array.getElem?_push_lt hlt,
        Array.getElem?_eq_getElem hlt]
    · rw [hfinal _ hle (Nat.lt_succ_self _), Array.getElem?_push_size]

/-- two parts that lead to the same step, and a fork -/
theorem Writes.alt (h : Writes w part) (h' : Writes w' part') :
    Writes (fun next steps =>
        let (first, steps) := w next steps
        let (second, steps) := w' next steps
        (steps.size, steps.push (.fork first second)))
      fun final next entry => ∃ first second, part final next first ∧ part' final next second
        ∧ final[entry]? = some (.fork first second) where
  size_le next steps := by
    dsimp only
    rw [Array.size_push]
    exact Nat.le_succ_of_le (Nat.le_trans (h.size_le next steps) (h'.size_le next _))
  keeps next steps i hi := by
    have hlt := Nat.lt_of_lt_of_le hi (h.size_le next steps)
    have hlt' := Nat.lt_of_lt_of_le hlt (h'.size_le next _)
    dsimp only
    rw [Array.getElem?_push_lt hlt', ← h.keeps next steps i hi, ← h'.keeps next _ i hlt,
      Array.getElem?_eq_getElem hlt']
  closed {next steps} hnext hsteps := by
    obtain ⟨hfirst, hs⟩ := h.closed hnext hsteps
    obtain ⟨hsecond, hs'⟩ := h'.closed (Nat.lt_of_lt_of_le hnext (h.size_le next steps)) hs
    have hle := h'.size_le next (w next steps).2
    dsimp only
    rw [Array.size_push]
    exact ⟨Nat.lt_succ_self _,
      hs'.push ⟨Nat.lt_succ_of_lt (Nat.lt_of_lt_of_le hfirst hle), Nat.lt_succ_of_lt hsecond⟩⟩
  part_of {next steps final} hfinal := by
    have hle := h.size_le next steps
    have hle' := h'.size_le next (w next steps).2
    dsimp only [Steps.Agrees] at hfinal
    rw [Array.size_push] at hfinal
    have hboth : final.Agrees steps.size (w' next (w next steps).2).2 := fun i hi hlt => by
      rw [hfinal i hi (Nat.lt_succ_of_lt hlt), Array.getElem?_push_lt hlt,
        Array.getElem?_eq_getElem hlt]
    refine ⟨_, _, h.part_of (h'.agrees hboth),
      h'.part_of fun i hi => hboth i (Nat.le_trans hle hi), ?_⟩
    rw [hfinal _ (Nat.le_trans hle hle') (Nat.lt_succ_self _), Array.getElem?_push_size]

end

/-- `n` parts one behind the other -/
def TimesAt (part : (next entry : Nat) → Prop) : Nat → (next entry : Nat) → Prop
  | 0, next, entry => entry = next
  | n + 1, next, entry => ∃ m, part next m ∧ TimesAt part n m entry

theorem writes_times {body : Writer} {part : Steps → Nat → Nat → Prop} (h : Writes body part)
    (n : Nat) : Writes (writeTimes body n) fun final => TimesAt (part final) n := by
  induction n with
  | zero => exact writes_nothing
  | succ n ih => exact h.behind ih

/-- at most `n` parts one behind the other -/
def UpToAt (final : Steps) (part : (next entry : Nat) → Prop) (greedy : Bool) :
    Nat → (next entry : Nat) → Prop
  | 0, next, entry => entry = next
  | n + 1, next, entry => ∃ x, (∃ m, UpToAt final part greedy n next m ∧ part m x)
      ∧ final[entry]? = some (.choose greedy x next)

theorem writes_upTo {body : Writer} {part : Steps → Nat → Nat → Prop} (h : Writes body part)
    (greedy : Bool) (n : Nat) :
    Writes (writeUpTo body greedy n) fun final => UpToAt final (part final) greedy n := by
  induction n with
  | zero => exact writes_nothing
  | succ n ih => exact (ih.behind h).push (.choose greedy) Step.below_choose

/-- A round that leads back to a fork, `again`, from where the next round begins at `round`; `pick`
says with which of the two the loop is entered. -/
theorem writes_loop {body : Writer} {part : Steps → Nat → Nat → Prop} (h : Writes body part)
    (greedy : Bool) (pick : (round again : Nat) → Nat)
    (hpick : ∀ {n round again}, round < n → again < n → pick round again < n) :
    Writes (fun next steps =>
        let (round, again, steps) := writeLoop body greedy next steps
        (pick round again, steps))
      fun final next entry => ∃ round again, part final again round
        ∧ final[again]? = some (.choose greedy round next) ∧ entry = pick round again where
  size_le next steps := by
    have hle := h.size_le steps.size (steps.push .done)
    rw [Array.size_push] at hle
    dsimp only [writeLoop]
    rw [Array.size_setIfInBounds]
    exact Nat.le_of_succ_le hle
  keeps next steps i hi := by
    have hkeep := h.keeps steps.size (steps.push .done) i (by rw [Array.size_push]; omega)
    dsimp only [writeLoop]
    rw [Array.getElem?_setIfInBounds, if_neg (Nat.ne_of_gt hi), hkeep, Array.getElem?_push_lt hi,
      Array.getElem?_eq_getElem hi]
  closed {next steps} hnext hsteps := by
    have hle := h.size_le steps.size (steps.push .done)
    have hlt : steps.size < (steps.push .done).size := by
      rw [Array.size_push]
      exact Nat.lt_succ_self _
    obtain ⟨hround, hs⟩ := h.closed hlt (hsteps.push trivial)
    rw [Array.size_push] at hle
    dsimp only [writeLoop]
    rw [Array.size_setIfInBounds]
    exact ⟨hpick hround hle, hs.set (Step.below_choose hround (Nat.lt_trans hnext hle)) _⟩
  part_of {next steps final} hfinal := by
    have hle := h.size_le steps.size (steps.push .done)
    rw [Array.size_push] at hle
    dsimp only [writeLoop, Steps.Agrees] at hfinal
    rw [Array.size_setIfInBounds] at hfinal
    refine ⟨_, _, h.part_of fun i hi hlt => ?_, ?_, rfl⟩
    · rw [Array.size_push] at hi
      rw [hfinal i (Nat.le_of_succ_le hi) hlt, Array.getElem?_setIfInBounds,
        if_neg (Nat.ne_of_lt hi)]
    · rw [hfinal _ (Nat.le_refl _) hle, Array.getElem?_setIfInBounds, if_pos rfl,
        if_pos (Nat.lt_of_succ_le hle)]

/-! ## expressions -/

/-- the steps of a text -/
def TextAt (final : Steps) : Text → (next entry : Nat) → Prop
  | [], next, entry => entry = next
  | c :: t, next, entry =>
    ∃ m, TextAt final t next m ∧ final[entry]? = some (.set (.single c) m)

theorem writes_text (t : Text) : Writes (writeText t) fun final => TextAt final t := by
  induction t with
  | nil => exact writes_nothing
  | cons c t ih => exact ih.push (fun m _ => .set (.single c) m) fun h _ => h

/-- a loop that is entered by its fork, or by another one like it -/
def LoopAt (final : Steps) (part : (next entry : Nat) → Prop) (greedy : Bool) (next entry : Nat) :
    Prop :=
  ∃ round again, part again round ∧ final[again]? = some (.choose greedy round next)
    ∧ (entry = again ∨ final[entry]? = some (.choose greedy round next))

/-- The steps of an expression lie in a list, from `entry` on; they lead to `next`. -/
def Regex.At (final : Steps) : Regex → (next entry : Nat) → Prop
  | .empty, next, entry => entry = next
  | .text t, next, entry => TextAt final t next entry
  | .set s, next, entry => final[entry]? = some (.set s next)
  | .look l, next, entry => final[entry]? = some (.look l next)
  | .seq a b, next, entry => ∃ m, b.At final next m ∧ a.At final m entry
  | .alt a b, next, entry => ∃ first second, a.At final next first ∧ b.At final next second
      ∧ final[entry]? = some (.fork first second)
  | .rep 0 none greedy a, next, entry => LoopAt final (a.At final) greedy next entry
  | .rep (n + 1) none greedy a, next, entry =>
    ∃ m, (∃ again, LoopAt final (a.At final) greedy next again ∧ a.At final again m)
      ∧ TimesAt (a.At final) n m entry
  | .rep least (some most) greedy a, next, entry =>
    ∃ m, UpToAt final (a.At final) greedy (most - least) next m ∧ TimesAt (a.At final) least m entry
  | .group _ a, next, entry => a.At final next entry

theorem writes_set (s : CharSet) :
    Writes (fun next steps => (steps.size, steps.push (.set s next)))
      fun final next entry => final[entry]? = some (.set s next) :=
  (writes_nothing.push (fun next _ => .set s next) fun h _ => h).imp fun ⟨_, hm, h⟩ => hm ▸ h

theorem writes_look (l : Look) :
    Writes (fun next steps => (steps.size, steps.push (.look l next)))
      fun final next entry => final[entry]? = some (.look l next) :=
  (writes_nothing.push (fun next _ => .look l next) fun h _ => h).imp fun ⟨_, hm, h⟩ => hm ▸ h

theorem writes_star {body : Writer} {part : Steps → Nat → Nat → Prop} (h : Writes body part)
    (passes greedy : Bool) :
    Writes (writeStar body passes greedy) fun final => LoopAt final (part final) greedy := by
  cases passes with
  | true =>
    exact (writes_loop h greedy (fun _ again => again) fun _ h => h).imp
      fun ⟨round, again, hround, hagain, hentry⟩ => ⟨round, again, hround, hagain, .inl hentry⟩
  | false =>
    exact ((writes_loop h greedy (fun round _ => round) fun h _ => h).push
      (.choose greedy) Step.below_choose).imp
        fun ⟨m, ⟨round, again, hround, hagain, hm⟩, hentry⟩ =>
          ⟨round, again, hround, hagain, .inr (hm ▸ hentry)⟩

theorem writes_round {body : Writer} {part : Steps → Nat → Nat → Prop} (h : Writes body part)
    (greedy : Bool) :
    Writes (fun next steps => let (round, _, steps) := writeLoop body greedy next steps
        (round, steps))
      fun final next entry =>
        ∃ again, LoopAt final (part final) greedy next again ∧ part final again entry :=
  (writes_loop h greedy (fun round _ => round) fun h _ => h).imp
    fun ⟨round, again, hround, hagain, hentry⟩ =>
      ⟨again, ⟨round, again, hround, hagain, .inl rfl⟩, hentry ▸ hround⟩

theorem Regex.writes_write (r : Regex) : Writes r.write fun final => r.At final := by
  induction r with
  | empty => exact writes_nothing
  | text t => exact writes_text t
  | set s => exact writes_set s
  | look l => exact writes_look l
  | seq a b iha ihb => exact ihb.behind iha
  | alt a b iha ihb => exact iha.alt ihb
  | rep least most greedy a ih =>
    match least, most with
    | 0, none => exact writes_star ih _ greedy
    | n + 1, none => exact (writes_round ih greedy).behind (writes_times ih n)
    | 0, some most => exact (writes_upTo ih greedy (most - 0)).behind (writes_times ih 0)
    | n + 1, some most =>
      exact (writes_upTo ih greedy (most - (n + 1))).behind (writes_times ih (n + 1))
  | group index a ih => exact ih

namespace Regex

theorem program_closed (r : Regex) :
    r.program.steps.Closed ∧ r.program.start < r.program.steps.size := by
  have hdone : Steps.Closed #[.done] := by
    intro i step hstep
    cases i with
    | zero => cases hstep; trivial
    | succ i => rw [Array.getElem?_eq_none (by simp)] at hstep; cases hstep
  obtain ⟨hstart, hclosed⟩ := r.writes_write.closed (by decide : 0 < #[Step.done].size) hdone
  exact ⟨hclosed, hstart⟩

/-- the program of an expression is the expression in front of the end of a match -/
theorem at_program (r : Regex) :
    r.At r.program.steps 0 r.program.start ∧ r.program.steps[0]? = some .done := by
  refine ⟨r.writes_write.part_of fun _ _ _ => rfl, ?_⟩
  exact r.writes_write.keeps 0 #[.done] 0 (by decide)

/-! ## a condition in front of an expression -/

theorem writeText_append (s t : Text) (next : Nat) (steps : Steps) :
    writeText (s ++ t) next steps
      = (let (m, steps) := writeText t next steps; writeText s m steps) := by
  induction s with
  | nil => rfl
  | cons c s ih =>
    rw [List.cons_append, writeText, ih]
    rfl

theorem write_chain_cons (r : Regex) (rs : List Regex) (next : Nat) (steps : Steps) :
    (chain (r :: rs)).write next steps
      = (let (m, steps) := (chain rs).write next steps; r.write m steps) := by
  cases rs <;> rfl

theorem write_joinTexts (rs : List Regex) : (chain (joinTexts rs)).write = (chain rs).write := by
  funext next steps
  induction rs with
  | nil => rfl
  | cons r rs ih =>
    rw [write_chain_cons, ← ih]
    cases r with
    | text s =>
      rw [joinTexts]
      split
      · next t rest heq =>
        rw [heq, write_chain_cons, write_chain_cons]
        exact writeText_append s t _ _
      · rw [write_chain_cons]
    | empty | set | look | seq | alt | rep | group => rw [joinTexts, write_chain_cons]; nofun

theorem write_items (r : Regex) : (chain r.items).write = r.write := by
  funext next steps
  induction r generalizing next steps with
  | seq a b iha ihb => rw [items, write_chain_cons, ihb]; rfl
  | empty | text | set | look | alt | rep | group => rfl

theorem write_concat_look (l : Look) (r : Regex) (next : Nat) (steps : Steps) :
    (concat [.look l, r]).write next steps
      = (let (m, steps) := r.write next steps; (steps.size, steps.push (.look l m))) := by
  rw [concat_look, write_chain_cons, write_joinTexts, write_items]
  rfl

/-- A condition on the start of the text that is put in front of an expression changes nothing in
the search from there. -/
theorem search_concat_look (r : Regex) (t : Text) :
    (concat [.look .textStart, r]).program.search true t = r.program.search true t := by
  have hprogram : (concat [.look .textStart, r]).program
      = r.program.push r.program.steps.size (.look .textStart r.program.start) := by
    rw [program, write_concat_look]
    rfl
  rw [hprogram]
  exact Program.search_push_look r.program_closed.1 r.program_closed.2 t

end Regex

end Workbench.Pattern
