import Workbench.Pattern.Parser

/-!
# Patterns in front of a closing parenthesis

Each reader of the parser reads in front of `)` what it reads in front of the end of the pattern:
`Carries`.  No reader takes the parenthesis in, except as part of a comment that lasts to the end of
the pattern; so what is left is either the same with `)` behind it, or nothing: `Closes`.

A reader that cannot be at its end where the pattern is (a class, a name, a count in braces) says
less: what it has read is the same if something is left.

Escapes are the readers that all others use: `carries_readEscape`.
-/

namespace Workbench.Pattern

/-! ## what is left to read -/

/-- the closing parenthesis stands behind the text, unless a comment at its end took it in -/
def Closes (t t' : Text) : Prop := t' = t ++ [')'] ∨ t = [] ∧ t' = []

section
variable {t t' rest : Text} {c : Char} {flags : Flags}

theorem closes_append (t : Text) : Closes t (t ++ [')']) := .inl rfl

theorem Closes.eq_append (h : Closes t t') (ht : t ≠ []) : t' = t ++ [')'] :=
  h.resolve_right fun h => ht h.1

theorem Closes.cons (h : Closes t t') (ht : t = c :: rest) : t' = c :: (rest ++ [')']) := by
  rw [h.eq_append (ht ▸ List.cons_ne_nil _ _), ht, List.cons_append]

/-- what stands in front of the closed text stands in front of the text -/
theorem Closes.eq_cons (h : Closes t t') (hc : c ≠ ')') (ht : t' = c :: rest) :
    ∃ u, t = c :: u ∧ rest = u ++ [')'] := by
  rcases h with rfl | ⟨rfl, rfl⟩
  · cases t with
    | nil => exact absurd (List.cons.inj ht).1.symm hc
    | cons d u =>
      obtain ⟨rfl, rfl⟩ := List.cons.inj ht
      exact ⟨u, rfl, rfl⟩
  · cases ht

theorem Closes.not_cons (h : Closes t t') (hc : c ≠ ')') (ht : ∀ u, t = c :: u → False)
    (u : Text) : t' ≠ c :: u := fun hu =>
  have ⟨v, hv, _⟩ := h.eq_cons hc hu
  ht v hv

theorem Closes.not_cons_cons {d : Char} (h : Closes t t') (hc : c ≠ ')') (hd : d ≠ ')')
    (ht : ∀ u, t = c :: d :: u → False) (u : Text) : t' ≠ c :: d :: u := fun hu =>
  have ⟨v, hv, huv⟩ := h.eq_cons hc hu
  have ⟨w, hw, _⟩ := (closes_append v).eq_cons hd huv.symm
  ht w (hv.trans (congrArg (c :: ·) hw))

theorem Closes.head?_iff (h : Closes t t') (hc : c ≠ ')') :
    t'.head? = some c ↔ t.head? = some c := by
  rcases h with rfl | ⟨rfl, rfl⟩
  · cases t with
    | nil => exact ⟨fun h => absurd (Option.some.inj h).symm hc, nofun⟩
    | cons => exact Iff.rfl
  · exact Iff.rfl

theorem Closes.tail (h : Closes t t') : Closes t.tail t'.tail := by
  rcases h with rfl | ⟨rfl, rfl⟩
  · cases t with
    | nil => exact .inr ⟨rfl, rfl⟩
    | cons c t => exact .inl rfl
  · exact .inr ⟨rfl, rfl⟩

/-! ## blanks -/

theorem length_skipVerbose_le (inComment : Bool) (t : Text) :
    (Flags.skipVerbose inComment t).length ≤ t.length := by
  fun_induction Flags.skipVerbose inComment t with
  | case1 => exact Nat.le_refl _
  | case2 c t ih => exact Nat.le_succ_of_le ih
  | case3 c t hc ih => exact Nat.le_succ_of_le ih
  | case4 t hc ih => exact Nat.le_succ_of_le ih
  | case5 => exact Nat.le_refl _

theorem length_skip_le (flags : Flags) (t : Text) : (flags.skip t).length ≤ t.length := by
  rw [Flags.skip]
  split
  · exact length_skipVerbose_le false t
  · exact Nat.le_refl _

theorem skipVerbose_closes (inComment : Bool) (t : Text) :
    Closes (Flags.skipVerbose inComment t) (Flags.skipVerbose inComment (t ++ [')'])) := by
  fun_induction Flags.skipVerbose inComment t with
  | case1 inComment =>
    cases inComment with
    | true => exact .inr ⟨rfl, rfl⟩
    | false => exact .inl rfl
  | case2 c t ih => exact ih
  | case3 c t hc ih => rwa [List.cons_append, Flags.skipVerbose, if_pos hc]
  | case4 t hc ih => rwa [List.cons_append, Flags.skipVerbose, if_neg hc, if_pos rfl]
  | case5 c t hc hc' =>
    rw [List.cons_append, Flags.skipVerbose, if_neg hc, if_neg hc']
    exact .inl rfl

theorem Closes.skip (flags : Flags) (h : Closes t t') : Closes (flags.skip t) (flags.skip t') := by
  rw [Flags.skip, Flags.skip]
  split
  · rcases h with rfl | ⟨rfl, rfl⟩
    · exact skipVerbose_closes false t
    · exact .inr ⟨rfl, rfl⟩
  · exact h

theorem span_closes {belongs : Char → Bool} {fuel fuel' : Nat} (h : Closes t t')
    (hfuel : t.length ≤ fuel) (hfuel' : t'.length ≤ fuel') {word : Text}
    (hspan : flags.span belongs fuel t = (word, rest)) (hne : rest ≠ []) :
    rest.length ≤ t.length ∧ flags.span belongs fuel' t' = (word, rest ++ [')']) := by
  induction fuel generalizing t t' fuel' word with
  | zero =>
    rw [List.length_eq_zero_iff.1 (Nat.le_zero.1 hfuel)] at hspan
    exact absurd (congrArg Prod.snd hspan).symm hne
  | succ fuel ih =>
    cases t with
    | nil => exact absurd (congrArg Prod.snd hspan).symm hne
    | cons c t =>
      obtain rfl := h.cons rfl
      cases fuel' with
      | zero => cases hfuel'
      | succ fuel' =>
        rw [Flags.span] at hspan ⊢
        split at hspan
        · next hc =>
          have hle := length_skip_le flags t
          have hle' := length_skip_le flags (t ++ [')'])
          rw [if_pos hc]
          simp only [List.length_cons] at hfuel hfuel' ⊢
          simp only [Prod.mk.injEq] at hspan
          obtain ⟨hlen, hrest⟩ := @ih _ _ fuel' ((closes_append t).skip flags) (by omega)
            (by omega) _ (Prod.ext rfl hspan.2)
          rw [hrest, ← hspan.1]
          exact ⟨by omega, rfl⟩
        · next hc =>
          rw [if_neg hc]
          obtain ⟨rfl, rfl⟩ := Prod.mk.inj hspan
          exact ⟨Nat.le_refl _, rfl⟩

end

/-! ## readers -/

/-- what one reader reads in front of the end of a pattern the other reads in front of a closing
parenthesis -/
def CarriesTo {α : Type} (read read' : Text → Reader α) : Prop :=
  ∀ ⦃t t' x rest⦄, Closes t t' → read t = .ok (x, rest) →
    rest.length ≤ t.length ∧ ∃ rest', read' t' = .ok (x, rest') ∧ Closes rest rest'

abbrev Carries {α : Type} (read : Text → Reader α) : Prop := CarriesTo read read

theorem exists_of_map_eq_ok {α β ε : Type} {e : Except ε α} {f : α → β} {y : β}
    (h : e.map f = .ok y) : ∃ x, e = .ok x ∧ f x = y := by
  cases e with
  | error => cases h
  | ok x => exact ⟨x, rfl, Except.ok.inj h⟩

theorem CarriesTo.skip {α : Type} {read read' : Text → Reader α} (h : CarriesTo read read')
    (flags : Flags) :
    CarriesTo (fun t => read (flags.skip t)) fun t => read' (flags.skip t) := fun t _ _ _ hcl hr =>
  have ⟨hle, hread⟩ := h (hcl.skip flags) hr
  ⟨Nat.le_trans hle (length_skip_le flags t), hread⟩

theorem CarriesTo.map {α β : Type} {read read' : Text → Reader α} (h : CarriesTo read read')
    (g : α → β) :
    CarriesTo (fun t => (read t).map fun r => (g r.1, r.2))
      fun t => (read' t).map fun r => (g r.1, r.2) := by
  intro t t' x rest hcl hr
  obtain ⟨r, hread, heq⟩ := exists_of_map_eq_ok hr
  obtain ⟨rfl, rfl⟩ := Prod.mk.inj heq
  obtain ⟨hle, rest', hread', hcl'⟩ := h hcl hread
  exact ⟨hle, rest', congrArg (Except.map fun r => (g r.1, r.2)) hread', hcl'⟩

theorem takeSpaced_closes {flags : Flags} {count : Nat} {t t' word rest : Text} (h : Closes t t')
    (ht : takeSpaced flags count t = (word, rest)) (hlen : word.length = count) :
    rest.length ≤ t.length
      ∧ ∃ rest', takeSpaced flags count t' = (word, rest') ∧ Closes rest rest' := by
  induction count generalizing t t' word with
  | zero =>
    obtain ⟨rfl, rfl⟩ := Prod.mk.inj ht
    exact ⟨Nat.le_refl _, t', rfl, h⟩
  | succ count ih =>
    cases t with
    | nil =>
      obtain ⟨rfl, rfl⟩ := Prod.mk.inj ht
      cases hlen
    | cons c t =>
      obtain rfl := h.cons rfl
      rw [takeSpaced] at ht ⊢
      obtain ⟨rfl, hrest⟩ := Prod.mk.inj ht
      obtain ⟨hle, rest', hrest', hcl⟩ := ih ((closes_append t).skip flags) (Prod.ext rfl hrest)
        (Nat.succ.inj hlen)
      rw [hrest']
      exact ⟨Nat.le_succ_of_le (Nat.le_trans hle (length_skip_le flags t)), rest', rfl, hcl⟩

/-! ## escapes -/

theorem carries_readHex (flags : Flags) (width : Nat) : Carries (readHex flags width) := by
  intro t t' x rest h hr
  have hle := length_skip_le flags t
  have hskip := h.skip flags
  rw [readHex] at hr ⊢
  split at hr
  · next u hu =>
    rw [hskip.cons hu]
    rw [hu, List.length_cons] at hle
    simp only
    split at hr
    · next digits after hspan =>
      obtain ⟨hlen, hspan'⟩ := span_closes ((closes_append u).skip flags) (length_skip_le flags u)
        (length_skip_le flags _) hspan (List.cons_ne_nil _ _)
      have := length_skip_le flags u
      have := length_skip_le flags after
      rw [List.length_cons] at hlen
      rw [hspan', List.cons_append]
      simp only
      split at hr
      · obtain ⟨rfl, rfl⟩ := Prod.mk.inj (Except.ok.inj hr)
        exact ⟨by omega, _, rfl, (closes_append after).skip flags⟩
      · cases hr
    · cases hr
  · next hu =>
    split
    · next u' hu' => exact (hskip.not_cons (by decide) hu u' hu').elim
    · simp only at hr ⊢
      split at hr
      · split at hr
        · next c hc hlen =>
          obtain ⟨rfl, rfl⟩ := Prod.mk.inj (Except.ok.inj hr)
          obtain ⟨hle', rest', hrest', hcl⟩ := takeSpaced_closes hskip rfl hlen
          rw [hrest']
          simp only
          rw [hc]
          simp only
          rw [if_pos hlen]
          exact ⟨Nat.le_trans hle' hle, rest', rfl, hcl⟩
        · cases hr
      · cases hr

/-- what is read does not depend on the text, which is left as it is -/
def HandsOn {α : Type} (read : Text → Reader α) : Prop :=
  ∀ ⦃t x rest⦄, read t = .ok (x, rest) → t = rest ∧ ∀ t', read t' = .ok (x, t')

theorem HandsOn.carries {α : Type} {read : Text → Reader α} (h : HandsOn read) : Carries read := by
  intro t t' x rest hcl hr
  obtain ⟨rfl, hread⟩ := h hr
  exact ⟨Nat.le_refl _, t', hread t', hcl⟩

theorem handsOn_map {α β : Type} (e : Except PatternError β) (g : β → α) :
    HandsOn fun t => e.map fun s => (g s, t) := by
  intro t x rest h
  cases e with
  | error => cases h
  | ok s =>
    obtain ⟨rfl, rfl⟩ := Prod.mk.inj (Except.ok.inj h)
    exact ⟨rfl, fun _ => rfl⟩

theorem handsOn_ok {α : Type} (x : α) : HandsOn fun t => .ok (x, t) :=
  handsOn_map (.ok x) id

theorem handsOn_error {α : Type} (e : PatternError) : HandsOn (α := α) fun _ => .error e :=
  fun _ _ _ h => by cases h

theorem handsOn_property (flags : Flags) (negated : Bool) (name : Text) :
    HandsOn fun rest => if !flags.unicode then .error .needsUnicode
      else
        match propertySet? name with
        | none => .error .unknownProperty
        | some s => (flags.negate negated (flags.fold s)).map fun s => (Primitive.set s, rest) := by
  cases flags.unicode with
  | false => exact handsOn_error _
  | true =>
    cases propertySet? name with
    | none => exact handsOn_error _
    | some s => exact handsOn_map _ _

theorem carries_readProperty (flags : Flags) (negated : Bool) :
    Carries (readProperty flags negated) := by
  intro t t' x rest h hr
  have hle := length_skip_le flags t
  have hskip := h.skip flags
  rw [readProperty] at hr ⊢
  split at hr
  · cases hr
  · cases hr
  · next u hu =>
    rw [hskip.cons hu]
    rw [hu, List.length_cons] at hle
    simp only
    split at hr
    · next name after hspan =>
      have := length_skip_le flags u
      obtain ⟨hlen, hspan'⟩ := span_closes ((closes_append u).skip flags) this
        (length_skip_le flags _) hspan (List.cons_ne_nil _ _)
      obtain ⟨rfl, hread⟩ := handsOn_property flags negated name hr
      rw [List.length_cons] at hlen
      rw [hspan', List.cons_append]
      exact ⟨by omega, _, hread _, closes_append after⟩
    · cases hr
  · next c u hc hc' hu =>
    obtain ⟨rfl, hread⟩ := handsOn_property flags negated [c] hr
    have := length_skip_le flags u
    rw [hu, List.length_cons] at hle
    rw [hskip.cons hu]
    split
    · next heq => cases heq
    · next heq => exact (hc (List.cons.inj heq).1).elim
    · next heq => exact (hc' (List.cons.inj heq).1).elim
    · next heq =>
      obtain ⟨rfl, rfl⟩ := List.cons.inj heq
      exact ⟨by omega, _, hread _, (closes_append u).skip flags⟩

theorem carries_readBoundary (flags : Flags) : Carries (readBoundary flags) := by
  intro t t' x rest h hr
  have look (side : WordLook) : HandsOn fun rest =>
    .ok (Primitive.look (.word flags.unicode side), rest) := handsOn_ok _
  unfold readBoundary at hr ⊢
  dsimp only at hr ⊢
  split at hr
  · next u =>
    rw [h.cons rfl]
    have hskip := (closes_append u).skip flags
    have hle := length_skip_le flags u
    simp only
    split at hr
    · cases hr
    · next c v hv =>
      rw [hv, List.length_cons] at hle
      rw [hskip.cons hv]
      simp only
      split at hr
      · next hc =>
        rw [if_pos hc]
        split at hr
        · next name after hspan =>
          obtain ⟨hlen, hspan'⟩ := span_closes (closes_append (c :: v)) (Nat.le_refl _)
            (Nat.le_refl _) hspan (List.cons_ne_nil _ _)
          rw [List.length_cons, List.length_cons] at hlen
          rw [List.cons_append, List.length_cons, List.cons_append] at hspan'
          rw [hspan']
          simp only
          split at hr
          · obtain ⟨rfl, hread⟩ := look _ hr
            rw [List.length_cons]
            exact ⟨by omega, _, hread _, closes_append after⟩
          · cases hr
        · cases hr
      · next hc =>
        rw [if_neg hc]
        obtain ⟨rfl, hread⟩ := look _ hr
        exact ⟨Nat.le_refl _, _, hread _, closes_append _⟩
  · next ht =>
    split
    · next u => exact (h.not_cons (by decide) ht u rfl).elim
    · exact (look _).carries h hr

theorem handsOn_namedSet (flags : Flags) (s ascii : CharSet) (negated : Bool) :
    HandsOn (namedSet flags s ascii negated) := handsOn_map _ _

/-- a reader of a text that must not be empty -/
theorem carries_of_cons {α : Type} {read : Text → Reader α}
    (hcons : ∀ c, Carries fun t => read (c :: t)) (hnil : ∀ p, read [] ≠ .ok p) : Carries read := by
  intro t t' x rest h hr
  cases t with
  | nil => exact absurd hr (hnil _)
  | cons c t =>
    rw [h.cons rfl]
    obtain ⟨hle, hread⟩ := hcons c (closes_append t) hr
    exact ⟨Nat.le_succ_of_le hle, hread⟩

theorem handsOn_ite {α : Type} {p : Prop} [Decidable p] {read read' : Text → Reader α}
    (h : HandsOn read) (h' : HandsOn read') : HandsOn fun t => if p then read t else read' t := by
  split
  · exact h
  · exact h'

theorem carries_escape (flags : Flags) (c : Char) : Carries fun t => readEscape flags (c :: t) := by
  unfold readEscape
  dsimp only
  split
  case h_7 => exact carries_readProperty flags false
  case h_8 => exact carries_readProperty flags true
  case h_9 => exact carries_readBoundary flags
  case h_21 => exact carries_readHex flags 2
  case h_22 => exact carries_readHex flags 4
  case h_23 => exact carries_readHex flags 8
  case h_24 => exact (handsOn_ite (handsOn_ok _) (handsOn_error _)).carries
  all_goals first
    | exact (handsOn_namedSet ..).carries
    | exact (handsOn_ok _).carries

theorem carries_readEscape (flags : Flags) : Carries (readEscape flags) :=
  carries_of_cons (carries_escape flags) nofun

end Workbench.Pattern
