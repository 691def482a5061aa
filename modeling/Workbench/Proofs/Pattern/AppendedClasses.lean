import Workbench.Proofs.Pattern.Appended

/-!
# Classes in front of a closing parenthesis

What stands between brackets is read in front of `)` as it is in front of the end of the pattern,
one token after the other: an item or a range, an operation, a class within (`carries_readClassToken`).
A class reads tokens until it is closed, and the classes within it in the same way with less fuel,
so the two readers go together (`carries_class`).
-/

namespace Workbench.Pattern

/-! ## items -/

theorem carries_readClassItem (flags : Flags) : Carries (readClassItem flags) := by
  refine carries_of_cons (fun c => ?_) nofun
  by_cases hc : c = '\\'
  · subst hc
    exact carries_readEscape flags
  · have hread (t : Text) : readClassItem flags (c :: t) = .ok (.char c false, t) := by
      rw [readClassItem]
      exact hc
    rw [funext hread]
    exact (handsOn_ok _).carries

theorem dropBlanks_append (t : Text) :
    (t ++ [')']).dropWhile Text.isBlank = t.dropWhile Text.isBlank ++ [')'] := by
  have hclose : [')'].dropWhile Text.isBlank = [')'] := by decide
  rw [List.dropWhile_append, hclose]
  split
  · next h => rw [List.isEmpty_iff.1 h, List.nil_append]
  · rfl

theorem head?_append_or {c : Char} {m m' : Option Char} (hc : c ≠ ')') (hm : m ≠ some c)
    (t : Text) : (t ++ [')']).head?.or m' = some c ↔ t.head?.or m = some c := by
  cases t with
  | nil => exact ⟨fun h => absurd (Option.some.inj h).symm hc, fun h => absurd h hm⟩
  | cons => exact Iff.rfl

/-- whether a closing bracket or a hyphen comes next is seen without what is behind the text -/
theorem peek_closes (flags : Flags) {t t' : Text} {c : Char} (h : Closes t t')
    (hc : c = ']' ∨ c = '-') : flags.peek t' = some c ↔ flags.peek t = some c := by
  have hplain : c ≠ ')' ∧ c ≠ '#' ∧ Text.isBlank c = false := by
    rcases hc with rfl | rfl <;> decide
  rcases h with rfl | ⟨rfl, rfl⟩
  · by_cases hhead : t.head? = some c
    · obtain ⟨u, rfl⟩ : ∃ u, t = c :: u := by
        cases t with
        | nil => cases hhead
        | cons d u => exact ⟨u, by rw [Option.some.inj hhead]⟩
      have hdrop (u : Text) : (c :: u).dropWhile Text.isBlank = c :: u :=
        List.dropWhile_cons_of_neg (by rw [hplain.2.2]; exact Bool.false_ne_true)
      have hpeek (u : Text) : flags.peek (c :: u) = some c := by
        rw [Flags.peek, hdrop]
        split
        · split
          · next heq => exact absurd (List.cons.inj heq).1 hplain.2.1
          · rfl
        · rfl
      rw [List.cons_append, hpeek, hpeek]
    · rw [Flags.peek, Flags.peek]
      split
      · rw [dropBlanks_append]
        generalize t.dropWhile Text.isBlank = u
        split
        · next v heq =>
          obtain ⟨w, rfl, rfl⟩ := (closes_append u).eq_cons (by decide) heq
          rw [dropBlanks_append]
          exact head?_append_or hplain.1 hhead _
        · next hne =>
          split
          · next w => exact (hne (w ++ [')']) rfl).elim
          · exact head?_append_or hplain.1 hhead u
      · have := @head?_append_or c none none hplain.1 nofun t
        rwa [Option.or_none, Option.or_none] at this
  · rfl

theorem carries_readClassRange (flags : Flags) : Carries (readClassRange flags) := by
  intro t t' x rest h hr
  unfold readClassRange at hr ⊢
  split at hr
  · cases hr
  · next first u hu =>
    obtain ⟨hle, u', hu', hcl⟩ := carries_readClassItem flags h hu
    have hle' := length_skip_le flags u
    have hskip := hcl.skip flags
    rw [hu']
    simp only
    split at hr
    · cases hr
    · next after hafter =>
      rw [hskip.cons hafter]
      rw [hafter, List.length_cons] at hle'
      simp only [peek_closes flags (closes_append after) (.inl rfl),
        peek_closes flags (closes_append after) (.inr rfl)]
      split at hr
      · next hpeek =>
        obtain ⟨rfl, hread⟩ := handsOn_map (classItemSet flags first) id hr
        rw [if_pos hpeek, List.length_cons]
        exact ⟨by omega, _, hread _, closes_append ('-' :: after)⟩
      · next hpeek =>
        rw [if_neg hpeek]
        have := length_skip_le flags after
        split at hr
        · cases hr
        · next last v hv =>
          obtain ⟨hlen, v', hv', hcl'⟩ :=
            carries_readClassItem flags ((closes_append after).skip flags) hv
          obtain ⟨rfl, hread⟩ := handsOn_map (classRange flags first last) id hr
          rw [hv']
          exact ⟨by omega, _, hread _, hcl'⟩
    · next hne hhyphen =>
      obtain ⟨rfl, hread⟩ := handsOn_map (classItemSet flags first) id hr
      split
      · next hnil =>
        rw [hskip.eq_append hne] at hnil
        exact absurd hnil (List.append_ne_nil_of_right_ne_nil _ (List.cons_ne_nil _ _))
      · next after hafter => exact (hskip.not_cons (by decide) hhyphen after hafter).elim
      · exact ⟨by omega, _, hread _, hskip⟩

/-- a word that something stands behind does not change with what is put behind that -/
theorem word_closes {p : Char → Bool} (hp : p ')' = true) (t : Text) :
    Closes (t.drop (t.takeWhile p).length)
        ((t ++ [')']).drop ((t ++ [')']).takeWhile p).length)
      ∧ (t.drop (t.takeWhile p).length ≠ [] → (t ++ [')']).takeWhile p = t.takeWhile p) := by
  rw [List.takeWhile_append]
  split
  · next hall =>
    have hclose : [')'].takeWhile p = [')'] := by rw [List.takeWhile_cons_of_pos hp]; rfl
    rw [hclose, List.drop_length, hall, List.drop_length]
    exact ⟨.inr ⟨rfl, rfl⟩, fun h => absurd rfl h⟩
  · next hpart =>
    have hle := (List.takeWhile_prefix p (l := t)).length_le
    rw [List.drop_append_of_le_length hle]
    exact ⟨.inl rfl, fun _ => rfl⟩

theorem namedClass?_append (t : Text) :
    namedClass? (t ++ [')']) = (namedClass? t).map fun r => (r.1, r.2.1, r.2.2 ++ [')']) := by
  unfold namedClass?
  split
  · next t' u heq =>
    obtain ⟨v, rfl, rfl⟩ := (closes_append t).eq_cons (by decide) heq
    have hnegated : ((v ++ [')']).head? == some '^') = (v.head? == some '^') := by
      rw [Bool.eq_iff_iff, beq_iff_eq, beq_iff_eq, (closes_append v).head?_iff (by decide)]
    simp only [hnegated]
    obtain ⟨w, hw, hw'⟩ : ∃ w, (if v.head? == some '^' then v.tail else v) = w
        ∧ (if v.head? == some '^' then (v ++ [')']).tail else v ++ [')']) = w ++ [')'] := by
      cases v with
      | nil => exact ⟨[], rfl, rfl⟩
      | cons c v =>
        split
        · exact ⟨v, rfl, rfl⟩
        · exact ⟨c :: v, rfl, rfl⟩
    rw [hw, hw']
    obtain ⟨hcl, hname⟩ := word_closes (p := fun x => x ≠ ':') rfl w
    split
    · next after hafter =>
      obtain ⟨x, hx, hx'⟩ := hcl.eq_cons (by decide) hafter
      obtain ⟨y, rfl, rfl⟩ := (closes_append x).eq_cons (by decide) hx'.symm
      rw [hname (by rw [hx]; exact List.cons_ne_nil _ _), hx]
      simp only [Option.map_map]
      rfl
    · next hne =>
      split
      · next after hafter =>
        rw [hafter] at hcl
        exact (hne _ (hcl.cons rfl)).elim
      · rfl
  · next hne =>
    split
    · next u => exact (hne _ rfl).elim
    · rfl

theorem length_namedClass?_le {t rest : Text} {negated : Bool} {s : CharSet}
    (h : namedClass? t = some (negated, s, rest)) : rest.length ≤ t.length := by
  unfold namedClass? at h
  split at h
  · next u =>
    dsimp only at h
    split at h
    · next after hafter =>
      obtain ⟨_, _, heq⟩ := Option.map_eq_some_iff.1 h
      have hrest : after = rest := congrArg (·.2.2) heq
      have hlen := congrArg List.length hafter
      have hle : (if u.head? == some '^' then u.tail else u).length ≤ u.length := by
        split
        · rw [List.length_tail]; omega
        · exact Nat.le_refl _
      rw [List.length_drop, List.length_cons, List.length_cons, hrest] at hlen
      rw [List.length_cons]
      omega
    · cases h
  · cases h

theorem leadingHyphens_closes (flags : Flags) (u : SetUnion) {fuel fuel' : Nat} {t t' : Text}
    (h : Closes t t') (hfuel : t.length ≤ fuel) (hfuel' : t'.length ≤ fuel') :
    (leadingHyphens flags u fuel t).2.length ≤ t.length
      ∧ (leadingHyphens flags u fuel' t').1 = (leadingHyphens flags u fuel t).1
      ∧ Closes (leadingHyphens flags u fuel t).2 (leadingHyphens flags u fuel' t').2 := by
  fun_induction leadingHyphens flags u fuel t generalizing t' fuel' with
  | case1 u fuel t ih =>
    obtain rfl := h.cons rfl
    rw [List.length_cons] at hfuel'
    obtain ⟨fuel', rfl⟩ : ∃ n, fuel' = n + 1 := ⟨fuel' - 1, by omega⟩
    have := length_skip_le flags t
    have := length_skip_le flags (t ++ [')'])
    simp only [List.length_cons] at hfuel hfuel' ⊢
    obtain ⟨hlen, hrest⟩ := @ih fuel' _ ((closes_append t).skip flags) (by omega) (by omega)
    exact ⟨by omega, hrest⟩
  | case2 fuel u t hne =>
    have hhyphen (v : Text) (hv : t = '-' :: v) : False := by
      subst hv
      cases fuel with
      | zero => cases hfuel
      | succ fuel => exact hne fuel v rfl rfl
    have hread : leadingHyphens flags u fuel' t' = (u, t') := by
      unfold leadingHyphens
      split
      · next v => exact (h.not_cons (by decide) hhyphen v rfl).elim
      · rfl
    rw [hread]
    exact ⟨Nat.le_refl _, rfl, h⟩

theorem classHead_closes (flags : Flags) {t t' : Text} (h : Closes t t') :
    (classHead flags t).2.length ≤ t.length
      ∧ (classHead flags t').1 = (classHead flags t).1
      ∧ Closes (classHead flags t).2 (classHead flags t').2 := by
  unfold classHead
  split
  · next u =>
    rw [h.cons rfl]
    exact ⟨Nat.le_succ_of_le (length_skip_le flags u), rfl, (closes_append u).skip flags⟩
  · next hne =>
    split
    · next u => exact (h.not_cons (by decide) hne u rfl).elim
    · exact leadingHyphens_closes flags {} h (Nat.le_refl _) (Nat.le_refl _)

theorem setOp?_append (t : Text) :
    setOp? (t ++ [')']) = (setOp? t).map fun r => (r.1, r.2 ++ [')']) := by
  match t with
  | [] => rfl
  | [c] =>
    show (if c = ')' then (SetOp.ofSign? c).map (·, []) else none) = none
    split
    · next hc => rw [hc]; rfl
    · rfl
  | c :: d :: t =>
    show (if c = d then (SetOp.ofSign? c).map (·, t ++ [')']) else none)
      = (if c = d then (SetOp.ofSign? c).map (·, t) else none).map _
    split
    · rw [Option.map_map]; rfl
    · rfl

theorem length_setOp?_le {t rest : Text} {o : SetOp} (h : setOp? t = some (o, rest)) :
    rest.length ≤ t.length := by
  unfold setOp? at h
  split at h
  · next c d u =>
    split at h
    · obtain ⟨_, -, heq⟩ := Option.map_eq_some_iff.1 h
      obtain ⟨-, rfl⟩ := Prod.mk.inj heq
      simp only [List.length_cons]
      omega
    · cases h
  · cases h

theorem carries_readInnerClass (flags : Flags) {nested nested' : Text → Reader (CharSet × Nat)}
    (h : CarriesTo nested nested') :
    CarriesTo (readInnerClass flags nested) (readInnerClass flags nested') := by
  intro t t' x rest hcl hr
  rcases hcl with rfl | ⟨rfl, rfl⟩
  · unfold readInnerClass at hr ⊢
    rw [namedClass?_append]
    cases hnamed : namedClass? t with
    | none =>
      rw [hnamed] at hr
      exact h (closes_append t) hr
    | some named =>
      obtain ⟨negated, s, after⟩ := named
      rw [hnamed] at hr
      have hle := length_namedClass?_le hnamed
      obtain ⟨rfl, hread⟩ := handsOn_map (flags.negate negated (flags.fold s)) (·, 0) hr
      exact ⟨hle, _, hread _, closes_append after⟩
  · exact h (.inr ⟨rfl, rfl⟩) hr

/-- one token of the body of a class -/
theorem carries_readClassToken (flags : Flags) {nested nested' : Text → Reader (CharSet × Nat)}
    (h : CarriesTo nested nested') :
    CarriesTo (readClassToken flags nested) (readClassToken flags nested') := by
  intro t t' x rest hcl hr
  cases t with
  | nil => cases hr
  | cons c t =>
    obtain rfl := hcl.cons rfl
    rw [readClassToken] at hr ⊢
    by_cases hclose : c = ']'
    · rw [if_pos hclose] at hr ⊢
      obtain ⟨rfl, hread⟩ := handsOn_ok ClassToken.close hr
      exact ⟨Nat.le_succ _, _, hread _, closes_append t⟩
    rw [if_neg hclose] at hr ⊢
    by_cases hopen : c = '['
    · rw [if_pos hopen] at hr ⊢
      have hinner := (carries_readInnerClass flags h).map fun r => ClassToken.item r.1 r.2
      obtain ⟨hle, hread⟩ := hinner (closes_append t) hr
      exact ⟨Nat.le_succ_of_le hle, hread⟩
    rw [if_neg hopen] at hr ⊢
    rw [← List.cons_append, setOp?_append]
    cases hop : setOp? (c :: t) with
    | some r =>
      rw [hop] at hr
      obtain ⟨rfl, rfl⟩ := Prod.mk.inj (Except.ok.inj hr)
      exact ⟨length_setOp?_le hop, _, rfl, closes_append r.2⟩
    | none =>
      rw [hop] at hr
      exact (carries_readClassRange flags).map (ClassToken.item · 0) hcl hr

/-! ## classes within classes -/

section
variable {flags : Flags} {fuel fuel' : Nat}

theorem carries_readClass_succ
    (hbody : ∀ u, CarriesTo (readClassBody flags fuel none u) (readClassBody flags fuel' none u)) :
    CarriesTo (readClass flags (fuel + 1)) (readClass flags (fuel' + 1)) := by
  intro t t' x rest h hr
  rw [readClass] at hr ⊢
  dsimp only at hr ⊢
  have hle := length_skip_le flags t
  have hskip := h.skip flags
  have hnegated : ((flags.skip t').head? == some '^') = ((flags.skip t).head? == some '^') := by
    rw [Bool.eq_iff_iff, beq_iff_eq, beq_iff_eq, hskip.head?_iff (by decide)]
  rw [hnegated]
  generalize ((flags.skip t).head? == some '^') = negated at hr ⊢
  have hfront :
      (if negated then flags.skip (flags.skip t).tail else flags.skip t).length ≤ t.length
        ∧ Closes (if negated then flags.skip (flags.skip t).tail else flags.skip t)
          (if negated then flags.skip (flags.skip t').tail else flags.skip t') := by
    cases negated with
    | false => exact ⟨hle, hskip⟩
    | true =>
      have := length_skip_le flags (flags.skip t).tail
      rw [List.length_tail] at this
      exact ⟨by rw [if_pos rfl]; omega, hskip.tail.skip flags⟩
  obtain ⟨hlen, hhead, hcl⟩ := classHead_closes flags hfront.2
  split at hr
  · cases hr
  · next set depth after hset =>
    obtain ⟨hlen', v', hv', hcl'⟩ := hbody _ hcl hset
    obtain ⟨rfl, hread⟩ := handsOn_map (flags.negate negated (flags.fold set)) (·, depth + 1) hr
    rw [hhead, hv']
    exact ⟨by omega, _, hread _, hcl'⟩

theorem carries_readClassBody_succ
    (hclass : CarriesTo (readClass flags fuel) (readClass flags fuel'))
    (hbody : ∀ pending u,
      CarriesTo (readClassBody flags fuel pending u) (readClassBody flags fuel' pending u))
    (pending : Pending) (u : SetUnion) :
    CarriesTo (readClassBody flags (fuel + 1) pending u)
      (readClassBody flags (fuel' + 1) pending u) := by
  intro t t' x rest h hr
  rw [readClassBody] at hr ⊢
  cases htoken : readClassToken flags (readClass flags fuel) (flags.skip t) with
  | error e =>
    rw [htoken] at hr
    cases hr
  | ok r =>
    obtain ⟨token, v⟩ := r
    obtain ⟨hlen, v', hv', hcl⟩ := carries_readClassToken flags hclass (h.skip flags) htoken
    have hle := Nat.le_trans hlen (length_skip_le flags t)
    rw [htoken] at hr
    rw [hv']
    cases token with
    | close =>
      obtain ⟨rfl, rfl⟩ := Prod.mk.inj (Except.ok.inj hr)
      exact ⟨hle, v', rfl, hcl⟩
    | item s depth =>
      obtain ⟨hle', hread⟩ := hbody _ _ hcl hr
      exact ⟨Nat.le_trans hle' hle, hread⟩
    | op o =>
      obtain ⟨hle', hread⟩ := hbody _ _ hcl hr
      exact ⟨Nat.le_trans hle' hle, hread⟩

/-- Both readers of a class.  A class ends before the text does, so more fuel changes nothing. -/
theorem carries_class (hfuel : fuel ≤ fuel') :
    CarriesTo (readClass flags fuel) (readClass flags fuel')
      ∧ ∀ pending u,
        CarriesTo (readClassBody flags fuel pending u) (readClassBody flags fuel' pending u) := by
  -- the readers call each other with less fuel, so one induction carries both
  induction fuel generalizing fuel' with
  | zero => exact ⟨fun _ _ _ _ _ => nofun, fun _ _ _ _ _ _ _ => nofun⟩
  | succ fuel ih =>
    obtain ⟨fuel', rfl⟩ : ∃ n, fuel' = n + 1 := ⟨fuel' - 1, by omega⟩
    obtain ⟨ihclass, ihbody⟩ := ih (Nat.le_of_succ_le_succ hfuel)
    exact ⟨carries_readClass_succ (ihbody none), carries_readClassBody_succ ihclass ihbody⟩

end

end Workbench.Pattern
