import Workbench.Proofs.Pattern.AppendedClasses

/-!
# Tokens in front of a closing parenthesis

Groups, with their flags and names, and repetitions, with their counts, are read in front of `)` as
they are in front of the end of the pattern; with escapes and classes these are all the tokens:
`carries_readToken`.
-/

namespace Workbench.Pattern

/-! ## groups and repetitions -/

theorem carries_readFlags (off : Bool) (changes : List (Flag × Bool)) :
    Carries (readFlags off changes) := by
  intro t t' x rest h hr
  induction t generalizing off changes t' with
  | nil => cases hr
  | cons c t ih =>
    rw [h.cons rfl]
    rw [readFlags] at hr ⊢
    have hbehind {off changes} (hr : readFlags off changes t = .ok (x, rest)) :=
      have ⟨hle, hread⟩ := ih off changes (closes_append t) hr
      And.intro (Nat.le_succ_of_le hle) hread
    have hnext {y : Token} (hr : Except.ok (ε := PatternError) (y, t) = .ok (x, rest)) :=
      have ⟨hle, hread⟩ := (handsOn_ok y).carries (closes_append t) hr
      And.intro (Nat.le_succ_of_le hle) hread
    revert hr
    split
    · split
      · nofun
      · split
        · exact hnext
        · split
          · nofun
          · exact hnext
    · split
      · split
        · nofun
        · exact hbehind
      · split
        · nofun
        · split
          · nofun
          · exact hbehind

theorem carries_readGroupName : Carries readGroupName := by
  intro t t' x rest h hr
  unfold readGroupName at hr ⊢
  dsimp only at hr ⊢
  split at hr
  · cases hr
  · next c u hu =>
    have ht : t ≠ [] := fun ht => by rw [ht] at hu; cases hu
    obtain ⟨hcl, hname⟩ := word_closes (p := fun x => x ≠ '>') rfl t
    rw [h.eq_append ht, hcl.cons hu, hname (hu ▸ List.cons_ne_nil _ _)]
    have hlen := congrArg List.length hu
    rw [List.length_drop, List.length_cons] at hlen
    split at hr
    · next hgroup =>
      obtain ⟨rfl, hread⟩ := handsOn_ok _ hr
      simp only [hgroup, if_true]
      exact ⟨by omega, _, hread _, closes_append u⟩
    · cases hr

theorem carries_readGroup (flags : Flags) : Carries (readGroup flags) := by
  intro t t' x rest h hr
  have hle := length_skip_le flags t
  have hskip := h.skip flags
  have hbehind {read : Text → Reader Token} {u : Text} (hread : Carries read)
      (hlen : u.length ≤ (flags.skip t).length) (hr : read u = .ok (x, rest)) :=
    have ⟨hle', hread⟩ := hread (closes_append u) hr
    And.intro (Nat.le_trans hle' (Nat.le_trans hlen hle)) hread
  unfold readGroup at hr ⊢
  split at hr
  · cases hr
  · cases hr
  · cases hr
  · cases hr
  · next u hu =>
    rw [hskip.cons hu]
    exact hbehind carries_readGroupName (by rw [hu]; simp only [List.length_cons]; omega) hr
  · next u hequal hbang hu =>
    have hread := hbehind carries_readGroupName (by rw [hu]; simp only [List.length_cons]; omega) hr
    have hequal' := (closes_append u).not_cons (by decide) hequal
    have hbang' := (closes_append u).not_cons (by decide) hbang
    rw [hskip.cons hu, List.cons_append]
    -- the sides that are not taken are told apart by characters that the parenthesis is not
    split <;> grind
  · next u hequal hbang _ _ hname hangle hu =>
    have hread := hbehind (carries_readFlags false [])
      (by rw [hu]; simp only [List.length_cons]; omega) hr
    have hequal' := (closes_append u).not_cons (by decide) hequal
    have hbang' := (closes_append u).not_cons (by decide) hbang
    have hname' := (closes_append u).not_cons_cons (by decide) (by decide) hname
    have hangle' := (closes_append u).not_cons (by decide) hangle
    rw [hskip.cons hu]
    split <;> grind
  · next hquestion =>
    have hne := hskip.not_cons (by decide) hquestion
    obtain ⟨rfl, hread⟩ := handsOn_ok _ hr
    split
    case h_8 => exact ⟨hle, _, hread _, hskip⟩
    all_goals next heq => exact (hne _ heq).elim

theorem carries_readLaziness (least : Nat) (most : Option Nat) :
    Carries fun t => .ok (readLaziness least most t) := by
  intro t t' x rest h hr
  unfold readLaziness at hr ⊢
  dsimp only at hr ⊢
  split at hr
  · next u =>
    rw [h.cons rfl]
    obtain ⟨rfl, hread⟩ := handsOn_ok _ hr
    exact ⟨Nat.le_succ _, _, hread _, closes_append u⟩
  · next hne =>
    obtain ⟨rfl, hread⟩ := handsOn_ok _ hr
    split
    · next u => exact (h.not_cons (by decide) hne u rfl).elim
    · exact ⟨Nat.le_refl _, _, hread _, h⟩

theorem carries_closeCount (flags : Flags) (least : Nat) (most : Option Nat) :
    Carries (closeCount flags least most) := by
  refine carries_of_cons (fun c => ?_) nofun
  by_cases hc : c = '\x7d'
  · subst hc
    show Carries fun t => if most.all (least ≤ ·) then .ok (readLaziness least most (flags.skip t))
      else .error .badRepetition
    split
    · exact (carries_readLaziness least most).skip flags
    · exact (handsOn_error _).carries
  · have hread (t : Text) : closeCount flags least most (c :: t) = .error .badRepetition := by
      rw [closeCount]
      exact fun u hu => hc (List.cons.inj hu).1
    rw [funext hread]
    exact (handsOn_error _).carries

theorem Closes.dropBlanks {t t' : Text} (h : Closes t t') :
    Closes (t.dropWhile Text.isBlank) (t'.dropWhile Text.isBlank) := by
  rcases h with rfl | ⟨rfl, rfl⟩
  · exact .inl (dropBlanks_append t)
  · exact .inr ⟨rfl, rfl⟩

theorem readCount_closes (flags : Flags) {t t' rest : Text} {n : Nat} (h : Closes t t')
    (hr : readCount flags t = .ok (some n, rest)) (hne : rest ≠ []) :
    rest.length ≤ t.length ∧ readCount flags t' = .ok (some n, rest ++ [')']) := by
  have hblanks (t : Text) : (t.dropWhile Text.isBlank).length ≤ t.length :=
    (List.dropWhile_suffix _).length_le
  unfold readCount at hr ⊢
  dsimp only at hr ⊢
  split at hr
  · cases hr
  · next hdigits =>
    split at hr
    · next hlimit =>
      obtain ⟨hn, hrest⟩ := Prod.mk.inj (Except.ok.inj hr)
      obtain ⟨digits, after, hdigits'⟩ : ∃ digits after, flags.span (fun c => '0' ≤ c && c ≤ '9')
          t.length (t.dropWhile Text.isBlank) = (digits, after) := ⟨_, _, rfl⟩
      rw [hdigits'] at hdigits hlimit hn hrest
      have hafter : after ≠ [] := fun hafter => hne (by rw [← hrest, hafter]; rfl)
      obtain ⟨hlen, hspan⟩ := span_closes h.dropBlanks (hblanks t) (hblanks t') hdigits' hafter
      have := hblanks t
      have := hblanks after
      rw [hspan]
      dsimp only at hdigits hlimit hn hrest ⊢
      rw [if_neg hdigits, if_pos hlimit, hn, dropBlanks_append, hrest]
      exact ⟨by rw [← hrest]; omega, rfl⟩
    · cases hr

theorem ne_nil_of_closeCount {flags : Flags} {least : Nat} {most : Option Nat} {t : Text}
    {p : Token × Text} (h : closeCount flags least most t = .ok p) : t ≠ [] := by
  rintro rfl
  cases h

theorem carries_readCounted (flags : Flags) : Carries (readCounted flags) := by
  intro t t' x rest h hr
  have hle := length_skip_le flags t
  have hskip := h.skip flags
  unfold readCounted at hr ⊢
  split at hr
  · next least u hleast =>
    obtain ⟨hlen, hleast'⟩ := readCount_closes flags hskip hleast (List.cons_ne_nil _ _)
    have hskip' := (closes_append u).skip flags
    have := length_skip_le flags u
    rw [List.length_cons] at hlen
    rw [hleast', List.cons_append]
    simp only
    split at hr
    · next v hv =>
      obtain ⟨hlen', hread⟩ :=
        carries_closeCount flags least none (closes_append ('\x7d' :: v)) hr
      rw [hskip'.cons hv]
      rw [← hv] at hlen'
      exact ⟨by omega, hread⟩
    · next hbrace =>
      split at hr
      · next most v hmost =>
        obtain ⟨hlen', hmost'⟩ := readCount_closes flags hskip' hmost (ne_nil_of_closeCount hr)
        obtain ⟨hlen'', hread⟩ := carries_closeCount flags least (some most) (closes_append v) hr
        split
        · next w hw => exact (hskip'.not_cons (by decide) hbrace w hw).elim
        · rw [hmost']
          exact ⟨by omega, hread⟩
      · cases hr
  · next least u hcomma hleast =>
    obtain ⟨hlen, hleast'⟩ := readCount_closes flags hskip hleast (ne_nil_of_closeCount hr)
    obtain ⟨hlen', hread⟩ := carries_closeCount flags least (some least) (closes_append u) hr
    rw [hleast']
    split
    · next least' v heq =>
      obtain ⟨-, hv⟩ := Prod.mk.inj (Except.ok.inj heq)
      exact ((closes_append u).not_cons (by decide) (fun w hw => hcomma w (by rw [hw])) v hv).elim
    · next heq =>
      obtain ⟨hn, rfl⟩ := Prod.mk.inj (Except.ok.inj heq)
      cases hn
      exact ⟨by omega, hread⟩
    · next hne => exact (hne _ _ rfl).elim
  · cases hr

/-! ## tokens -/

theorem carries_readToken (flags : Flags) (c : Char) : Carries (readToken flags c) := by
  unfold readToken
  split
  · intro t t' x rest h hr
    dsimp only at hr ⊢
    split at hr
    · cases hr
    · next primitive u hu =>
      obtain ⟨hle, u', hu', hcl⟩ := carries_readEscape flags h hu
      obtain ⟨rfl, hread⟩ := handsOn_map (primitive.regex flags) (Token.part · 0) hr
      rw [hu']
      exact ⟨hle, u', hread u', hcl⟩
  · intro t t' x rest h hr
    have hfuel : 2 * t.length + 3 ≤ 2 * t'.length + 3 := by
      rcases h with rfl | ⟨rfl, rfl⟩
      · rw [List.length_append]; omega
      · exact Nat.le_refl _
    exact (carries_class hfuel).1.map (fun r => Token.part (.ofSet r.1) r.2) h hr
  · exact carries_readGroup flags
  · exact (handsOn_ok _).carries
  · exact (handsOn_ok _).carries
  · exact (handsOn_map _ _).carries
  · exact (handsOn_ok _).carries
  · exact (handsOn_ok _).carries
  · exact carries_readLaziness _ _
  · exact carries_readLaziness _ _
  · exact carries_readLaziness _ _
  · exact carries_readCounted flags
  · exact (handsOn_ok _).carries

end Workbench.Pattern
