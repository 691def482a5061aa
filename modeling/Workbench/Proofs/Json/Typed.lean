import Workbench.Proofs.Json.Values

/-!
# Values of a known type

Single values and choices, as they are read where their type is known.  Whatever a reader of them
takes, passing over the same place takes as well (`Agrees`): what follows is then left in the same
state, whether the value was asked for or not.
-/

namespace Workbench.Json

variable {α β : Type} {q r s t v x : Text}

/-- what is read is passed over alike -/
def Agrees (read : Reader α) : Prop :=
  ∀ {s r a}, Gives (read s) a r → Gives (skipValue s) () r

/-- what opens nothing is passed over at once -/
theorem gives_skipValue_of_single {c : Char} (hnext : Next s c q) (hopens : Opens c q .single r) :
    Gives (skipValue s) () r :=
  gives_skipFrames_iff.2 (.inl ⟨r, gives_skipOpening_iff.2 ⟨c, q, hnext, hopens⟩,
    gives_leaveFrames_nil_iff.2 rfl⟩)

theorem gives_skipValue_of_frame {f : Frame} (hnext : Next s f.open q)
    (h : Inside f [] true q r) : Gives (skipValue s) () r :=
  gives_skipFrames_iff.2 (.inr ⟨f, q, gives_skipOpening_iff.2 ⟨f.open, q, hnext, .frame f q⟩, h⟩)

/-! ## booleans, strings and null -/

/-- a boolean as it is written -/
inductive IsBoolean : Text → Bool → Prop
  | yes : IsBoolean "true".toList true
  | no : IsBoolean "false".toList false

theorem gives_boolean_iff {b : Bool} :
    Gives (boolean s) b r ↔ ∃ v, IsBoolean v b ∧ skipBlank s = v ++ r := by
  refine gives_next_iff.trans ?_
  constructor
  · rintro ⟨c, q, hnext, h⟩
    split at h
    · next hc =>
      obtain ⟨_, hword, rfl⟩ := gives_map_widen_iff.1 h
      rw [hc, gives_readWord_iff.1 hword] at hnext
      exact ⟨_, .yes, hnext⟩
    split at h
    · next hc =>
      obtain ⟨_, hword, rfl⟩ := gives_map_widen_iff.1 h
      rw [hc, gives_readWord_iff.1 hword] at hnext
      exact ⟨_, .no, hnext⟩
    · exact absurd h not_gives_error
  · rintro ⟨v, hv, hs⟩
    cases hv with
    | yes =>
      refine ⟨'t', "rue".toList ++ r, hs, ?_⟩
      rw [if_pos rfl]
      exact gives_map_widen_iff.2 ⟨(), gives_readWord_iff.2 rfl, rfl⟩
    | no =>
      refine ⟨'f', "alse".toList ++ r, hs, ?_⟩
      rw [if_neg (by decide), if_pos rfl]
      exact gives_map_widen_iff.2 ⟨(), gives_readWord_iff.2 rfl, rfl⟩

theorem gives_string_iff {a : String} :
    Gives (string s) a r ↔ ∃ q, Next s '"' q ∧ Gives (readString q) a.toList r := by
  refine gives_next_iff.trans ?_
  constructor
  · rintro ⟨c, q, hnext, h⟩
    split at h
    · next hc =>
      obtain ⟨x, hx, rfl⟩ := gives_map_widen_iff.1 h
      exact ⟨q, hc ▸ hnext, by rwa [String.toList_ofList]⟩
    · exact absurd h not_gives_error
  · rintro ⟨q, hnext, hread⟩
    exact ⟨'"', q, hnext, gives_map_widen_iff.2 ⟨a.toList, hread, String.ofList_toList⟩⟩

theorem gives_null_iff : Gives (null s) () r ↔ Next s 'n' ("ull".toList ++ r) := by
  refine gives_next_iff.trans ?_
  constructor
  · rintro ⟨c, q, hnext, h⟩
    split at h
    · next hc => rwa [hc, gives_readWord_iff.1 (gives_widen_iff.1 h)] at hnext
    · exact absurd h not_gives_error
  · intro hnext
    refine ⟨'n', _, hnext, ?_⟩
    rw [if_pos rfl]
    exact gives_widen_iff.2 (gives_readWord_iff.2 rfl)

theorem agrees_boolean : Agrees boolean := by
  intro s r b h
  obtain ⟨v, hv, hs⟩ := gives_boolean_iff.1 h
  cases hv with
  | yes => exact gives_skipValue_of_single hs (.yes r)
  | no => exact gives_skipValue_of_single hs (.no r)

theorem agrees_string : Agrees string := by
  intro s r a h
  obtain ⟨q, hnext, hread⟩ := gives_string_iff.1 h
  exact gives_skipValue_of_single hnext (.string (gives_skipString_of_readString hread))

theorem agrees_null : Agrees null := by
  intro s r a h
  exact gives_skipValue_of_single (gives_null_iff.1 h) (.null r)

/-! ## values that may be null -/

theorem gives_optional_iff {read : Reader α} {o : Option α} : Gives (optional read s) o r
    ↔ Next s 'n' ("ull".toList ++ r) ∧ o = none
      ∨ (∀ q, ¬ Next s 'n' q) ∧ ∃ a, Gives (read s) a r ∧ o = some a := by
  unfold optional
  split
  · next q hq hnext =>
    have hnext := next_of_next? hnext
    rw [gives_map_widen_iff]
    constructor
    · rintro ⟨_, hword, rfl⟩
      rw [gives_readWord_iff.1 hword] at hnext
      exact .inl ⟨hnext, rfl⟩
    · rintro (⟨hnull, rfl⟩ | ⟨hnot, -⟩)
      · exact ⟨(), gives_readWord_iff.2 (hnext.unique hnull).2, rfl⟩
      · exact absurd hnext (hnot q)
  · next hnot =>
    have hnot : ∀ q, ¬ Next s 'n' q := by
      intro q hnext
      obtain ⟨hq, hnext⟩ := hnext.next?
      exact hnot q hq hnext
    rw [gives_map_iff]
    constructor
    · rintro ⟨a, ha, rfl⟩
      exact .inr ⟨hnot, a, ha, rfl⟩
    · rintro (⟨hnull, -⟩ | ⟨-, a, ha, rfl⟩)
      · exact absurd hnull (hnot _)
      · exact ⟨a, ha, rfl⟩

theorem agrees_optional {read : Reader α} (hread : Agrees read) : Agrees (optional read) := by
  intro s r o h
  rcases gives_optional_iff.1 h with ⟨hnull, -⟩ | ⟨-, a, ha, -⟩
  · exact gives_skipValue_of_single hnull (.null r)
  · exact hread ha

/-! ## choices -/

section
variable {known : List (String × α)} {a : α}

/-- the name `x` is known for `a` -/
def Knows (known : List (String × α)) (x : Text) (a : α) : Prop :=
  ∃ k, known.find? (fun k => k.1.toList == x) = some k ∧ k.2 = a

theorem gives_chosen_iff {n : Nat} {name : Taken Text n} :
    Gives (chosen known name) a r ↔ Knows known name.value a ∧ name.rest = r := by
  unfold chosen Knows
  split
  · next k hk =>
    rw [hk]
    show Gives (.ok ⟨k.2, name.rest, name.shorter⟩) a r ↔ _
    rw [gives_ok_iff]
    simp only [Option.some.injEq, exists_eq_left']
  · next hk =>
    rw [hk]
    constructor
    · intro h
      exact absurd h not_gives_error
    · rintro ⟨⟨_, hsome, -⟩, -⟩
      cases hsome

theorem gives_colon_iff : Gives (colon s) () r ↔ Next s ':' r := by
  refine gives_next_iff.trans ?_
  constructor
  · rintro ⟨c, q, hnext, h⟩
    split at h
    · next hc =>
      obtain ⟨-, rfl⟩ := gives_ok_iff.1 h
      exact hc ▸ hnext
    · exact absurd h not_gives_error
  · intro hnext
    exact ⟨':', r, hnext, gives_ok_iff.2 ⟨rfl, rfl⟩⟩

theorem gives_onlyKey_iff :
    Gives (onlyKey s) x r ↔ ∃ q, Next s '"' q ∧ Gives (readString q) x r := by
  refine gives_next_iff.trans ?_
  constructor
  · rintro ⟨c, q, hnext, h⟩
    split at h
    · next hc => exact ⟨q, hc ▸ hnext, gives_widen_iff.1 h⟩
    · exact absurd h not_gives_error
  · rintro ⟨q, hnext, hread⟩
    exact ⟨'"', q, hnext, gives_widen_iff.2 hread⟩

theorem gives_choiceObject (h : Gives (choiceObject known s) a r) : ∃ x q t u,
    Gives (onlyKey s) x q ∧ Gives (colon q) () t ∧ Gives (null t) () u ∧ Next u '\x7d' r := by
  unfold choiceObject at h
  split at h
  · exact absurd h not_gives_error
  · next name hname =>
    split at h
    · exact absurd h not_gives_error
    · next b hb =>
      obtain ⟨-, hrest⟩ := gives_chosen_iff.1 ⟨b.shorter, hb⟩
      split at h
      · exact absurd h not_gives_error
      · next t ht =>
        split at h
        · exact absurd h not_gives_error
        · next u hu =>
          split at h
          · exact absurd h not_gives_error
          · next c q hq hnext =>
            split at h
            · next hc =>
              obtain ⟨-, rfl⟩ := gives_ok_iff.1 h
              refine ⟨name.value, name.rest, t.rest, u.rest, ⟨name.shorter, hname⟩, ?_,
                ⟨u.shorter, hu⟩, hc ▸ next_of_next? hnext⟩
              rw [hrest]
              exact ⟨t.shorter, ht⟩
            · exact absurd h not_gives_error

theorem gives_choice_iff : Gives (choice known s) a r
    ↔ (∃ q x, Next s '"' q ∧ Gives (readString q) x r ∧ Knows known x a)
      ∨ ∃ q, Next s '\x7b' q ∧ Gives (choiceObject known q) a r := by
  refine gives_next_iff.trans ?_
  constructor
  · rintro ⟨c, q, hnext, h⟩
    split at h
    · next hc =>
      split at h
      · exact absurd h not_gives_error
      · next name hname =>
        obtain ⟨hknown, rfl⟩ := gives_chosen_iff.1 h
        exact .inl ⟨q, name.value, hc ▸ hnext, ⟨name.shorter, hname⟩, hknown⟩
    split at h
    · next hc => exact .inr ⟨q, hc ▸ hnext, gives_widen_iff.1 h⟩
    · exact absurd h not_gives_error
  · rintro (⟨q, x, hnext, ⟨_, hread⟩, hknown⟩ | ⟨q, hnext, hobject⟩)
    · refine ⟨'"', q, hnext, ?_⟩
      simp only [if_true, hread]
      exact gives_chosen_iff.2 ⟨hknown, rfl⟩
    · exact ⟨'\x7b', q, hnext, gives_widen_iff.2 hobject⟩

theorem agrees_choice : Agrees (choice known) := by
  intro s r a h
  rcases gives_choice_iff.1 h with ⟨q, x, hnext, hread, -⟩ | ⟨q, hnext, hobject⟩
  · exact gives_skipValue_of_single hnext (.string (gives_skipString_of_readString hread))
  · have hopen : Next s Frame.object.open q := hnext
    obtain ⟨x, p, t, u, hkey, hcolon, hnull, hclose⟩ := gives_choiceObject hobject
    obtain ⟨k, hquote, hread⟩ := gives_onlyKey_iff.1 hkey
    have hpasses : Frame.object.Passes q t := gives_skipKey_iff.2
      ⟨k, p, hquote, gives_skipString_of_readString hread, gives_colon_iff.1 hcolon⟩
    have hbehind : Gives (leaveFrames [.object] u) () r :=
      gives_leaveFrames_cons_iff.2 (.close hclose (gives_leaveFrames_nil_iff.2 rfl))
    exact gives_skipValue_of_frame hopen (.first hquote (by decide) hpasses
      (gives_skipFrames_of_skipValue (agrees_null hnull) hbehind))

end

/-! ## values as they are written -/

/-- values of a type are read, whatever follows -/
def ReadsAs (read : Reader β) (IsA : Text → β → Prop) : Prop :=
  ∀ {v b}, IsA v b → ∀ {s}, IsBlanks s → ∀ r, Gives (read (s ++ (v ++ r))) b r

/-- somewhere the value is read -/
def Takes (read : Reader β) (v : Text) (b : β) : Prop :=
  ∃ s r, IsBlanks s ∧ Gives (read (s ++ (v ++ r))) b r

theorem ReadsAs.eq_of_takes {read : Reader β} {IsA : Text → β → Prop} {b c : β}
    (h : ReadsAs read IsA) (hv : IsA v b) (htakes : Takes read v c) : c = b := by
  obtain ⟨s, r, hs, hread⟩ := htakes
  exact (hread.unique (h hv hs r)).1

theorem IsValue.skipBlank_append {b : Text} (hv : IsValue v) (hb : IsBlanks b) (r : Text) :
    skipBlank (b ++ (v ++ r)) = v ++ r := by
  obtain ⟨c, u, rfl, hblank, -⟩ := hv.front
  exact Next.of_blanks hb hblank (u ++ r)

theorem next_quoted {b : Text} (hb : IsBlanks b) (w r : Text) :
    Next (b ++ (quoted w ++ r)) '"' (w ++ '"' :: r) := by
  rw [quoted_append]
  exact Next.of_blanks hb (by decide) _

/-- a string that stands for a text -/
def IsString (v : Text) (a : String) : Prop := Denotes v a.toList

theorem reads_string : ReadsAs string IsString := by
  rintro _ a ⟨w, rfl, hw⟩ s hs r
  exact gives_string_iff.2 ⟨_, next_quoted hs w r, gives_readString_iff.2 ⟨w, hw, rfl⟩⟩

theorem isString_of_takes {a : String} (hv : IsValue v) (h : Takes string v a) :
    IsString v a := by
  obtain ⟨s, r, hs, hread⟩ := h
  obtain ⟨q, hnext, hread⟩ := gives_string_iff.1 hread
  obtain ⟨w, hw, rfl⟩ := gives_readString_iff.1 hread
  rw [Next, hv.skipBlank_append hs, ← quoted_append] at hnext
  exact ⟨w, List.append_cancel_right hnext, hw⟩

theorem reads_boolean : ReadsAs boolean IsBoolean := by
  intro v b hv s hs r
  refine gives_boolean_iff.2 ⟨v, hv, ?_⟩
  cases hv with
  | yes => exact Next.of_blanks hs (by decide) _
  | no => exact Next.of_blanks hs (by decide) _

theorem isBoolean_of_takes {b : Bool} (hv : IsValue v) (h : Takes boolean v b) :
    IsBoolean v b := by
  obtain ⟨s, r, hs, hread⟩ := h
  obtain ⟨u, hu, heq⟩ := gives_boolean_iff.1 hread
  rw [hv.skipBlank_append hs] at heq
  rwa [List.append_cancel_right heq]

/-- a string that stands for one of the names of a choice -/
def IsChoice (known : List (String × α)) (v : Text) (a : α) : Prop :=
  ∃ x, Denotes v x ∧ Knows known x a

theorem reads_choice {known : List (String × α)} : ReadsAs (choice known) (IsChoice known) := by
  rintro _ a ⟨x, ⟨w, rfl, hw⟩, hknown⟩ s hs r
  have hread : Gives (readString (w ++ '"' :: r)) x r := gives_readString_iff.2 ⟨w, hw, rfl⟩
  exact gives_choice_iff.2 (.inl ⟨_, x, next_quoted hs w r, hread, hknown⟩)

/-- a string that a choice takes is one of its names -/
theorem isChoice_of_takes {known : List (String × α)} {a : α} {w : Text}
    (h : Takes (choice known) (quoted w) a) : IsChoice known (quoted w) a := by
  obtain ⟨s, r, hs, hread⟩ := h
  have hquote := next_quoted hs w r
  rcases gives_choice_iff.1 hread with ⟨q, x, hnext, hread, hknown⟩ | ⟨q, hnext, -⟩
  · obtain ⟨-, rfl⟩ := hnext.unique hquote
    obtain ⟨w', hw', heq⟩ := gives_readString_iff.1 hread
    obtain rfl := List.append_cancel_right heq
    exact ⟨x, ⟨w, rfl, hw'⟩, hknown⟩
  · cases (hnext.unique hquote).1

/-- a value of a type, or `null` for none -/
inductive IsOptional (IsA : Text → β → Prop) : Text → Option β → Prop
  | null : IsOptional IsA "null".toList none
  | value {v : Text} {b : β} (hv : IsA v b) : IsOptional IsA v (some b)

theorem not_next_null {b : Text} (hb : IsBlanks b) (w r q : Text) :
    ¬ Next (b ++ (quoted w ++ r)) 'n' q := fun hnext =>
  absurd (hnext.unique (next_quoted hb w r)).1 (by decide)

theorem reads_optional {read : Reader β} {IsA : Text → β → Prop} (hread : ReadsAs read IsA)
    (hquoted : ∀ {v b}, IsA v b → ∃ w, v = quoted w) :
    ReadsAs (optional read) (IsOptional IsA) := by
  intro v o hv s hs r
  cases hv with
  | null => exact gives_optional_iff.2 (.inl ⟨Next.of_blanks hs (by decide) _, rfl⟩)
  | @value _ b hv =>
    obtain ⟨w, rfl⟩ := hquoted hv
    exact gives_optional_iff.2 (.inr ⟨not_next_null hs w r, b, hread hv hs r, rfl⟩)

theorem exists_takes_of_optional {read : Reader β} {o : Option β} {w : Text}
    (h : Takes (optional read) (quoted w) o) : ∃ b, Takes read (quoted w) b := by
  obtain ⟨s, r, hs, hread⟩ := h
  rcases gives_optional_iff.1 hread with ⟨hnull, -⟩ | ⟨-, b, hb, -⟩
  · exact absurd hnull (not_next_null hs w r _)
  · exact ⟨b, s, r, hs, hb⟩

/-! ## documents -/

theorem readDocument_eq_ok {read : Reader α} {a : α} (h : Gives (read t) a r) (hr : IsBlanks r) :
    readDocument read t = .ok a := by
  obtain ⟨hlt, hread⟩ := h
  have hblank : skipBlank r = [] := by
    have hdrop : (r ++ []).dropWhile isBlank = [] := List.dropWhile_append_of_pos hr
    rwa [List.append_nil] at hdrop
  have hnone : next? r = none := by
    unfold next?
    split
    · rfl
    · next hnext =>
      rw [hblank] at hnext
      cases hnext
  rw [readDocument, hread]
  simp only [hnone]

theorem gives_of_readDocument {read : Reader α} {a : α} (h : readDocument read t = .ok a) :
    ∃ r, Gives (read t) a r := by
  unfold readDocument at h
  split at h
  · cases h
  · next b hb =>
    split at h
    · cases h
      exact ⟨b.rest, b.shorter, hb⟩
    · cases h

end Workbench.Json
