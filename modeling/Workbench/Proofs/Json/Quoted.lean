import Workbench.Json.Quoted
import Workbench.Proofs.Json.Steps

/-!
# Written strings

What may stand between quotes, and the text that it stands for.  Reading takes what stands for a
text and refuses the rest (`gives_readString_iff`); where the text is not asked for, more is passed
over, since half of a pair of units can be escaped by itself (`gives_skipString`).
-/

namespace Workbench.Json

open Text (hexValue?)

variable {r s : Text}

/-! ## escapes -/

/-- four hexadecimal digits and the unit that they name -/
inductive IsUnit : Text → Nat → Prop
  | mk {a b c d : Char} {p q x y : Nat} (ha : hexValue? a = some p) (hb : hexValue? b = some q)
      (hc : hexValue? c = some x) (hd : hexValue? d = some y) :
      IsUnit [a, b, c, d] (((p * 16 + q) * 16 + x) * 16 + y)

/-- the character of a pair of units -/
def pairChar (high low : Nat) : Char :=
  Char.ofNat (0x10000 + (high - 0xD800) * 0x400 + (low - 0xDC00))

/-- the number of an escape, and the character that it stands for -/
inductive IsNumbered : Text → Char → Prop
  | unit {u : Text} {n : Nat} (hu : IsUnit u n) (hlead : isLeading n = false)
      (htrail : isTrailing n = false) : IsNumbered u (Char.ofNat n)
  | pair {u w : Text} {high low : Nat} (hu : IsUnit u high) (hhigh : isLeading high = true)
      (hw : IsUnit w low) (hlow : isTrailing low = true) :
      IsNumbered (u ++ '\\' :: 'u' :: w) (pairChar high low)

/-- an escape, behind its backslash, and the character that it stands for -/
inductive IsEscape : Text → Char → Prop
  | letter {e c : Char} (he : escaped? e = some c) : IsEscape [e] c
  | number {u : Text} {c : Char} (hu : IsNumbered u c) : IsEscape ('u' :: u) c

theorem isTrailing_of_isLeading {n : Nat} (h : isLeading n = true) : isTrailing n = false := by
  simp only [isLeading, isTrailing, Bool.and_eq_true, decide_eq_true_eq, Bool.and_eq_false_imp,
    decide_eq_false_iff_not] at h ⊢
  omega

theorem gives_readUnit_iff {n : Nat} :
    Gives (readUnit s) n r ↔ ∃ u, IsUnit u n ∧ s = u ++ r := by
  constructor
  · intro h
    unfold readUnit at h
    split at h
    · split at h
      · next ha hb hc hd =>
        obtain ⟨rfl, rfl⟩ := gives_ok_iff.1 h
        exact ⟨_, .mk ha hb hc hd, rfl⟩
      · exact absurd h not_gives_error
    · split at h
      · exact absurd h not_gives_error
      · exact absurd h not_gives_error
  · rintro ⟨_, ⟨ha, hb, hc, hd⟩, rfl⟩
    simp only [List.cons_append, List.nil_append, readUnit, ha, hb, hc, hd]
    exact gives_ok_iff.2 ⟨rfl, rfl⟩

theorem gives_readSecondHalf_iff {high : Nat} {c : Char} :
    Gives (readSecondHalf high s) c r ↔ ∃ w low, IsUnit w low ∧ isTrailing low = true
      ∧ s = '\\' :: 'u' :: (w ++ r) ∧ pairChar high low = c := by
  constructor
  · intro h
    unfold readSecondHalf at h
    split at h
    · exact absurd h not_gives_error
    · exact absurd h not_gives_error
    · split at h
      · exact absurd h not_gives_error
      · next t u hu =>
        obtain ⟨low, q, hq⟩ := u
        obtain ⟨w, hw, rfl⟩ := gives_readUnit_iff.1 ⟨hq, hu⟩
        split at h
        · next hlow =>
          obtain ⟨hc, rfl⟩ := gives_ok_iff.1 h
          exact ⟨w, low, hw, hlow, rfl, hc⟩
        · exact absurd h not_gives_error
    · exact absurd h not_gives_error
    · exact absurd h not_gives_error
  · rintro ⟨w, low, hw, hlow, rfl, hc⟩
    obtain ⟨_, hunit⟩ : Gives (readUnit (w ++ r)) low r := gives_readUnit_iff.2 ⟨w, hw, rfl⟩
    simp only [readSecondHalf, hunit, hlow, if_true]
    exact gives_ok_iff.2 ⟨hc, rfl⟩

theorem gives_readNumbered_iff {c : Char} :
    Gives (readNumbered s) c r ↔ ∃ u, IsNumbered u c ∧ s = u ++ r := by
  constructor
  · intro h
    unfold readNumbered at h
    split at h
    · exact absurd h not_gives_error
    · next t ht =>
      obtain ⟨n, q, hq⟩ := t
      obtain ⟨u, hu, rfl⟩ := gives_readUnit_iff.1 ⟨hq, ht⟩
      split at h
      · exact absurd h not_gives_error
      · next htrail =>
        split at h
        · next hlead =>
          obtain ⟨w, low, hw, hlow, rfl, rfl⟩ :=
            gives_readSecondHalf_iff.1 (gives_widen_iff.1 h)
          exact ⟨_, .pair hu hlead hw hlow, by rw [List.append_assoc]; rfl⟩
        · next hlead =>
          obtain ⟨rfl, rfl⟩ := gives_ok_iff.1 h
          exact ⟨u, .unit hu (Bool.eq_false_iff.2 hlead) (Bool.eq_false_iff.2 htrail), rfl⟩
  · rintro ⟨u, hu, rfl⟩
    cases hu with
    | @unit _ n hu hlead htrail =>
      obtain ⟨_, hunit⟩ : Gives (readUnit (u ++ r)) n r := gives_readUnit_iff.2 ⟨u, hu, rfl⟩
      simp only [readNumbered, hunit, hlead, htrail, Bool.false_eq_true, if_false]
      exact gives_ok_iff.2 ⟨rfl, rfl⟩
    | @pair u w high low hu hhigh hw hlow =>
      obtain ⟨_, hunit⟩ : Gives (readUnit ((u ++ '\\' :: 'u' :: w) ++ r)) high
          ('\\' :: 'u' :: (w ++ r)) :=
        gives_readUnit_iff.2 ⟨u, hu, by rw [List.append_assoc]; rfl⟩
      simp only [readNumbered, hunit, isTrailing_of_isLeading hhigh, hhigh, Bool.false_eq_true,
        if_false, if_true]
      exact gives_widen_iff.2 (gives_readSecondHalf_iff.2 ⟨w, low, hw, hlow, rfl, rfl⟩)

theorem gives_readEscape_iff {c : Char} :
    Gives (readEscape s) c r ↔ ∃ e, IsEscape e c ∧ s = e ++ r := by
  constructor
  · intro h
    unfold readEscape at h
    split at h
    · exact absurd h not_gives_error
    · next e t =>
      split at h
      · next x he =>
        obtain ⟨rfl, rfl⟩ := gives_ok_iff.1 h
        exact ⟨[e], .letter he, rfl⟩
      · split at h
        · next hu =>
          subst hu
          obtain ⟨u, hu, rfl⟩ := gives_readNumbered_iff.1 (gives_widen_iff.1 h)
          exact ⟨'u' :: u, .number hu, rfl⟩
        · exact absurd h not_gives_error
  · rintro ⟨_, he, rfl⟩
    cases he with
    | letter he =>
      simp only [List.singleton_append, readEscape, he]
      exact gives_ok_iff.2 ⟨rfl, rfl⟩
    | @number u c hu =>
      have hnone : escaped? 'u' = none := rfl
      simp only [List.cons_append, readEscape, hnone, if_true]
      exact gives_widen_iff.2 (gives_readNumbered_iff.2 ⟨u, hu, rfl⟩)

/-! ## strings -/

/-- `Spells w x`: between quotes, `w` stands for the text `x` -/
inductive Spells : Text → Text → Prop
  | done : Spells [] []
  | plain {c : Char} {w x : Text} (hc : isPlain c = true) (h : Spells w x) :
      Spells (c :: w) (c :: x)
  | escape {e w x : Text} {c : Char} (he : IsEscape e c) (h : Spells w x) :
      Spells ('\\' :: (e ++ w)) (c :: x)

/-- what may stand between quotes where the text is not asked for -/
inductive IsBody : Text → Prop
  | done : IsBody []
  | plain {c : Char} {w : Text} (hc : isPlain c = true) (h : IsBody w) : IsBody (c :: w)
  | letter {e c : Char} {w : Text} (he : escaped? e = some c) (h : IsBody w) :
      IsBody ('\\' :: e :: w)
  | unit {u w : Text} {n : Nat} (hu : IsUnit u n) (h : IsBody w) :
      IsBody ('\\' :: 'u' :: (u ++ w))

def quoted (w : Text) : Text := '"' :: (w ++ ['"'])

theorem quoted_append (w r : Text) : quoted w ++ r = '"' :: (w ++ '"' :: r) := by
  rw [quoted, List.cons_append, List.append_assoc]
  rfl

/-- a written string and the text that it stands for -/
def Denotes (v x : Text) : Prop := ∃ w, v = quoted w ∧ Spells w x

/-- a text without characters that need an escape stands for itself -/
theorem Spells.of_plain {w : Text} (hw : w.all isPlain = true) : Spells w w := by
  induction w with
  | nil => exact .done
  | cons c w ih =>
    rw [List.all_cons, Bool.and_eq_true] at hw
    exact .plain hw.1 (ih hw.2)

theorem Spells.isBody {w x : Text} (h : Spells w x) : IsBody w := by
  induction h with
  | done => exact .done
  | plain hc _ ih => exact .plain hc ih
  | @escape e w x c he _ ih =>
    cases he with
    | letter he => exact .letter he ih
    | number hu =>
      cases hu with
      | unit hu _ _ => exact .unit hu ih
      | pair hu _ hw _ =>
        rw [List.cons_append, List.append_assoc]
        exact .unit hu (.unit hw ih)

theorem gives_readString_iff {x : Text} :
    Gives (readString s) x r ↔ ∃ w, Spells w x ∧ s = w ++ '"' :: r := by
  constructor
  · -- an escape takes more than one character, so the induction is on the length
    intro h
    induction hn : s.length using Nat.strongRecOn generalizing s x with
    | _ n ih =>
      cases s with
      | nil =>
        rw [readString] at h
        exact absurd h not_gives_error
      | cons c s =>
        rw [readString] at h
        split at h
        · next hc =>
          obtain ⟨rfl, rfl⟩ := gives_ok_iff.1 h
          exact ⟨[], .done, by rw [hc]; rfl⟩
        · next hquote =>
          split at h
          · next hslash =>
            split at h
            · exact absurd h not_gives_error
            · next t ht =>
              obtain ⟨e, he, hs⟩ := gives_readEscape_iff.1 ⟨t.shorter, ht⟩
              obtain ⟨x, hx, rfl⟩ := gives_map_widen_iff.1 h
              obtain ⟨w, hw, hrest⟩ :=
                ih _ (by have := t.shorter; rw [← hn, List.length_cons]; omega) hx rfl
              exact ⟨'\\' :: (e ++ w), .escape he hw, by
                rw [hslash, hs, hrest, List.cons_append, List.append_assoc]⟩
          · next hslash =>
            split at h
            · exact absurd h not_gives_error
            · next hcontrol =>
              obtain ⟨x, hx, rfl⟩ := gives_map_widen_iff.1 h
              obtain ⟨w, hw, rfl⟩ := ih _ (by rw [← hn, List.length_cons]; omega) hx rfl
              exact ⟨c :: w, .plain ((isPlain_iff c).2 ⟨hquote, hslash, hcontrol⟩) hw, rfl⟩
  · rintro ⟨w, hw, rfl⟩
    induction hw with
    | done =>
      rw [List.nil_append, readString, if_pos rfl]
      exact gives_ok_iff.2 ⟨rfl, rfl⟩
    | @plain c w x hc _ ih =>
      obtain ⟨hquote, hslash, hcontrol⟩ := (isPlain_iff c).1 hc
      rw [List.cons_append, readString, if_neg hquote, if_neg hslash, if_neg hcontrol]
      exact gives_map_widen_iff.2 ⟨x, ih, rfl⟩
    | @escape e w x c he _ ih =>
      have hquote : '\\' ≠ '"' := by decide
      obtain ⟨_, hread⟩ : Gives (readEscape (e ++ (w ++ '"' :: r))) c (w ++ '"' :: r) :=
        gives_readEscape_iff.2 ⟨e, he, rfl⟩
      rw [List.cons_append, List.append_assoc, readString, if_neg hquote, if_pos rfl]
      simp only [hread]
      exact gives_map_widen_iff.2 ⟨x, ih, rfl⟩

theorem gives_skipString {w : Text} (h : IsBody w) (r : Text) :
    Gives (skipString (w ++ '"' :: r)) () r := by
  have hquote : '\\' ≠ '"' := by decide
  induction h with
  | done =>
    rw [List.nil_append, skipString, if_pos rfl]
    exact gives_ok_iff.2 ⟨rfl, rfl⟩
  | @plain c w hc _ ih =>
    obtain ⟨hquote, hslash, hcontrol⟩ := (isPlain_iff c).1 hc
    rw [List.cons_append, skipString, if_neg hquote, if_neg hslash, if_neg hcontrol]
    exact gives_widen_iff.2 ih
  | @letter e c w he _ ih =>
    rw [List.cons_append, List.cons_append, skipString, if_neg hquote, if_pos rfl]
    simp only [skipEscape, he]
    exact gives_widen_iff.2 ih
  | @unit u w n hu _ ih =>
    have hnone : escaped? 'u' = none := rfl
    obtain ⟨_, hunit⟩ : Gives (readUnit (u ++ (w ++ '"' :: r))) n (w ++ '"' :: r) :=
      gives_readUnit_iff.2 ⟨u, hu, rfl⟩
    rw [List.cons_append, List.cons_append, List.append_assoc, skipString, if_neg hquote,
      if_pos rfl]
    simp only [skipEscape, hnone, if_true, hunit]
    exact gives_widen_iff.2 ih

/-- a string that is read can be passed over as well -/
theorem gives_skipString_of_readString {x : Text} (h : Gives (readString s) x r) :
    Gives (skipString s) () r := by
  obtain ⟨w, hw, rfl⟩ := gives_readString_iff.1 h
  exact gives_skipString hw.isBody r

end Workbench.Json
