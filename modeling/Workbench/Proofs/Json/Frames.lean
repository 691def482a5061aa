import Workbench.Json.Skip
import Workbench.Proofs.Json.Steps

/-!
# Passing over values, step by step

A value that is not asked for is passed over with a list of the lists and objects that are still
open.  What stands where a value is expected (`Opens`) is passed over at once or opens one more;
inside a list or an object comes its closing bracket or its next item (`Inside`).  The lists and
objects that are around a value do not matter for it: it is passed over by itself, and then what is
left of them (`gives_append_frames`).
-/

namespace Workbench.Json

variable {n : Nat} {q r s t : Text}

/-! ## passing over keys -/

theorem gives_skipKey_iff : Gives (skipKey s) () t
    ↔ ∃ q r, Next s '"' q ∧ Gives (skipString q) () r ∧ Next r ':' t := by
  refine gives_next_iff.trans ?_
  constructor
  · rintro ⟨c, q, hquote, h⟩
    split at h
    · next hc =>
      split at h
      · exact absurd h not_gives_error
      · next u hu =>
        split at h
        · exact absurd h not_gives_error
        · next d r hr hcolon =>
          split at h
          · next hd =>
            obtain ⟨-, rfl⟩ := gives_ok_iff.1 h
            exact ⟨q, u.rest, hc ▸ hquote, ⟨u.shorter, hu⟩, hd ▸ next_of_next? hcolon⟩
          · exact absurd h not_gives_error
    · exact absurd h not_gives_error
  · rintro ⟨q, r, hquote, ⟨_, hstring⟩, hcolon⟩
    obtain ⟨_, hcolon⟩ := hcolon.next?
    refine ⟨'"', q, hquote, ?_⟩
    simp only [if_true, hstring, hcolon]
    exact gives_ok_iff.2 ⟨rfl, rfl⟩

/-- what has to stand in front of a value of a frame is passed over -/
def Frame.Passes (s t : Text) : Frame → Prop
  | .list => s = t
  | .object => Gives (Json.skipKey s) () t

theorem Frame.Passes.length_le {f : Frame} (h : f.Passes s t) : t.length ≤ s.length := by
  cases f with
  | list => exact Nat.le_of_eq (congrArg List.length (Eq.symm h))
  | object => exact Nat.le_of_lt (Gives.shorter h)

theorem gives_frame_skipKey_iff {f : Frame} {hs : s.length < n} :
    Gives (f.skipKey s hs) () t ↔ f.Passes s t := by
  cases f with
  | list => rw [Frame.skipKey, gives_ok_iff, eq_self, true_and, Frame.Passes]
  | object => rw [Frame.skipKey, gives_widen_iff, Frame.Passes]

/-! ## openings -/

/-- the bracket that opens a list or an object -/
def Frame.open : Frame → Char
  | .list => '['
  | .object => '\x7b'

/-- what a character and the text behind it open, and what is left behind that -/
inductive Opens : Char → Text → Opening → Text → Prop
  | null (r : Text) : Opens 'n' ("ull".toList ++ r) .single r
  | yes (r : Text) : Opens 't' ("rue".toList ++ r) .single r
  | no (r : Text) : Opens 'f' ("alse".toList ++ r) .single r
  | negative {q r : Text} (h : Gives (skipNumber q) () r) : Opens '-' q .single r
  | natural {c : Char} {q r : Text} (hc : isDigit c = true)
      (h : Gives (skipNumber (c :: q)) () r) : Opens c q .single r
  | string {q r : Text} (h : Gives (skipString q) () r) : Opens '"' q .single r
  | frame (f : Frame) (q : Text) : Opens f.open q (.frame f) q

theorem gives_skipOpening_iff {o : Opening} :
    Gives (skipOpening s) o r ↔ ∃ c q, Next s c q ∧ Opens c q o r := by
  refine gives_next_iff.trans ?_
  constructor
  · rintro ⟨c, q, hnext, h⟩
    refine ⟨c, q, hnext, ?_⟩
    dsimp only at h
    split at h
    · next hc =>
      subst hc
      obtain ⟨_, hword, rfl⟩ := gives_map_widen_iff.1 h
      exact gives_readWord_iff.1 hword ▸ .null r
    split at h
    · next hc =>
      subst hc
      obtain ⟨_, hword, rfl⟩ := gives_map_widen_iff.1 h
      exact gives_readWord_iff.1 hword ▸ .yes r
    split at h
    · next hc =>
      subst hc
      obtain ⟨_, hword, rfl⟩ := gives_map_widen_iff.1 h
      exact gives_readWord_iff.1 hword ▸ .no r
    split at h
    · next hc =>
      subst hc
      obtain ⟨_, hnumber, rfl⟩ := gives_map_widen_iff.1 h
      exact .negative (gives_widen_iff.1 hnumber)
    split at h
    · next hc =>
      obtain ⟨_, hnumber, rfl⟩ := gives_map_widen_iff.1 h
      exact .natural hc (gives_widen_iff.1 hnumber)
    split at h
    · next hc =>
      subst hc
      obtain ⟨_, hstring, rfl⟩ := gives_map_widen_iff.1 h
      exact .string (gives_widen_iff.1 hstring)
    split at h
    · next hc =>
      subst hc
      obtain ⟨rfl, rfl⟩ := gives_ok_iff.1 h
      exact .frame .list q
    split at h
    · next hc =>
      subst hc
      obtain ⟨rfl, rfl⟩ := gives_ok_iff.1 h
      exact .frame .object q
    · exact absurd h not_gives_error
  · rintro ⟨c, q, hnext, hopens⟩
    refine ⟨c, q, hnext, ?_⟩
    cases hopens with
    | null | yes | no =>
      simp only [Char.reduceEq, if_true, if_false]
      exact gives_map_widen_iff.2 ⟨(), gives_readWord_iff.2 rfl, rfl⟩
    | negative h | string h =>
      simp only [Char.reduceEq, if_true, if_false]
      exact gives_map_widen_iff.2 ⟨(), gives_widen_iff.2 h, rfl⟩
    | natural hc h =>
      have hword : c ≠ 'n' ∧ c ≠ 't' ∧ c ≠ 'f' ∧ c ≠ '-' := by
        refine ⟨?_, ?_, ?_, ?_⟩ <;> rintro rfl <;> exact absurd hc (by decide)
      simp only [hword, hc, if_true, if_false]
      exact gives_map_widen_iff.2 ⟨(), gives_widen_iff.2 h, rfl⟩
    | frame f =>
      cases f with
      | list | object => exact gives_ok_iff.2 ⟨rfl, rfl⟩

/-! ## frames -/

/-- what is inside a frame is passed over, from in front of the first item or from behind an item,
and so is what is left of the frames around it -/
inductive Inside (f : Frame) (outer : List Frame) : Bool → Text → Text → Prop
  | close {first : Bool} {s q r : Text} (hclose : Next s f.close q)
      (h : Gives (leaveFrames outer q) () r) : Inside f outer first s r
  | first {c : Char} {s q t r : Text} (hnext : Next s c q) (hc : c ≠ f.close) (hkey : f.Passes s t)
      (h : Gives (skipFrames (f :: outer) t) () r) : Inside f outer true s r
  | next {s q t r : Text} (hcomma : Next s ',' q) (hkey : f.Passes q t)
      (h : Gives (skipFrames (f :: outer) t) () r) : Inside f outer false s r

theorem gives_leaveFrames_nil_iff : Gives (leaveFrames [] s) () r ↔ s = r := by
  rw [leaveFrames, gives_ok_iff, eq_self, true_and]

theorem gives_leaveFrames_cons_iff {f : Frame} {outer : List Frame} :
    Gives (leaveFrames (f :: outer) s) () r ↔ Inside f outer false s r := by
  have hcomma : ',' ≠ f.close := by cases f <;> decide
  rw [leaveFrames]
  refine gives_next_iff.trans ?_
  constructor
  · rintro ⟨c, q, hnext, h⟩
    split at h
    · next hc =>
      split at h
      · exact absurd h not_gives_error
      · next t ht =>
        exact .next (hc ▸ hnext) (gives_frame_skipKey_iff.1 ⟨t.shorter, ht⟩) (gives_widen_iff.1 h)
    · split at h
      · next hc => exact .close (hc ▸ hnext) (gives_widen_iff.1 h)
      · exact absurd h not_gives_error
  · intro h
    cases h with
    | @close _ _ q _ hclose h =>
      refine ⟨f.close, q, hclose, ?_⟩
      rw [if_neg hcomma.symm, if_pos rfl]
      exact gives_widen_iff.2 h
    | @next _ q t _ hnext hkey h =>
      obtain ⟨_, hkey⟩ : Gives (f.skipKey q hnext.shorter) () t := gives_frame_skipKey_iff.2 hkey
      refine ⟨',', q, hnext, ?_⟩
      simp only [if_true, hkey]
      exact gives_widen_iff.2 h

theorem gives_skipFrames_iff {frames : List Frame} : Gives (skipFrames frames s) () r
    ↔ (∃ q, Gives (skipOpening s) .single q ∧ Gives (leaveFrames frames q) () r)
      ∨ ∃ f q, Gives (skipOpening s) (.frame f) q ∧ Inside f frames true q r := by
  constructor
  · intro h
    rw [skipFrames] at h
    split at h
    · exact absurd h not_gives_error
    · next q hq hopening => exact .inl ⟨q, ⟨hq, hopening⟩, gives_widen_iff.1 h⟩
    · next f q hq hopening =>
      refine .inr ⟨f, q, ⟨hq, hopening⟩, ?_⟩
      obtain ⟨c, p, hnext, h⟩ := gives_next_iff.1 h
      split at h
      · next hc => exact .close (hc ▸ hnext) (gives_widen_iff.1 h)
      · next hc =>
        split at h
        · exact absurd h not_gives_error
        · next t ht =>
          exact .first hnext hc (gives_frame_skipKey_iff.1 ⟨t.shorter, ht⟩) (gives_widen_iff.1 h)
  · rintro (⟨q, ⟨hq, hopening⟩, h⟩ | ⟨f, q, ⟨hq, hopening⟩, h⟩)
    · rw [skipFrames, hopening]
      exact gives_widen_iff.2 h
    · rw [skipFrames, hopening]
      apply gives_next_iff.2
      cases h with
      | @close _ _ p _ hclose h =>
        refine ⟨f.close, p, hclose, ?_⟩
        rw [if_pos rfl]
        exact gives_widen_iff.2 h
      | @first c _ p t _ hnext hc hkey h =>
        obtain ⟨_, hkey⟩ : Gives (f.skipKey q hq) () t := gives_frame_skipKey_iff.2 hkey
        refine ⟨c, p, hnext, ?_⟩
        simp only [if_neg hc, hkey]
        exact gives_widen_iff.2 h

/-! ## frames around frames -/

/-- What is passed over inside some frames is passed over in the same way inside more of them. -/
theorem gives_append_frames {frames : List Frame} (hleave : Gives (leaveFrames frames r) () q) :
    ∀ (n : Nat) (s : Text) (fs : List Frame), s.length = n →
      (Gives (skipFrames fs s) () r → Gives (skipFrames (fs ++ frames) s) () q)
        ∧ (Gives (leaveFrames fs s) () r → Gives (leaveFrames (fs ++ frames) s) () q) := by
  -- both go on with less of the text, so the induction is on its length, for all frames at once
  intro n
  induction n using Nat.strongRecOn with
  | _ n ih =>
    intro s fs hn
    have inside {f : Frame} {first : Bool} {t : Text} (fs : List Frame)
        (ht : t.length < n ∨ first = false ∧ t.length = n) (h : Inside f fs first t r) :
        Inside f (fs ++ frames) first t q := by
      cases h with
      | @close _ _ p _ hclose h =>
        have hp := hclose.shorter
        exact .close hclose ((ih p.length (by omega) p fs rfl).2 h)
      | @first c _ p u _ hnext hc hkey h =>
        have hu := hkey.length_le
        have ht : t.length < n := ht.resolve_right fun h => absurd h.1 (by decide)
        exact .first hnext hc hkey ((ih u.length (by omega) u (f :: fs) rfl).1 h)
      | @next _ p u _ hcomma hkey h =>
        have hp := hcomma.shorter
        have hu := hkey.length_le
        exact .next hcomma hkey ((ih u.length (by omega) u (f :: fs) rfl).1 h)
    constructor
    · intro h
      rw [gives_skipFrames_iff] at h ⊢
      rcases h with ⟨p, hopening, h⟩ | ⟨f, p, hopening, h⟩
      · have hp := hopening.shorter
        exact .inl ⟨p, hopening, (ih p.length (by omega) p fs rfl).2 h⟩
      · have hp := hopening.shorter
        exact .inr ⟨f, p, hopening, inside fs (.inl (by omega)) h⟩
    · intro h
      cases fs with
      | nil =>
        obtain rfl := gives_leaveFrames_nil_iff.1 h
        exact hleave
      | cons f fs =>
        rw [List.cons_append, gives_leaveFrames_cons_iff]
        exact inside fs (.inr ⟨rfl, hn⟩) (gives_leaveFrames_cons_iff.1 h)

/-- a value is passed over, and then what is left of the frames around it -/
theorem gives_skipFrames_of_skipValue {frames : List Frame} (h : Gives (skipValue s) () r)
    (hleave : Gives (leaveFrames frames r) () q) : Gives (skipFrames frames s) () q :=
  (gives_append_frames hleave s.length s [] rfl).1 h

/-- only the next character and what is behind it matter -/
theorem gives_skipValue_of_next {c : Char} (h : Next s c q)
    (hskip : Gives (skipValue (c :: q)) () r) : Gives (skipValue s) () r := by
  have hopening {o : Opening} {p : Text} (ho : Gives (skipOpening (c :: q)) o p) :
      Gives (skipOpening s) o p := by
    obtain ⟨d, p', hnext, hopens⟩ := gives_skipOpening_iff.1 ho
    obtain ⟨rfl, rfl⟩ := hnext.unique (Next.of_cons h.not_blank q)
    exact gives_skipOpening_iff.2 ⟨d, p', h, hopens⟩
  refine gives_skipFrames_iff.2 ((gives_skipFrames_iff.1 hskip).imp ?_ ?_)
  · rintro ⟨p, ho, hleave⟩
    exact ⟨p, hopening ho, hleave⟩
  · rintro ⟨f, p, ho, hinside⟩
    exact ⟨f, p, hopening ho, hinside⟩

end Workbench.Json
