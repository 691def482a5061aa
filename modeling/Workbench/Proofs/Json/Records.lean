import Workbench.Proofs.Json.Typed

/-!
# Records

What a record makes of an object, member by member (`ReadsObject`): a key, which is behind a comma
unless it is the first, a colon, and a value, which the member of that name reads or which is passed
over.  A record takes what passing over its place takes (`agrees_record`), if its members do; that
holds of the object and of the list that may stand in its place.
-/

namespace Workbench.Json

variable {α β : Type} {members : List (Member α)} {seen : List String} {first : Bool}
  {a a' : α} {k q r s t : Text}

/-! ## members -/

/-- the member of a name -/
def member? (members : List (Member α)) (k : Text) : Option (Member α) :=
  members.find? fun m => m.name.toList == k

theorem member?_eq_none_iff : member? members k = none ↔ ∀ m ∈ members, m.name.toList ≠ k := by
  simp only [member?, List.find?_eq_none, beq_iff_eq, ne_eq]

theorem mem_of_member? {m : Member α} (h : member? members k = some m) : m ∈ members :=
  List.mem_of_find?_eq_some h

theorem name_of_member? {m : Member α} (h : member? members k = some m) :
    m.name.toList = k := by
  rw [member?] at h
  have hname := List.find?_some h
  exact eq_of_beq hname

theorem gives_of_iff {name : String} {read : Reader β} {set : α → β → α} :
    Gives ((Member.of name read set).read a s) a' r ↔ ∃ b, Gives (read s) b r ∧ set a b = a' :=
  gives_map_iff

/-! ## the next key -/

/-- the next key of an object, if there is one, and what is left behind it -/
inductive NextKey : Bool → Text → Option Text → Text → Prop
  | close {first : Bool} {s r : Text} (h : Next s '\x7d' r) : NextKey first s none r
  | first {s q k r : Text} (hquote : Next s '"' q) (hread : Gives (readString q) k r) :
      NextKey true s (some k) r
  | next {s p q k r : Text} (hcomma : Next s ',' p) (hquote : Next p '"' q)
      (hread : Gives (readString q) k r) : NextKey false s (some k) r

theorem gives_nextKey_iff {o : Option Text} :
    Gives (nextKey first s) o r ↔ NextKey first s o r := by
  refine gives_next_iff.trans ?_
  constructor
  · rintro ⟨c, q, hnext, h⟩
    split at h
    · next hc =>
      obtain ⟨rfl, rfl⟩ := gives_ok_iff.1 h
      exact .close (hc ▸ hnext)
    split at h
    · next hfirst =>
      subst hfirst
      split at h
      · next hc =>
        obtain ⟨k, hk, rfl⟩ := gives_map_widen_iff.1 h
        exact .first (hc ▸ hnext) hk
      · exact absurd h not_gives_error
    · next hfirst =>
      obtain rfl := Bool.eq_false_iff.2 hfirst
      split at h
      · next hc =>
        obtain ⟨d, p, hquote, h⟩ := gives_next_iff.1 h
        split at h
        · next hd =>
          obtain ⟨k, hk, rfl⟩ := gives_map_widen_iff.1 h
          exact .next (hc ▸ hnext) (hd ▸ hquote) hk
        · split at h
          · exact absurd h not_gives_error
          · exact absurd h not_gives_error
      · exact absurd h not_gives_error
  · intro h
    cases h with
    | close h => exact ⟨'\x7d', r, h, gives_ok_iff.2 ⟨rfl, rfl⟩⟩
    | @first _ q k _ hquote hread =>
      refine ⟨'"', q, hquote, ?_⟩
      simp only [Char.reduceEq, if_true, if_false]
      exact gives_map_widen_iff.2 ⟨k, hread, rfl⟩
    | @next _ p q k _ hcomma hquote hread =>
      refine ⟨',', p, hcomma, ?_⟩
      simp only [Char.reduceEq, Bool.false_eq_true, if_true, if_false]
      apply gives_next_iff.2
      exact ⟨'"', q, hquote, gives_map_widen_iff.2 ⟨k, hread, rfl⟩⟩

/-! ## objects -/

/-- The members of an object are read, from a value of the record to another. -/
inductive ReadsObject (members : List (Member α)) :
    List String → Bool → α → Text → α → Text → Prop
  | close {seen : List String} {first : Bool} {a : α} {s r : Text}
      (h : NextKey first s none r) : ReadsObject members seen first a s a r
  | unknown {seen : List String} {first : Bool} {a a' : α} {s k q t u r : Text}
      (hkey : NextKey first s (some k) q) (hcolon : Next q ':' t) (hm : member? members k = none)
      (hskip : Gives (skipValue t) () u) (h : ReadsObject members seen false a u a' r) :
      ReadsObject members seen first a s a' r
  | known {seen : List String} {first : Bool} {a a₁ a' : α} {s k q t u r : Text} {m : Member α}
      (hkey : NextKey first s (some k) q) (hcolon : Next q ':' t) (hm : member? members k = some m)
      (hseen : m.name ∉ seen) (hread : Gives (m.read a t) a₁ u)
      (h : ReadsObject members (m.name :: seen) false a₁ u a' r) :
      ReadsObject members seen first a s a' r

theorem gives_objectMembers_iff : Gives (objectMembers members seen first a s) a' r
    ↔ ReadsObject members seen first a s a' r := by
  constructor
  · intro h
    induction hn : s.length using Nat.strongRecOn generalizing s seen first a with
    | _ n ih =>
      rw [objectMembers] at h
      split at h
      · exact absurd h not_gives_error
      · next q hq hkey =>
        obtain ⟨rfl, rfl⟩ := gives_ok_iff.1 h
        exact .close (gives_nextKey_iff.1 ⟨hq, hkey⟩)
      · next k q hq hkey =>
        have hkey := gives_nextKey_iff.1 ⟨hq, hkey⟩
        split at h
        · next hm =>
          split at h
          · exact absurd h not_gives_error
          · next t hcolon =>
            split at h
            · exact absurd h not_gives_error
            · next u hu =>
              have ht := t.shorter
              have hlt := u.shorter
              exact .unknown hkey (gives_colon_iff.1 ⟨ht, hcolon⟩) hm ⟨hlt, hu⟩
                (ih _ (by omega) (gives_widen_iff.1 h) rfl)
        · next m hm =>
          split at h
          · exact absurd h not_gives_error
          · next hseen =>
            split at h
            · exact absurd h not_gives_error
            · next t hcolon =>
              split at h
              · exact absurd h not_gives_error
              · next u hu =>
                have ht := t.shorter
                have hlt := u.shorter
                exact .known hkey (gives_colon_iff.1 ⟨ht, hcolon⟩) hm hseen ⟨hlt, hu⟩
                  (ih _ (by omega) (gives_widen_iff.1 h) rfl)
  · intro h
    induction h with
    | close h =>
      obtain ⟨_, hkey⟩ := gives_nextKey_iff.2 h
      rw [objectMembers, hkey]
      exact gives_ok_iff.2 ⟨rfl, rfl⟩
    | unknown hkey hcolon hm hskip _ ih =>
      obtain ⟨_, hkey⟩ := gives_nextKey_iff.2 hkey
      obtain ⟨_, hcolon⟩ := gives_colon_iff.2 hcolon
      obtain ⟨_, hskip⟩ := hskip
      rw [member?] at hm
      rw [objectMembers, hkey]
      simp only [hm, hcolon, hskip]
      exact gives_widen_iff.2 ih
    | known hkey hcolon hm hseen hread _ ih =>
      obtain ⟨_, hkey⟩ := gives_nextKey_iff.2 hkey
      obtain ⟨_, hcolon⟩ := gives_colon_iff.2 hcolon
      obtain ⟨_, hread⟩ := hread
      rw [member?] at hm
      rw [objectMembers, hkey]
      simp only [hm, if_neg hseen, hcolon, hread]
      exact gives_widen_iff.2 ih

/-- a key and its value are passed over, and then what is behind them -/
theorem NextKey.inside {u : Text} (hkey : NextKey first s (some k) q) (hcolon : Next q ':' t)
    (hskip : Gives (skipValue t) () u) (h : Inside .object [] false u r) :
    Inside .object [] first s r := by
  have hbehind := gives_skipFrames_of_skipValue hskip (gives_leaveFrames_cons_iff.2 h)
  cases hkey with
  | first hquote hread =>
    have hpasses : Frame.object.Passes s t :=
      gives_skipKey_iff.2 ⟨_, q, hquote, gives_skipString_of_readString hread, hcolon⟩
    exact .first hquote (by decide) hpasses hbehind
  | @next _ p _ _ _ hcomma hquote hread =>
    have hpasses : Frame.object.Passes p t :=
      gives_skipKey_iff.2 ⟨_, q, hquote, gives_skipString_of_readString hread, hcolon⟩
    exact .next hcomma hpasses hbehind

theorem ReadsObject.inside (hms : ∀ m ∈ members, ∀ a, Agrees (m.read a))
    (h : ReadsObject members seen first a s a' r) : Inside .object [] first s r := by
  induction h with
  | close h =>
    cases h with
    | close hclose => exact .close hclose (gives_leaveFrames_nil_iff.2 rfl)
  | unknown hkey hcolon _ hskip _ ih => exact hkey.inside hcolon hskip ih
  | known hkey hcolon hm _ hread _ ih =>
    exact hkey.inside hcolon (hms _ (mem_of_member? hm) _ hread) ih

/-! ## lists in the place of objects -/

/-- the next element of a list, if there is one, and the text in front of it or behind the list -/
inductive NextElement : Bool → Text → Bool → Text → Prop
  | close {first : Bool} {s r : Text} (h : Next s ']' r) : NextElement first s false r
  | first {s r : Text} {c : Char} (h : Next s c r) (hc : c ≠ ']') : NextElement true s true (c :: r)
  | next {s p r : Text} {c : Char} (hcomma : Next s ',' p) (h : Next p c r) :
      NextElement false s true (c :: r)

theorem nextElement_of_gives {b : Bool} (h : Gives (nextElement first s) b r) :
    NextElement first s b r := by
  obtain ⟨c, q, hnext, htaken⟩ := gives_next_iff.1 h
  split at htaken
  · next hc =>
    obtain ⟨rfl, rfl⟩ := gives_ok_iff.1 htaken
    exact .close (hc ▸ hnext)
  split at htaken
  · next hc hfirst =>
    obtain ⟨rfl, rfl⟩ := gives_ok_iff.1 htaken
    exact hfirst ▸ .first hnext hc
  split at htaken
  · next hfirst hc =>
    obtain rfl := Bool.eq_false_iff.2 hfirst
    obtain ⟨d, p, hbehind, hbracket⟩ := gives_next_iff.1 htaken
    split at hbracket
    · exact absurd hbracket not_gives_error
    · obtain ⟨rfl, rfl⟩ := gives_ok_iff.1 hbracket
      exact .next (hc ▸ hnext) hbehind
  · exact absurd htaken not_gives_error

theorem next_of_gives_closeList (h : Gives (closeList s) () r) : Next s ']' r := by
  obtain ⟨c, q, hnext, htaken⟩ := gives_next_iff.1 h
  split at htaken
  · next hc =>
    obtain ⟨-, rfl⟩ := gives_ok_iff.1 htaken
    exact hc ▸ hnext
  split at htaken
  · split at htaken
    · exact absurd htaken not_gives_error
    · exact absurd htaken not_gives_error
  · exact absurd htaken not_gives_error

theorem NextElement.inside (helement : NextElement first s true q)
    (hskip : Gives (skipValue q) () t) (h : Inside .list [] false t r) :
    Inside .list [] first s r := by
  have hbehind {p : Text} (hp : Gives (skipValue p) () t) : Gives (skipFrames [.list] p) () r :=
    gives_skipFrames_of_skipValue hp (gives_leaveFrames_cons_iff.2 h)
  cases helement with
  | first hnext hc =>
    exact .first hnext hc rfl (hbehind (gives_skipValue_of_next hnext hskip))
  | next hcomma hnext =>
    exact .next hcomma rfl (hbehind (gives_skipValue_of_next hnext hskip))

theorem inside_of_gives_listMembers (hms : ∀ m ∈ members, ∀ a, Agrees (m.read a))
    (h : Gives (listMembers members first a s) a' r) : Inside .list [] first s r := by
  have hleave : Gives (leaveFrames [] r) () r := gives_leaveFrames_nil_iff.2 rfl
  induction members generalizing first a s with
  | nil =>
    rw [listMembers] at h
    obtain ⟨_, hclose, -⟩ := gives_map_iff.1 h
    exact .close (next_of_gives_closeList hclose) hleave
  | cons m ms ih =>
    rw [listMembers] at h
    split at h
    · exact absurd h not_gives_error
    · next q hq helement =>
      obtain ⟨-, rfl⟩ := gives_ok_iff.1 h
      cases nextElement_of_gives ⟨hq, helement⟩ with
      | close hclose => exact .close hclose hleave
    · next q hq helement =>
      split at h
      · exact absurd h not_gives_error
      · next b hb =>
        have hskip := hms m List.mem_cons_self a ⟨b.shorter, hb⟩
        exact (nextElement_of_gives ⟨hq, helement⟩).inside hskip
          (ih (fun m hm => hms m (List.mem_cons_of_mem _ hm)) (gives_widen_iff.1 h))

/-! ## records -/

theorem gives_record_iff {expected : String} : Gives (record expected members a s) a' r
    ↔ (∃ q, Next s '\x7b' q ∧ ReadsObject members [] true a q a' r)
      ∨ ∃ q, Next s '[' q ∧ Gives (listMembers members true a q) a' r := by
  refine gives_next_iff.trans ?_
  constructor
  · rintro ⟨c, q, hnext, h⟩
    split at h
    · next hc => exact .inl ⟨q, hc ▸ hnext, gives_objectMembers_iff.1 (gives_widen_iff.1 h)⟩
    split at h
    · next hc => exact .inr ⟨q, hc ▸ hnext, gives_widen_iff.1 h⟩
    · exact absurd h not_gives_error
  · rintro (⟨q, hnext, h⟩ | ⟨q, hnext, h⟩)
    · exact ⟨'\x7b', q, hnext, gives_widen_iff.2 (gives_objectMembers_iff.2 h)⟩
    · exact ⟨'[', q, hnext, gives_widen_iff.2 h⟩

theorem agrees_record {expected : String} (hms : ∀ m ∈ members, ∀ a, Agrees (m.read a)) (a : α) :
    Agrees (record expected members a) := by
  intro s r a' h
  rcases gives_record_iff.1 h with ⟨q, hnext, hobject⟩ | ⟨q, hnext, hlist⟩
  · have hopen : Next s Frame.object.open q := hnext
    exact gives_skipValue_of_frame hopen (hobject.inside hms)
  · have hopen : Next s Frame.list.open q := hnext
    exact gives_skipValue_of_frame hopen (inside_of_gives_listMembers hms hlist)

theorem agrees_of {name : String} {read : Reader β} {set : α → β → α} (hread : Agrees read)
    (a : α) : Agrees ((Member.of name read set).read a) := by
  intro s r a' h
  obtain ⟨b, hb, -⟩ := gives_of_iff.1 h
  exact hread hb

end Workbench.Json
