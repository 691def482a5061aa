import Mathlib.Data.List.Pairwise
import Workbench.Proofs.Json.Records

/-!
# Named members

What a record makes of an object as it is written.  Its entries act on the record one after the
other (`Applies`), in any order and with any others between them; reading the object takes its whole
text and nothing behind it.  A field of the record (`Field`) is what the value under its name says,
or what it was before if there is none (`Applies.field`).
-/

namespace Workbench.Json

variable {α β : Type} {members : List (Member α)} {seen : List String} {first : Bool}
  {a a' : α} {e : Entry} {es : List Entry} {q r s t v : Text} {name : String}

/-! ## values under a name -/

/-- the values under a name, in their order -/
def valuesOf (name : String) (es : List Entry) : List Text :=
  (es.filter fun e => e.1 == name.toList).map (·.2)

theorem valuesOf_cons_self (h : e.1 = name.toList) (es : List Entry) :
    valuesOf name (e :: es) = e.2 :: valuesOf name es := by
  rw [valuesOf, List.filter_cons_of_pos (by rw [h]; exact beq_self_eq_true _), List.map_cons,
    valuesOf]

theorem valuesOf_cons_of_ne (h : e.1 ≠ name.toList) (es : List Entry) :
    valuesOf name (e :: es) = valuesOf name es := by
  rw [valuesOf, List.filter_cons_of_neg (by rwa [beq_iff_eq]), valuesOf]

theorem mem_valuesOf (he : e ∈ es) (h : e.1 = name.toList) : e.2 ∈ valuesOf name es :=
  List.mem_map.2 ⟨e, List.mem_filter.2 ⟨he, beq_iff_eq.2 h⟩, rfl⟩

theorem exists_of_mem_valuesOf (h : v ∈ valuesOf name es) : ∃ e ∈ es, e.2 = v := by
  obtain ⟨e, he, hv⟩ := List.mem_map.1 h
  exact ⟨e, (List.mem_filter.1 he).1, hv⟩

/-- The entries have at most one value under the name; it is of the given type. -/
inductive Names (IsA : Text → β → Prop) (name : String) (es : List Entry) : Option β → Prop
  | missing (h : valuesOf name es = []) : Names IsA name es none
  | given {v : Text} {b : β} (h : valuesOf name es = [v]) (hv : IsA v b) :
      Names IsA name es (some b)

namespace Names

variable {IsA : Text → β → Prop} {o : Option β}

theorem of_cons_ne (hne : e.1 ≠ name.toList) (h : Names IsA name (e :: es) o) :
    Names IsA name es o := by
  cases h with
  | missing h => exact .missing (valuesOf_cons_of_ne hne es ▸ h)
  | given h hv => exact .given (valuesOf_cons_of_ne hne es ▸ h) hv

theorem of_cons_self (heq : e.1 = name.toList) (h : Names IsA name (e :: es) o) :
    ∃ b, o = some b ∧ IsA e.2 b ∧ Names IsA name es none := by
  cases h with
  | missing h =>
    rw [valuesOf_cons_self heq] at h
    cases h
  | @given v b h hv =>
    rw [valuesOf_cons_self heq, List.cons.injEq] at h
    obtain ⟨rfl, hrest⟩ := h
    exact ⟨b, rfl, hv, .missing hrest⟩

theorem of_nil (h : Names IsA name [] o) : o = none := by
  cases h with
  | missing => rfl
  | given h => cases h

theorem length_le (h : Names IsA name es o) : (valuesOf name es).length ≤ 1 := by
  cases h with
  | missing h => rw [h]; exact Nat.zero_le 1
  | given h => rw [h]; exact Nat.le_refl 1

theorem map {γ : Type} {IsB : Text → γ → Prop} {f : β → γ} (hf : ∀ {v b}, IsA v b → IsB v (f b))
    (h : Names IsA name es o) : Names IsB name es (o.map f) := by
  cases h with
  | missing h => exact .missing h
  | given h hv => exact .given h (hf hv)

end Names

/-- a member reads every value under its name, of which there is at most one -/
structure Member.Suits (m : Member α) (es : List Entry) : Prop where
  once : (valuesOf m.name es).length ≤ 1
  reads : ∀ v ∈ valuesOf m.name es, ∀ a s r, IsBlanks s →
    ∃ a', Gives (m.read a (s ++ (v ++ r))) a' r

theorem Names.suits {IsA : Text → β → Prop} {o : Option β} {read : Reader β} {set : α → β → α}
    (hread : ReadsAs read IsA) (h : Names IsA name es o) : (Member.of name read set).Suits es where
  once := h.length_le
  reads := by
    intro v hv a s r hs
    cases h with
    | missing h =>
      rw [Member.of, h] at hv
      cases hv
    | @given u b h hu =>
      rw [Member.of, h, List.mem_singleton] at hv
      subst hv
      exact ⟨set a b, gives_of_iff.2 ⟨b, hread hu hs r, rfl⟩⟩

/-! ## names that are not repeated -/

/-- no name of a member is repeated, nor one that was seen before -/
def Unrepeated (members : List (Member α)) (seen : List String) (es : List Entry) : Prop :=
  ∀ m ∈ members, (valuesOf m.name es).length ≤ if m.name ∈ seen then 0 else 1

namespace Unrepeated

theorem cons_unknown_iff (hm : member? members e.1 = none) :
    Unrepeated members seen (e :: es) ↔ Unrepeated members seen es := by
  refine forall₂_congr fun m hmem => ?_
  rw [valuesOf_cons_of_ne (Ne.symm (member?_eq_none_iff.1 hm m hmem))]

theorem cons_known_iff {m : Member α} (hm : member? members e.1 = some m) :
    Unrepeated members seen (e :: es)
      ↔ m.name ∉ seen ∧ Unrepeated members (m.name :: seen) es := by
  have hname := name_of_member? hm
  constructor
  · intro h
    have hown := h m (mem_of_member? hm)
    rw [valuesOf_cons_self hname.symm, List.length_cons] at hown
    have hseen : m.name ∉ seen := by
      intro hseen
      rw [if_pos hseen] at hown
      exact Nat.not_succ_le_zero _ hown
    refine ⟨hseen, fun n hn => ?_⟩
    by_cases hnm : n.name = m.name
    · rw [if_neg hseen] at hown
      rw [hnm, if_pos List.mem_cons_self]
      exact Nat.le_of_succ_le_succ hown
    · have hother := h n hn
      rw [valuesOf_cons_of_ne (fun he => hnm (String.toList_inj.1 (he ▸ hname).symm))] at hother
      simpa only [List.mem_cons, hnm, false_or] using hother
  · rintro ⟨hseen, h⟩ n hn
    have hbehind := h n hn
    by_cases hnm : n.name = m.name
    · rw [hnm, if_pos List.mem_cons_self] at hbehind
      rw [hnm, valuesOf_cons_self hname.symm, if_neg hseen, List.length_cons]
      exact Nat.succ_le_succ hbehind
    · rw [valuesOf_cons_of_ne (fun he => hnm (String.toList_inj.1 (he ▸ hname).symm))]
      simpa only [List.mem_cons, hnm, false_or] using hbehind

end Unrepeated

/-! ## entries that act on a record -/

/-- Entries act on a record one after the other. -/
inductive Applies (members : List (Member α)) : List String → List Entry → α → α → Prop
  | done {seen : List String} {a : α} : Applies members seen [] a a
  | unknown {seen : List String} {e : Entry} {es : List Entry} {a a' : α}
      (hm : member? members e.1 = none) (h : Applies members seen es a a') :
      Applies members seen (e :: es) a a'
  | known {seen : List String} {e : Entry} {es : List Entry} {a a₁ a' : α} {m : Member α}
      (hm : member? members e.1 = some m) (hseen : m.name ∉ seen) (hread : Takes (m.read a) e.2 a₁)
      (h : Applies members (m.name :: seen) es a₁ a') : Applies members seen (e :: es) a a'

theorem Applies.unrepeated (h : Applies members seen es a a') : Unrepeated members seen es := by
  induction h with
  | done => exact fun _ _ => Nat.zero_le _
  | unknown hm _ ih => exact (Unrepeated.cons_unknown_iff hm).2 ih
  | known hm hseen _ _ ih => exact (Unrepeated.cons_known_iff hm).2 ⟨hseen, ih⟩

theorem Applies.length_le (h : Applies members [] es a a') (hname : name ∈ members.map (·.name)) :
    (valuesOf name es).length ≤ 1 := by
  obtain ⟨m, hm, rfl⟩ := List.mem_map.1 hname
  exact h.unrepeated m hm

/-- a member serves a field: it reads it, if it has its name, and keeps it if not -/
def Member.Serves (m : Member α) (name : String) (read : Reader β) (get : α → β) : Prop :=
  (m.name = name → ∀ {a s a' r}, Gives (m.read a s) a' r → Gives (read s) (get a') r)
    ∧ (m.name ≠ name → ∀ {a s a' r}, Gives (m.read a s) a' r → get a' = get a)

theorem Member.Serves.own {read : Reader β} {set : α → β → α} {get : α → β}
    (hget : ∀ a b, get (set a b) = b) : (Member.of name read set).Serves name read get := by
  refine ⟨fun _ _ _ _ _ h => ?_, fun hne => absurd rfl hne⟩
  obtain ⟨b, hb, rfl⟩ := gives_of_iff.1 h
  rw [hget]
  exact hb

theorem Member.Serves.other {γ : Type} {n : String} {read : Reader β} {read' : Reader γ}
    {set : α → γ → α} {get : α → β} (hne : n ≠ name) (hget : ∀ a b, get (set a b) = get a) :
    (Member.of n read' set).Serves name read get := by
  refine ⟨fun heq => absurd heq hne, fun _ _ _ _ _ h => ?_⟩
  obtain ⟨b, -, rfl⟩ := gives_of_iff.1 h
  exact hget _ b

/-- a part of a record that a member sets, and from which what was set can be had again -/
structure Slot (α : Type) where
  {β : Type}
  name : String
  read : Reader β
  get : α → β
  set : α → β → α
  get_set : ∀ a b, get (set a b) = b

def Slot.member (p : Slot α) : Member α := .of p.name p.read p.set

/-- two parts with different names, neither of which is changed when the other is set -/
@[mk_iff]
structure Slot.Apart (p q : Slot α) : Prop where
  name_ne : p.name ≠ q.name
  get_set : ∀ a b, p.get (q.set a b) = p.get a
  get_set' : ∀ a b, q.get (p.set a b) = q.get a

instance : Std.Symm (@Slot.Apart α) where
  symm _ _ h := ⟨h.name_ne.symm, h.get_set', h.get_set⟩

/-- a field of a record that is named by one of its members -/
structure Field (members : List (Member α)) (name : String) (read : Reader β) (get : α → β) :
    Prop where
  named : name ∈ members.map (·.name)
  serves : ∀ m ∈ members, m.Serves name read get

/-- where the parts of a record are apart, each of them is a field -/
theorem Field.of_slots {slots : List (Slot α)} (h : slots.Pairwise Slot.Apart) (k : Nat)
    (hk : k < slots.length) :
    Field (slots.map Slot.member) slots[k].name slots[k].read slots[k].get := by
  have hmem : slots[k] ∈ slots := List.getElem_mem hk
  refine ⟨?_, fun m hm => ?_⟩
  · rw [List.map_map]
    exact List.mem_map_of_mem hmem
  · obtain ⟨q, hq, rfl⟩ := List.mem_map.1 hm
    by_cases heq : slots[k] = q
    · rw [← heq]
      exact .own slots[k].get_set
    · have hapart := h.forall hmem hq heq
      exact .other hapart.name_ne.symm hapart.get_set

namespace Field

variable {read : Reader β} {get : α → β} (hfield : Field members name read get)
include hfield

theorem ne_of_unknown (hm : member? members e.1 = none) : e.1 ≠ name.toList := by
  obtain ⟨m, hmem, rfl⟩ := List.mem_map.1 hfield.named
  exact Ne.symm (member?_eq_none_iff.1 hm m hmem)

theorem takes {m : Member α} (hm : member? members e.1 = some m) (heq : e.1 = name.toList)
    (h : Takes (m.read a) v a') : Takes read v (get a') := by
  obtain ⟨s, r, hs, hread⟩ := h
  have hname : m.name = name := String.toList_inj.1 ((name_of_member? hm).trans heq)
  exact ⟨s, r, hs, (hfield.serves m (mem_of_member? hm)).1 hname hread⟩

theorem keeps {m : Member α} (hm : member? members e.1 = some m) (hne : e.1 ≠ name.toList)
    (h : Takes (m.read a) v a') : get a' = get a := by
  obtain ⟨_, _, _, hread⟩ := h
  have hname : m.name ≠ name := by
    rintro rfl
    exact hne (name_of_member? hm).symm
  exact (hfield.serves m (mem_of_member? hm)).2 hname hread

end Field

namespace Applies

variable {read : Reader β} {get : α → β}

/-- a field is what the value under its name says, or else what it was -/
theorem field {IsA : Text → β → Prop} {o : Option β} (h : Applies members seen es a a')
    (hfield : Field members name read get) (hread : ReadsAs read IsA)
    (hnames : Names IsA name es o) : get a' = o.getD (get a) := by
  induction h generalizing o with
  | done =>
    rw [hnames.of_nil]
    rfl
  | unknown hm _ ih => exact ih (hnames.of_cons_ne (hfield.ne_of_unknown hm))
  | @known seen e es a a₁ a' m hm hseen htakes _ ih =>
    by_cases heq : e.1 = name.toList
    · obtain ⟨b, rfl, hb, hrest⟩ := hnames.of_cons_self heq
      rw [ih hrest]
      exact hread.eq_of_takes hb (hfield.takes hm heq htakes)
    · rw [ih (hnames.of_cons_ne heq), hfield.keeps hm heq htakes]

/-- every value under the name of a field was read -/
theorem exists_takes (h : Applies members seen es a a') (hfield : Field members name read get)
    (hv : v ∈ valuesOf name es) : ∃ b, Takes read v b := by
  induction h with
  | done => cases hv
  | unknown hm _ ih =>
    rw [valuesOf_cons_of_ne (hfield.ne_of_unknown hm)] at hv
    exact ih hv
  | @known seen e es a a₁ a' m hm hseen htakes _ ih =>
    by_cases heq : e.1 = name.toList
    · rw [valuesOf_cons_self heq, List.mem_cons] at hv
      rcases hv with rfl | hv
      · exact ⟨get a₁, hfield.takes hm heq htakes⟩
      · exact ih hv
    · rw [valuesOf_cons_of_ne heq] at hv
      exact ih hv

end Applies

/-! ## objects as they are written -/

/-- The key of an entry is the next one, and behind its colon comes the value. -/
theorem IsEntry.nextKey {l : Text} (hl : Lead first l) (h : IsEntry e s) (r : Text) :
    ∃ q b, IsBlanks b ∧ NextKey first (l ++ (s ++ r)) (some e.1) q
      ∧ Next q ':' (b ++ (e.2 ++ r)) := by
  obtain @⟨w, k, b, b', v, hw, hb, hb'⟩ := h
  have hs : quoted w ++ (b ++ ':' :: (b' ++ v)) ++ r
      = '"' :: (w ++ '"' :: (b ++ ':' :: (b' ++ (v ++ r)))) := by
    simp only [quoted, List.append_assoc, List.cons_append, List.nil_append]
  have hread : Gives (readString (w ++ '"' :: (b ++ ':' :: (b' ++ (v ++ r))))) k
      (b ++ ':' :: (b' ++ (v ++ r))) := gives_readString_iff.2 ⟨w, hw, rfl⟩
  have hcolon := Next.of_blanks hb (by decide : isBlank ':' = false) (b' ++ (v ++ r))
  rw [hs]
  refine ⟨_, b', hb', ?_, hcolon⟩
  cases hl with
  | first hl => exact .first (Next.of_blanks hl (by decide) _) hread
  | next hl hl' =>
    rw [List.append_assoc, List.cons_append]
    exact .next (Next.of_blanks hl (by decide) _) (Next.of_blanks hl' (by decide) _) hread

theorem NextKey.unique {o o' : Option Text} {r' : Text} (h : NextKey first s o r)
    (h' : NextKey first s o' r') : o = o' ∧ r = r' :=
  Gives.unique (gives_nextKey_iff.2 h) (gives_nextKey_iff.2 h')

section
variable (hvalues : ∀ e ∈ es, IsValue e.2) (hlisted : Listed '\x7d' IsEntry first es t)
include hvalues hlisted

/-- Entries that suit the members are read. -/
theorem exists_readsObject (hsuits : ∀ m ∈ members, m.Suits es)
    (honce : Unrepeated members seen es) (a : α) (r : Text) :
    ∃ a', ReadsObject members seen first a (t ++ r) a' r := by
  have hfits : ∀ e ∈ es, ∀ m, member? members e.1 = some m → ∀ a s r, IsBlanks s →
      ∃ a', Gives (m.read a (s ++ (e.2 ++ r))) a' r := by
    intro e he m hm
    exact (hsuits m (mem_of_member? hm)).reads e.2 (mem_valuesOf he (name_of_member? hm).symm)
  clear hsuits
  induction hlisted generalizing seen a with
  | close hb =>
    rw [List.append_assoc]
    exact ⟨a, .close (.close (Next.of_blanks hb (by decide) r))⟩
  | @item first e es l s t hl he hlisted ih =>
    obtain ⟨q, b, hb, hkey, hcolon⟩ := he.nextKey hl (t ++ r)
    have htail : ∀ e ∈ es, IsValue e.2 := fun e he => hvalues e (List.mem_cons_of_mem _ he)
    rw [List.append_assoc, List.append_assoc]
    cases hm : member? members e.1 with
    | none =>
      have hskip := (hvalues e List.mem_cons_self).gives_skipValue b (t ++ r) hb
        (hlisted.followsValue (by decide) r)
      obtain ⟨a', ha'⟩ := ih htail ((Unrepeated.cons_unknown_iff hm).1 honce) a
        fun e he => hfits e (List.mem_cons_of_mem _ he)
      exact ⟨a', .unknown hkey hcolon hm hskip ha'⟩
    | some m =>
      obtain ⟨hseen, hrest⟩ := (Unrepeated.cons_known_iff hm).1 honce
      obtain ⟨a₁, hread⟩ := hfits e List.mem_cons_self m hm a b (t ++ r) hb
      obtain ⟨a', ha'⟩ := ih htail hrest a₁ fun e he => hfits e (List.mem_cons_of_mem _ he)
      exact ⟨a', .known hkey hcolon hm hseen hread ha'⟩

/-- What is read of entries is what they do to the record, and all of them are taken. -/
theorem ReadsObject.applies (hms : ∀ m ∈ members, ∀ a, Agrees (m.read a))
    (h : ReadsObject members seen first a (t ++ r) a' q) :
    q = r ∧ Applies members seen es a a' := by
  induction hlisted generalizing seen a with
  | @close first b hb =>
    have hclose : NextKey first (b ++ ['\x7d'] ++ r) none r := by
      rw [List.append_assoc]
      exact .close (Next.of_blanks hb (by decide) r)
    cases h with
    | close h => exact ⟨(h.unique hclose).2, .done⟩
    | unknown hkey | known hkey => cases (hkey.unique hclose).1
  | @item first e es l s t hl he hlisted ih =>
    obtain ⟨p, b, hb, hkey, hcolon⟩ := he.nextKey hl (t ++ r)
    have hskip := (hvalues e List.mem_cons_self).gives_skipValue b (t ++ r) hb
      (hlisted.followsValue (by decide) r)
    have htail : ∀ e ∈ es, IsValue e.2 := fun e he => hvalues e (List.mem_cons_of_mem _ he)
    rw [List.append_assoc, List.append_assoc] at h
    cases h with
    | close h => cases (h.unique hkey).1
    | unknown hkey' hcolon' hm hskip' h =>
      obtain ⟨hk, rfl⟩ := hkey'.unique hkey
      obtain rfl := Option.some.inj hk
      obtain ⟨-, rfl⟩ := hcolon'.unique hcolon
      obtain ⟨-, rfl⟩ := hskip'.unique hskip
      obtain ⟨hq, happlies⟩ := ih htail h
      exact ⟨hq, .unknown hm happlies⟩
    | @known _ _ _ a₁ _ _ _ _ _ u _ m hkey' hcolon' hm hseen hread h =>
      obtain ⟨hk, rfl⟩ := hkey'.unique hkey
      obtain rfl := Option.some.inj hk
      obtain ⟨-, rfl⟩ := hcolon'.unique hcolon
      -- the member took what passing over the value takes, so the value and nothing else
      obtain ⟨-, rfl⟩ := (hms m (mem_of_member? hm) a hread).unique hskip
      obtain ⟨hq, happlies⟩ := ih htail h
      exact ⟨hq, .known hm hseen ⟨b, _, hb, hread⟩ happlies⟩

end

section
variable {expected : String} {b : Text} (hv : IsObject es v) (hb : IsBlanks b)
include hv hb

theorem exists_gives_record (hsuits : ∀ m ∈ members, m.Suits es) (a : α) (r : Text) :
    ∃ a', Gives (record expected members a (b ++ (v ++ r))) a' r := by
  obtain ⟨hvalues, hlisted⟩ := hv
  have honce : Unrepeated members [] es := fun m hm => (hsuits m hm).once
  obtain ⟨a', ha'⟩ := exists_readsObject hvalues hlisted hsuits honce a r
  exact ⟨a', gives_record_iff.2 (.inl ⟨_, Next.of_blanks hb (by decide) _, ha'⟩)⟩

theorem applies_of_gives_record (hms : ∀ m ∈ members, ∀ a, Agrees (m.read a))
    (h : Gives (record expected members a (b ++ (v ++ r))) a' q) :
    q = r ∧ Applies members [] es a a' := by
  cases hv with
  | @mk t hvalues hlisted =>
    have hopen : Next (b ++ ('\x7b' :: t ++ r)) '\x7b' (t ++ r) :=
      Next.of_blanks hb (by decide) _
    rcases gives_record_iff.1 h with ⟨p, hnext, hobject⟩ | ⟨p, hnext, -⟩
    · obtain ⟨-, rfl⟩ := hnext.unique hopen
      exact hobject.applies hvalues hlisted hms
    · cases (hnext.unique hopen).1

end

/-! ## changes -/

/-- an object whose entries name the given changes -/
def IsNaming {γ : Type} (NamedBy : γ → List Entry → Prop) (v : Text) (c : γ) : Prop :=
  ∃ es, IsObject es v ∧ NamedBy c es

/-- the members of a record read the changes that entries name, and make `result` of them -/
structure Changing {γ : Type} (members : List (Member α)) (base : α)
    (NamedBy : γ → List Entry → Prop) (result : γ → α) : Prop where
  agrees : ∀ m ∈ members, ∀ a, Agrees (m.read a)
  suits : ∀ {c es}, NamedBy c es → ∀ m ∈ members, m.Suits es
  eq_result : ∀ {c es a}, NamedBy c es → Applies members [] es base a → a = result c

namespace Changing

variable {γ : Type} {base : α} {NamedBy : γ → List Entry → Prop} {result : γ → α}
  {expected : String} (h : Changing members base NamedBy result)
include h

theorem reads :
    ReadsAs (record expected members base) fun v a => ∃ c, IsNaming NamedBy v c ∧ result c = a := by
  rintro v _ ⟨c, ⟨es, hv, hc⟩, rfl⟩ s hs r
  obtain ⟨a, hread⟩ := exists_gives_record hv hs (h.suits hc) base r
  obtain ⟨-, happlies⟩ := applies_of_gives_record hv hs h.agrees hread
  rwa [h.eq_result hc happlies] at hread

theorem applies_of_takes (hv : IsObject es v) (htakes : Takes (record expected members base) v a) :
    Applies members [] es base a := by
  obtain ⟨s, r, hs, hread⟩ := htakes
  exact (applies_of_gives_record hv hs h.agrees hread).2

end Changing

end Workbench.Json
