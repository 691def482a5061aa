import Workbench.Proofs.Json.Frames
import Workbench.Proofs.Json.Numbers
import Workbench.Proofs.Json.Quoted

/-!
# Written values

The values of JSON as they are written, with blanks wherever these may stand.  Passing over a value
takes exactly its text, whatever follows it (`IsValue.gives_skipValue`).

* `Listed`     the items of a list or an object, with commas between them, and the closing bracket;
* `IsValue`    a value, of which nothing but the form is said;
* `IsObject`   an object with the entries that it has: what their keys stand for, and their values
               as they are written.
-/

namespace Workbench.Json

variable {α : Type} {q r s t v : Text}

/-! ## lists and objects -/

def IsBlanks (b : Text) : Prop := ∀ c ∈ b, isBlank c = true

@[simp] theorem isBlanks_nil : IsBlanks [] := List.forall_mem_nil _

/-- what stands in front of an item: blanks, and a comma if it is not the first -/
inductive Lead : Bool → Text → Prop
  | first {b : Text} (hb : IsBlanks b) : Lead true b
  | next {b b' : Text} (hb : IsBlanks b) (hb' : IsBlanks b') : Lead false (b ++ ',' :: b')

/-- items, behind the opening bracket or behind an item, and the closing bracket -/
inductive Listed (close : Char) (IsItem : α → Text → Prop) : Bool → List α → Text → Prop
  | close {first : Bool} {b : Text} (hb : IsBlanks b) : Listed close IsItem first [] (b ++ [close])
  | item {first : Bool} {a : α} {as : List α} {l s t : Text} (hl : Lead first l) (ha : IsItem a s)
      (h : Listed close IsItem false as t) : Listed close IsItem first (a :: as) (l ++ (s ++ t))

/-- an item of a list is its value; that of an object has a key and a colon in front of it -/
inductive Frame.IsItem : Frame → Text → Text → Prop
  | list {v : Text} : Frame.list.IsItem v v
  | object {w b b' v : Text} (hw : IsBody w) (hb : IsBlanks b) (hb' : IsBlanks b') :
      Frame.object.IsItem v (quoted w ++ (b ++ ':' :: (b' ++ v)))

/-! ## values -/

/-- a value that holds no others -/
inductive IsAtom : Text → Prop
  | null : IsAtom "null".toList
  | yes : IsAtom "true".toList
  | no : IsAtom "false".toList
  | natural {v : Text} (h : IsUnsigned v) : IsAtom v
  | negative {v : Text} (h : IsUnsigned v) : IsAtom ('-' :: v)
  | string {w : Text} (h : IsBody w) : IsAtom (quoted w)

/-- a value as it is written -/
inductive IsValue : Text → Prop
  | atom {v : Text} (h : IsAtom v) : IsValue v
  | frame (f : Frame) {vs : List Text} {t : Text} (hvs : ∀ v ∈ vs, IsValue v)
      (h : Listed f.close f.IsItem true vs t) : IsValue (f.open :: t)

/-- what a key stands for, and the value behind it as it is written -/
abbrev Entry := Text × Text

inductive IsEntry : Entry → Text → Prop
  | mk {w k b b' v : Text} (hw : Spells w k) (hb : IsBlanks b) (hb' : IsBlanks b') :
      IsEntry (k, v) (quoted w ++ (b ++ ':' :: (b' ++ v)))

/-- an object with the given entries, in their order -/
inductive IsObject (es : List Entry) : Text → Prop
  | mk {t : Text} (hvalues : ∀ e ∈ es, IsValue e.2) (h : Listed '\x7d' IsEntry true es t) :
      IsObject es ('\x7b' :: t)

/-! ## what may follow a value -/

/-- what may stand behind a value: a blank, a comma or a closing bracket -/
def FollowsValue (r : Text) : Prop :=
  ∀ c ∈ r.head?, isBlank c = true ∨ c ∈ [',', ']', '\x7d']

@[simp] theorem followsValue_nil : FollowsValue [] := by
  intro c hc
  cases hc

theorem FollowsValue.endsNumber (h : FollowsValue r) : EndsNumber r := by
  intro c hc
  rcases h c hc with hblank | hmark
  · simp only [isBlank, Bool.or_eq_true, decide_eq_true_eq] at hblank
    rcases hblank with ((rfl | rfl) | rfl) | rfl <;> decide
  · simp only [List.mem_cons, List.not_mem_nil, or_false] at hmark
    rcases hmark with rfl | rfl | rfl <;> decide

theorem followsValue_blanks_append {b : Text} {c : Char} (hb : IsBlanks b)
    (hc : c ∈ [',', ']', '\x7d']) (r : Text) : FollowsValue (b ++ c :: r) := by
  intro d hd
  cases b with
  | nil =>
    cases hd
    exact .inr hc
  | cons e b =>
    cases hd
    exact .inl (hb _ List.mem_cons_self)

theorem Listed.followsValue {close : Char} {IsItem : α → Text → Prop} {as : List α}
    (hclose : close ∈ [']', '\x7d']) (h : Listed close IsItem false as t) (r : Text) :
    FollowsValue (t ++ r) := by
  cases h with
  | close hb =>
    rw [List.append_assoc]
    exact followsValue_blanks_append hb (List.mem_cons_of_mem _ hclose) r
  | item hl _ _ =>
    cases hl with
    | next hb _ =>
      rw [List.append_assoc, List.append_assoc]
      exact followsValue_blanks_append hb List.mem_cons_self _

/-! ## how a value begins -/

theorem IsUnsigned.front (h : IsUnsigned v) : ∃ c u, v = c :: u ∧ isDigit c = true := by
  obtain ⟨hwhole, _, _⟩ := h
  cases hwhole with
  | zero => exact ⟨'0', _, rfl, rfl⟩
  | digits hc _ _ => exact ⟨_, _, rfl, hc⟩

/-- what an atom opens is single -/
theorem IsAtom.opens (h : IsAtom v) (hr : FollowsValue r) :
    ∃ c u, v = c :: u ∧ Opens c (u ++ r) .single r := by
  cases h with
  | null => exact ⟨'n', _, rfl, .null r⟩
  | yes => exact ⟨'t', _, rfl, .yes r⟩
  | no => exact ⟨'f', _, rfl, .no r⟩
  | natural h =>
    obtain ⟨c, u, rfl, hc⟩ := h.front
    exact ⟨c, u, rfl, .natural hc (gives_skipNumber h hr.endsNumber)⟩
  | negative h => exact ⟨'-', _, rfl, .negative (gives_skipNumber h hr.endsNumber)⟩
  | @string w h =>
    refine ⟨'"', w ++ ['"'], rfl, .string ?_⟩
    rw [List.append_assoc]
    exact gives_skipString h r

theorem Opens.front {c : Char} {o : Opening} (h : Opens c q o r) :
    isBlank c = false ∧ c ≠ ',' ∧ c ≠ ']' ∧ c ≠ '\x7d' := by
  cases h with
  | null | yes | no | negative | string => decide
  | natural hc =>
    refine ⟨?_, ?_, ?_, ?_⟩
    · rw [Bool.eq_false_iff]
      intro hblank
      simp only [isBlank, Bool.or_eq_true, decide_eq_true_eq] at hblank
      rcases hblank with ((rfl | rfl) | rfl) | rfl <;> exact absurd hc (by decide)
    all_goals rintro rfl; exact absurd hc (by decide)
  | frame f => cases f <;> decide

theorem IsValue.front (h : IsValue v) : ∃ c u, v = c :: u ∧ isBlank c = false
    ∧ c ≠ ',' ∧ c ≠ ']' ∧ c ≠ '\x7d' := by
  cases h with
  | atom h =>
    obtain ⟨c, u, rfl, hopens⟩ := h.opens followsValue_nil
    exact ⟨c, u, rfl, hopens.front⟩
  | frame f _ _ => exact ⟨f.open, _, rfl, (Opens.frame f []).front⟩

namespace Frame.IsItem

variable {f : Frame}

theorem front (h : f.IsItem v s) (hv : IsValue v) :
    ∃ c u, s = c :: u ∧ isBlank c = false ∧ c ≠ f.close := by
  cases h with
  | list =>
    obtain ⟨c, u, rfl, hblank, -, hclose, -⟩ := hv.front
    exact ⟨c, u, rfl, hblank, hclose⟩
  | object => exact ⟨'"', _, rfl, rfl, by decide⟩

/-- passing over what stands in front of the value of an item leaves the value -/
theorem passes {b : Text} (h : f.IsItem v s) (hb : IsBlanks b) (r : Text) :
    ∃ b', IsBlanks b' ∧ f.Passes (b ++ (s ++ r)) (b' ++ (v ++ r)) := by
  cases h with
  | list => exact ⟨b, hb, rfl⟩
  | @object w b₁ b₂ _ hw hb₁ hb₂ =>
    have hs : quoted w ++ (b₁ ++ ':' :: (b₂ ++ v)) ++ r
        = '"' :: (w ++ '"' :: (b₁ ++ ':' :: (b₂ ++ (v ++ r)))) := by
      simp only [quoted, List.append_assoc, List.cons_append, List.nil_append]
    rw [hs]
    exact ⟨b₂, hb₂, gives_skipKey_iff.2 ⟨_, _, Next.of_blanks hb rfl _,
      gives_skipString hw _, Next.of_blanks hb₁ rfl _⟩⟩

end Frame.IsItem

/-! ## values are passed over -/

/-- items of a list or an object are passed over, if their values are -/
theorem Listed.inside {f : Frame} {outer : List Frame} {first : Bool} {vs : List Text}
    (h : Listed f.close f.IsItem first vs t) (hvs : ∀ v ∈ vs, IsValue v)
    (hskip : ∀ v ∈ vs, ∀ b rest, IsBlanks b → FollowsValue rest →
      Gives (skipValue (b ++ (v ++ rest))) () rest)
    (hleave : Gives (leaveFrames outer r) () q) : Inside f outer first (t ++ r) q := by
  have hclose : f.close ∈ [']', '\x7d'] ∧ isBlank f.close = false := by
    cases f <;> decide
  induction h with
  | close hb =>
    rw [List.append_assoc]
    exact .close (Next.of_blanks hb hclose.2 r) hleave
  | @item first v vs l s t hl hitem h ih =>
    have hv := hvs v List.mem_cons_self
    have hbehind : Gives (leaveFrames (f :: outer) (t ++ r)) () q :=
      gives_leaveFrames_cons_iff.2 (ih (fun v hv => hvs v (List.mem_cons_of_mem _ hv))
        fun v hv => hskip v (List.mem_cons_of_mem _ hv))
    have hvalue {b : Text} (hb : IsBlanks b) :
        Gives (skipFrames (f :: outer) (b ++ (v ++ (t ++ r)))) () q :=
      gives_skipFrames_of_skipValue
        (hskip v List.mem_cons_self b _ hb (h.followsValue hclose.1 r)) hbehind
    cases hl with
    | first hb =>
      obtain ⟨c, u, hs, hblank, hc⟩ := hitem.front hv
      obtain ⟨b', hb', hpasses⟩ := hitem.passes hb (t ++ r)
      have hnext : Next (l ++ (s ++ (t ++ r))) c (u ++ (t ++ r)) := by
        rw [hs]
        exact Next.of_blanks hb hblank _
      rw [List.append_assoc, List.append_assoc]
      exact .first hnext hc hpasses (hvalue hb')
    | next hb hb₁ =>
      obtain ⟨b', hb', hpasses⟩ := hitem.passes hb₁ (t ++ r)
      rw [List.append_assoc, List.append_assoc, List.append_assoc, List.cons_append]
      exact .next (Next.of_blanks hb rfl _) hpasses (hvalue hb')

/-- A value is passed over, with the blanks in front of it and nothing behind it. -/
theorem IsValue.gives_skipValue (h : IsValue v) :
    ∀ b rest, IsBlanks b → FollowsValue rest → Gives (skipValue (b ++ (v ++ rest))) () rest := by
  induction h with
  | atom h =>
    intro b rest hb hrest
    obtain ⟨c, u, rfl, hopens⟩ := h.opens hrest
    refine gives_skipFrames_iff.2 (.inl ⟨rest, ?_, gives_leaveFrames_nil_iff.2 rfl⟩)
    exact gives_skipOpening_iff.2 ⟨c, _, Next.of_blanks hb hopens.front.1 _, hopens⟩
  | @frame f vs t hvs h ih =>
    intro b rest hb _
    refine gives_skipFrames_iff.2 (.inr ⟨f, t ++ rest, ?_, ?_⟩)
    · have hopens := Opens.frame f (t ++ rest)
      exact gives_skipOpening_iff.2 ⟨f.open, _, Next.of_blanks hb hopens.front.1 _, hopens⟩
    · exact h.inside hvs ih (gives_leaveFrames_nil_iff.2 rfl)

/-! ## objects -/

theorem IsEntry.isItem {e : Entry} (h : IsEntry e s) : Frame.object.IsItem e.2 s := by
  obtain ⟨hw, hb, hb'⟩ := h
  exact .object hw.isBody hb hb'

theorem Listed.imp {close : Char} {β : Type} {A : α → Text → Prop} {B : β → Text → Prop} {f : α → β}
    (hAB : ∀ {a s}, A a s → B (f a) s) {first : Bool} {as : List α}
    (h : Listed close A first as t) : Listed close B first (as.map f) t := by
  induction h with
  | close hb => exact .close hb
  | item hl ha _ ih => exact .item hl (hAB ha) ih

theorem IsObject.values {es : List Entry} (h : IsObject es v) : ∀ e ∈ es, IsValue e.2 := by
  obtain ⟨hvalues, -⟩ := h
  exact hvalues

theorem IsObject.isValue {es : List Entry} (h : IsObject es v) : IsValue v := by
  obtain ⟨hvalues, h⟩ := h
  refine .frame .object ?_ (h.imp fun h => h.isItem)
  intro v hv
  obtain ⟨e, he, rfl⟩ := List.mem_map.1 hv
  exact hvalues e he

/-! ## objects without blanks -/

def writeEntry (e : Entry) : Text := quoted e.1 ++ ':' :: e.2

/-- the entries behind an entry -/
def writeEntries (es : List Entry) : Text := es.flatMap fun e => ',' :: writeEntry e

def writeObject : List Entry → Text
  | [] => ['\x7b', '\x7d']
  | e :: es => '\x7b' :: (writeEntry e ++ writeEntries es ++ ['\x7d'])

theorem isEntry_write {e : Entry} (hplain : e.1.all isPlain = true) :
    IsEntry e (writeEntry e) := by
  have hentry : IsEntry (e.1, e.2) (quoted e.1 ++ ([] ++ ':' :: ([] ++ e.2))) :=
    .mk (.of_plain hplain) isBlanks_nil isBlanks_nil
  exact hentry

theorem listed_writeEntries {es : List Entry}
    (hplain : (es.all fun e => e.1.all isPlain) = true) :
    Listed '\x7d' IsEntry false es (writeEntries es ++ ['\x7d']) := by
  induction es with
  | nil =>
    show Listed _ _ false _ ([] ++ ['\x7d'])
    exact .close isBlanks_nil
  | cons e es ih =>
    rw [List.all_cons, Bool.and_eq_true] at hplain
    have hlead : Lead false ([] ++ [',']) := .next isBlanks_nil isBlanks_nil
    rw [writeEntries, List.flatMap_cons, List.append_assoc]
    show Listed _ _ false _ ([] ++ [','] ++ (writeEntry e ++ (writeEntries es ++ ['\x7d'])))
    exact .item hlead (isEntry_write hplain.1) (ih hplain.2)

/-- any entries with plain keys can be written as an object -/
theorem isObject_write {es : List Entry} (hplain : (es.all fun e => e.1.all isPlain) = true)
    (hvalues : ∀ e ∈ es, IsValue e.2) : IsObject es (writeObject es) := by
  cases es with
  | nil =>
    have hclose : Listed '\x7d' IsEntry true [] ([] ++ ['\x7d']) := .close isBlanks_nil
    exact .mk hvalues hclose
  | cons e es =>
    rw [List.all_cons, Bool.and_eq_true] at hplain
    have hlead : Lead true [] := .first isBlanks_nil
    have hlisted := Listed.item hlead (isEntry_write hplain.1) (listed_writeEntries hplain.2)
    rw [writeObject, List.append_assoc]
    exact .mk hvalues hlisted

end Workbench.Json
