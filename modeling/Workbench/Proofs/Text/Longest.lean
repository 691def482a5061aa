import Mathlib.Data.List.TakeWhile
import Workbench.Text.Bytes

/-!
# The longest word at the front of a text

`Longest` says of a text that it is the longest of some words at the front of another.  To find it
for words that are made of parts, the parts are read one after the other: `Reads` says that a
function gives the length of the longest part, and which characters can follow a shorter one.  If no
next part begins with such a character, the longest first part leaves the longest whole
(`Reads.append`).

* `reads_allOf`      a run of characters;
* `Reads.behind`     a word behind a character;
* `Reads.or`         the longer of two words.
-/

namespace Workbench.Text

/-! ## words -/

/-- `x` is the longest of the words with which `t` begins -/
structure Longest (word : Text → Prop) (t x : Text) : Prop where
  isWord : word x
  front : x <+: t
  longest : ∀ y, word y → y <+: t → y.length ≤ x.length

/-- `len` is the length of the longest word at the front of a text, and behind a shorter word there
is a character of `more` -/
structure Reads (word : Text → Prop) (more : Char → Prop) (len : Text → Nat) : Prop where
  le (t : Text) : len t ≤ t.length
  word_take (t : Text) : word (t.take (len t))
  length_le {x : Text} (u : Text) (h : word x) : x.length ≤ len (x ++ u)
  goes_on {x u : Text} (h : word x) (hlt : x.length < len (x ++ u)) : ∃ c ∈ u.head?, more c

/-- the words that are a word and then another -/
def Then (word word' : Text → Prop) (x : Text) : Prop := ∃ a b, x = a ++ b ∧ word a ∧ word' b

/-- the words that are a character and then a word -/
def Behind (first : Char → Bool) (word : Text → Prop) (x : Text) : Prop :=
  ∃ c y, x = c :: y ∧ first c = true ∧ word y

/-- the words, and the empty text -/
def Optional (word : Text → Prop) (x : Text) : Prop := x = [] ∨ word x

/-- the texts of such characters -/
def AllOf (p : Char → Bool) (x : Text) : Prop := ∀ c ∈ x, p c = true

instance (p : Char → Bool) (x : Text) : Decidable (AllOf p x) :=
  decidable_of_iff (x.all p = true) List.all_eq_true

/-! ## parts one after the other -/

section
variable {word word' : Text → Prop} {more more' : Char → Prop} {len len' : Text → Nat}

theorem Reads.length_le_of_front (h : Reads word more len) {t y : Text} (hy : word y)
    (hyt : y <+: t) : y.length ≤ len t := by
  obtain ⟨u, rfl⟩ := hyt
  exact h.length_le u hy

/-- that a shorter word is followed by some character holds anyway -/
theorem Reads.of_length_le (hle : ∀ t, len t ≤ t.length) (hword : ∀ t : Text, word (t.take (len t)))
    (hlength : ∀ x u, word x → x.length ≤ len (x ++ u)) : Reads word (fun _ => True) len := by
  refine ⟨hle, hword, fun u hx => hlength _ u hx, ?_⟩
  intro x u _ hlt
  cases u with
  | nil =>
    have := hle (x ++ [])
    rw [List.append_nil] at this hlt
    omega
  | cons c u => exact ⟨c, rfl, trivial⟩

/-- the longest first part, or one that no next part follows -/
theorem Reads.eq_or_eq_nil (h : Reads word more len) (hfirst : ∀ c y, word' (c :: y) → ¬ more c)
    {a b : Text} (ha : word a) (hb : word' b) (u : Text) :
    len (a ++ (b ++ u)) = a.length ∨ b = [] ∧ ∃ c ∈ u.head?, more c := by
  rcases Nat.eq_or_lt_of_le (h.length_le (b ++ u) ha) with heq | hlt
  · exact .inl heq.symm
  · obtain ⟨c, hc, hmore⟩ := h.goes_on ha hlt
    cases b with
    | nil => exact .inr ⟨rfl, c, hc, hmore⟩
    | cons d b =>
      have hdc : d = c := Option.some.inj hc
      exact absurd hmore (hfirst c b (hdc ▸ hb))

/-- parts that are read one after the other -/
theorem Reads.append (h : Reads word more len) (h' : Reads word' more' len')
    (hfirst : ∀ c y, word' (c :: y) → ¬ more c) :
    Reads (Then word word') (fun c => more c ∨ more' c)
      (fun t => len t + len' (t.drop (len t))) := by
  refine ⟨?_, ?_, ?_, ?_⟩
  · intro t
    have := h.le t
    have := h'.le (t.drop (len t))
    rw [List.length_drop] at this
    omega
  · intro t
    exact ⟨_, _, List.take_add, h.word_take t, h'.word_take _⟩
  · rintro x u ⟨a, b, rfl, ha, hb⟩
    have hle := h.length_le (b ++ u) ha
    rw [List.append_assoc, List.length_append]
    rcases h.eq_or_eq_nil hfirst ha hb u with heq | ⟨rfl, -⟩
    · rw [heq, List.drop_left]
      exact Nat.add_le_add_left (h'.length_le u hb) _
    · rw [List.length_nil]
      omega
  · rintro x u ⟨a, b, rfl, ha, hb⟩ hlt
    rw [List.append_assoc, List.length_append] at hlt
    rcases h.eq_or_eq_nil hfirst ha hb u with heq | ⟨rfl, c, hc, hmore⟩
    · rw [heq, List.drop_left] at hlt
      obtain ⟨c, hc, hmore⟩ := h'.goes_on hb (Nat.lt_of_add_lt_add_left hlt)
      exact ⟨c, hc, .inr hmore⟩
    · exact ⟨c, hc, .inl hmore⟩

end

/-! ## runs of characters, and words behind a character -/

/-- how many characters at the front of a text are such characters -/
def runLength (p : Char → Bool) (t : Text) : Nat := (t.takeWhile p).length

theorem reads_allOf (p : Char → Bool) : Reads (AllOf p) (p · = true) (runLength p) := by
  have happend : ∀ {x : Text} (u : Text), AllOf p x →
      runLength p (x ++ u) = x.length + runLength p u := by
    intro x u hx
    rw [runLength, List.takeWhile_append_of_pos hx, List.length_append]
    rfl
  refine ⟨fun t => (List.takeWhile_prefix p).length_le, ?_, ?_, ?_⟩
  · intro t
    rw [runLength, ← List.prefix_iff_eq_take.1 (List.takeWhile_prefix p)]
    exact fun c hc => List.mem_takeWhile_imp hc
  · intro x u hx
    rw [happend u hx]
    exact Nat.le_add_right _ _
  · intro x u hx hlt
    rw [happend u hx] at hlt
    cases u with
    | nil => exact absurd hlt (Nat.lt_irrefl _)
    | cons c u =>
      refine ⟨c, rfl, ?_⟩
      by_contra hc
      rw [runLength, List.takeWhile_cons_of_neg hc] at hlt
      exact Nat.lt_irrefl _ hlt

theorem runLength_cons_of_pos {p : Char → Bool} {c : Char} (hc : p c = true) (t : Text) :
    runLength p (c :: t) = runLength p t + 1 := by
  rw [runLength, List.takeWhile_cons_of_pos hc]
  rfl

theorem runLength_cons_of_neg {p : Char → Bool} {c : Char} (hc : ¬ p c = true) (t : Text) :
    runLength p (c :: t) = 0 := by
  rw [runLength, List.takeWhile_cons_of_neg hc]
  rfl

/-- within a run there is a character of it, and the rest of the run -/
theorem exists_drop_of_lt_runLength {p : Char → Bool} {t : Text} {i : Nat}
    (hi : i < runLength p t) :
    ∃ c ∈ t.takeWhile p, ∃ v, t.drop i = c :: v ∧ i + (runLength p v + 1) = runLength p t := by
  induction i generalizing t with
  | zero =>
    cases t with
    | nil => exact absurd hi (Nat.lt_irrefl 0)
    | cons c t =>
      by_cases hc : p c = true
      · rw [List.takeWhile_cons_of_pos hc]
        exact ⟨c, List.mem_cons_self, t, rfl, by rw [Nat.zero_add, runLength_cons_of_pos hc]⟩
      · rw [runLength_cons_of_neg hc] at hi
        exact absurd hi (Nat.lt_irrefl 0)
  | succ i ih =>
    cases t with
    | nil => exact absurd hi (Nat.not_lt_zero _)
    | cons c t =>
      by_cases hc : p c = true
      · rw [runLength_cons_of_pos hc] at hi ⊢
        rw [List.takeWhile_cons_of_pos hc]
        obtain ⟨d, hd, v, hv, hlen⟩ := ih (Nat.lt_of_succ_lt_succ hi)
        exact ⟨d, List.mem_cons_of_mem c hd, v, hv, by omega⟩
      · rw [runLength_cons_of_neg hc] at hi
        exact absurd hi (Nat.not_lt_zero _)

/-- a run ends where no such character follows -/
theorem head?_drop_runLength {p : Char → Bool} {t : Text} {c : Char}
    (h : (t.drop (runLength p t)).head? = some c) : ¬ p c = true := by
  induction t with
  | nil => cases h
  | cons d t ih =>
    by_cases hd : p d = true
    · rw [runLength_cons_of_pos hd, List.drop_succ_cons] at h
      exact ih h
    · rw [runLength_cons_of_neg hd] at h
      exact Option.some.inj h ▸ hd

/-- the length of a character with the word behind it, which must not be empty -/
def behindLength (first : Char → Bool) (len : Text → Nat) : Text → Nat
  | [] => 0
  | c :: t => if first c = true ∧ len t ≠ 0 then len t + 1 else 0

theorem behindLength_cons {first : Char → Bool} {len : Text → Nat} {c : Char} {t : Text}
    (hc : first c = true) (ht : len t ≠ 0) : behindLength first len (c :: t) = len t + 1 :=
  if_pos ⟨hc, ht⟩

theorem behindLength_eq_zero {first : Char → Bool} {len : Text → Nat} {c : Char} {t : Text}
    (h : first c = true → len t = 0) : behindLength first len (c :: t) = 0 :=
  if_neg fun hc => hc.2 (h hc.1)

section
variable {word word' : Text → Prop} {more more' : Char → Prop} {len len' : Text → Nat}

theorem Reads.take_ne_nil (h : Reads word more len) {t : Text} (ht : len t ≠ 0) :
    t.take (len t) ≠ [] := by
  intro hempty
  have hlen := congrArg List.length hempty
  rw [List.length_take, Nat.min_eq_left (h.le t)] at hlen
  exact ht hlen

theorem Reads.behind (h : Reads (Optional word) more len) (hnil : ¬ word []) (first : Char → Bool) :
    Reads (Optional (Behind first word)) (fun c => first c = true ∨ more c)
      (behindLength first len) := by
  refine ⟨?_, ?_, ?_, ?_⟩
  · intro t
    cases t with
    | nil => exact Nat.le_refl 0
    | cons c t =>
      have := h.le t
      rw [behindLength, List.length_cons]
      split <;> omega
  · intro t
    cases t with
    | nil => exact .inl rfl
    | cons c t =>
      rw [behindLength]
      split
      · next hc =>
        rw [List.take_succ_cons]
        exact .inr ⟨c, _, rfl, hc.1, (h.word_take t).resolve_left (h.take_ne_nil hc.2)⟩
      · exact .inl rfl
  · rintro x u (rfl | ⟨c, y, rfl, hc, hy⟩)
    · exact Nat.zero_le _
    · have hlen := h.length_le u (.inr hy)
      have hpos := List.length_pos_iff.2 fun hy' : y = [] => hnil (hy' ▸ hy)
      rw [List.cons_append, behindLength_cons hc (by omega), List.length_cons]
      omega
  · rintro x u (rfl | ⟨c, y, rfl, hc, hy⟩) hlt
    · cases u with
      | nil => exact absurd hlt (Nat.lt_irrefl 0)
      | cons c u =>
        rw [List.nil_append, behindLength] at hlt
        split at hlt
        · next hc => exact ⟨c, rfl, .inl hc.1⟩
        · exact absurd hlt (Nat.lt_irrefl 0)
    · rw [List.cons_append, behindLength] at hlt
      split at hlt
      · rw [List.length_cons] at hlt
        obtain ⟨d, hd, hmore⟩ := h.goes_on (.inr hy) (Nat.lt_of_succ_lt_succ hlt)
        exact ⟨d, hd, .inr hmore⟩
      · exact absurd hlt (Nat.not_lt_zero _)

/-- the longer of two words -/
theorem Reads.or (h : Reads (Optional word) more len) (h' : Reads (Optional word') more' len') :
    Reads (Optional fun x => word x ∨ word' x) (fun _ => True)
      (fun t => max (len t) (len' t)) := by
  refine .of_length_le (fun t => Nat.max_le.2 ⟨h.le t, h'.le t⟩) ?_ ?_
  · intro t
    rcases Nat.le_total (len t) (len' t) with hle | hle
    · rw [Nat.max_eq_right hle]
      exact (h'.word_take t).imp_right .inr
    · rw [Nat.max_eq_left hle]
      exact (h.word_take t).imp_right .inl
  · rintro x u (rfl | hx | hx)
    · exact Nat.zero_le _
    · exact Nat.le_trans (h.length_le u (.inr hx)) (Nat.le_max_left _ _)
    · exact Nat.le_trans (h'.length_le u (.inr hx)) (Nat.le_max_right _ _)

end

end Workbench.Text
