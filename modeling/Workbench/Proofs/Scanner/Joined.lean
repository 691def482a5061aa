import Workbench.Proofs.Scanner.Coalescing
import Workbench.Proofs.Scanner.Tiling

/-!
# Joined tokens cover what the tokens cover

What lies between two offsets and what lies between the second and a third make up what lies between
the first and the third (`Text.slice_append_slice`).  So two tokens of a covering may be joined, for
they lie end to end, and a text that is covered by tokens is covered by their runs as well:
`Covers.coalesce`.
-/

namespace Workbench

/-! ## parts of a text -/

namespace Text

/-- a text is cut at an offset in one way -/
theorem append_inj_of_bytes {a a' b b' : Text} (h : a ++ b = a' ++ b')
    (hbytes : a.bytes = a'.bytes) : a = a' ∧ b = b' := by
  have hsplit := splitAtByte_bytes a b
  rw [h, hbytes, splitAtByte_bytes, Option.some.injEq, Prod.mk.injEq] at hsplit
  exact ⟨hsplit.1.symm, hsplit.2.symm⟩

theorem exists_of_slice {t x : Text} {start stop : Nat} (h : slice t start stop = some x) :
    ∃ before behind, t = before ++ x ++ behind ∧ before.bytes = start
      ∧ start + x.bytes = stop := by
  unfold slice at h
  split at h
  · next hle =>
    obtain ⟨⟨before, rest⟩, hbefore, h⟩ := Option.bind_eq_some_iff.1 h
    obtain ⟨⟨part, behind⟩, hpart, hx⟩ := Option.map_eq_some_iff.1 h
    obtain rfl : part = x := hx
    obtain ⟨rfl, hstart⟩ := splitAtByte_eq_some hbefore
    obtain ⟨hrest, hlength⟩ := splitAtByte_eq_some hpart
    have hrest : rest = part ++ behind := hrest
    refine ⟨before, behind, by rw [hrest, List.append_assoc], hstart, ?_⟩
    omega
  · cases h

theorem slice_append_slice {t x y : Text} {a b c : Nat} (hx : slice t a b = some x)
    (hy : slice t b c = some y) : slice t a c = some (x ++ y) := by
  obtain ⟨before, behind, ht, hbefore, hb⟩ := exists_of_slice hx
  obtain ⟨before', behind', ht', hbefore', hc⟩ := exists_of_slice hy
  rw [List.append_assoc before'] at ht'
  obtain ⟨rfl, -⟩ := append_inj_of_bytes (ht.symm.trans ht')
    (by rw [bytes_append, hbefore, hb, hbefore'])
  have hslice := slice_append before (x ++ y) behind'
  rw [bytes_append, hbefore, ← Nat.add_assoc, hb, hc] at hslice
  rw [ht', ← hslice]
  simp only [List.append_assoc]

end Text

/-! ## joined tokens -/

namespace Scanner

variable {K : Type} {t part : Text} {a b : Nat} {u v : Token K} {ts : List (Token K)}

theorem Covers.of_cons (h : Covers t a part b (u :: ts)) :
    u.span.start = a ∧ a < u.span.stop
      ∧ ∃ x rest, u.text? t = some x ∧ part = x ++ rest ∧ Covers t u.span.stop rest b ts := by
  obtain ⟨⟨hstart, hlt, htiles⟩, lexemes, htexts, hpart⟩ := h
  cases lexemes with
  | nil => cases htexts
  | cons x lexemes =>
    obtain ⟨hx, hrest⟩ := List.cons.inj htexts
    exact ⟨hstart, hlt, x, lexemes.flatten, hx, hpart.symm, htiles, lexemes, hrest, rfl⟩

theorem Covers.cons {x rest : Text} (hstart : u.span.start = a) (hlt : a < u.span.stop)
    (hx : u.text? t = some x) (h : Covers t u.span.stop rest b ts) :
    Covers t a (x ++ rest) b (u :: ts) := by
  obtain ⟨htiles, lexemes, htexts, rfl⟩ := h
  refine ⟨⟨hstart, hlt, htiles⟩, x :: lexemes, ?_, rfl⟩
  rw [List.map_cons, List.map_cons, hx, htexts]

theorem Covers.join (h : Covers t a part b (u :: v :: ts)) :
    Covers t a part b (u.join v :: ts) := by
  obtain ⟨rfl, hlt, x, _, hx, rfl, hcovers⟩ := h.of_cons
  obtain ⟨hstart, hlt', y, rest, hy, rfl, hrest⟩ := hcovers.of_cons
  have hjoin : (u.join v).text? t = some (x ++ y) :=
    Text.slice_append_slice hx (hstart ▸ hy)
  rw [← List.append_assoc]
  exact .cons rfl (Nat.lt_trans hlt hlt') hjoin hrest

/-- lines are covered by other tokens than theirs, if these cover whatever theirs cover -/
theorem CoversLines.map_tokens {S : Type} {lines : List (LineScan S K)} {parts : List Text}
    {f : List (Token K) → List (Token K)}
    (hf : ∀ {part a b ts}, Covers t a part b ts → Covers t a part b (f ts))
    (h : CoversLines t lines parts) :
    CoversLines t (lines.map fun l => { l with tokens := f l.tokens }) parts where
  tiles := by
    rw [List.map_map]
    exact h.tiles
  numbers := by
    rw [List.map_map, List.length_map]
    exact h.numbers
  covered := List.forall₂_map_left_iff.2
    (h.covered.imp fun _ _ hl => ⟨hl.text, hl.newline, hf hl.tokens⟩)
  text := h.text
  ended := h.ended

variable [DecidableEq K]

/-- A text that is covered by tokens is covered by their runs. -/
theorem Covers.coalesce (h : Covers t a part b ts) : Covers t a part b (coalesce ts) := by
  cases ts with
  | nil => exact h
  | cons u ts =>
    induction ts generalizing a part u with
    | nil => exact h
    | cons v ts ih =>
      by_cases htouch : u.Touches v
      · rw [coalesce_cons_of_touches htouch]
        exact ih (u.join v) h.join
      · rw [coalesce_cons_of_apart htouch]
        obtain ⟨hstart, hlt, x, rest, hx, rfl, hrest⟩ := h.of_cons
        exact .cons hstart hlt hx (ih v hrest)

end Scanner

end Workbench
