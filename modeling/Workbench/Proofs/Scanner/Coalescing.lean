import Mathlib.Data.List.Forall2
import Workbench.Scanner.Token

/-!
# Runs of tokens

Two tokens touch if they are of one kind and the second begins where the first ends.  Tokens are
coalesced from the left: a token and the next one are joined where they touch
(`coalesce_cons_of_touches`) and kept apart where they do not (`coalesce_cons_of_apart`); the
inductions below follow these two equations.

* `IsRun`                   a token that stands for a block of tokens, each touching the next;
* `exists_blocks`           the runs stand for consecutive blocks, which make up the tokens;
* `isChain_coalesce`        no run touches the next;
* `coalesce_cons_coalesce`  what follows a token may be coalesced first, and so may either part of
                            a list (`coalesce_append_coalesce`, `coalesce_coalesce_append`).
-/

namespace Workbench.Scanner

variable {K : Type}

namespace Token

def Touches (t u : Token K) : Prop := t.kind = u.kind ∧ t.span.stop = u.span.start

/-- from the start of one token to the end of another -/
def join (t u : Token K) : Token K := ⟨t.kind, t.span.start, u.span.stop⟩

end Token

/-- a token of the kind of all the tokens of a block, from the start of the first to the end of the
last, if they lie end to end -/
structure IsRun (r : Token K) (block : List (Token K)) : Prop where
  kind : ∀ t ∈ block, t.kind = r.kind
  start : block.head?.map (·.span.start) = some r.span.start
  stop : block.getLast?.map (·.span.stop) = some r.span.stop
  touching : block.IsChain fun t u => t.span.stop = u.span.start

theorem isRun_singleton (t : Token K) : IsRun t [t] where
  kind := fun _ hu => congrArg Token.kind (List.mem_singleton.1 hu)
  start := rfl
  stop := rfl
  touching := .singleton t

/-- a block whose first two tokens were joined -/
theorem IsRun.of_join {r t u : Token K} {ts : List (Token K)} (htouch : t.Touches u)
    (h : IsRun r (t.join u :: ts)) : IsRun r (t :: u :: ts) := by
  obtain ⟨hkind, hstart, hstop, htouching⟩ := h
  obtain ⟨ht, hts⟩ := List.forall_mem_cons.1 hkind
  refine ⟨?_, hstart, ?_, ?_⟩
  · exact List.forall_mem_cons.2 ⟨ht, List.forall_mem_cons.2 ⟨htouch.1.symm.trans ht, hts⟩⟩
  · cases ts with
    | nil => exact hstop
    | cons v vs => exact hstop
  · refine .cons_cons htouch.2 ?_
    cases ts with
    | nil => exact .singleton u
    | cons v vs =>
      obtain ⟨hv, hvs⟩ := List.isChain_cons_cons.1 htouching
      exact .cons_cons hv hvs

/-! ## the two equations -/

section
variable [DecidableEq K] {t u : Token K}

theorem coalesce_cons_of_touches (h : t.Touches u) (ts : List (Token K)) :
    coalesce (t :: u :: ts) = coalesce (t.join u :: ts) := by
  show joinRuns t (u :: ts) = joinRuns (t.join u) ts
  rw [joinRuns]
  exact if_pos h

theorem coalesce_cons_of_apart (h : ¬ t.Touches u) (ts : List (Token K)) :
    coalesce (t :: u :: ts) = t :: coalesce (u :: ts) := by
  show joinRuns t (u :: ts) = t :: joinRuns u ts
  rw [joinRuns]
  exact if_neg h

/-- the first run begins as the first token does -/
theorem exists_coalesce_cons (t : Token K) (ts : List (Token K)) :
    ∃ stop rs, coalesce (t :: ts) = ⟨t.kind, t.span.start, stop⟩ :: rs := by
  induction ts generalizing t with
  | nil => exact ⟨t.span.stop, [], rfl⟩
  | cons u ts ih =>
    by_cases h : t.Touches u
    · rw [coalesce_cons_of_touches h]
      exact ih (t.join u)
    · exact ⟨t.span.stop, _, coalesce_cons_of_apart h ts⟩

/-! ## blocks -/

theorem exists_blocks_cons (t : Token K) (ts : List (Token K)) :
    ∃ r rs block blocks, coalesce (t :: ts) = r :: rs ∧ ts = block ++ blocks.flatten
      ∧ IsRun r (t :: block) ∧ List.Forall₂ IsRun rs blocks := by
  induction ts generalizing t with
  | nil => exact ⟨t, [], [], [], rfl, rfl, isRun_singleton t, .nil⟩
  | cons u ts ih =>
    by_cases h : t.Touches u
    · obtain ⟨r, rs, block, blocks, hrs, rfl, hr, hblocks⟩ := ih (t.join u)
      refine ⟨r, rs, u :: block, blocks, ?_, rfl, hr.of_join h, hblocks⟩
      rw [coalesce_cons_of_touches h, hrs]
    · obtain ⟨r, rs, block, blocks, hrs, rfl, hr, hblocks⟩ := ih u
      refine ⟨t, r :: rs, [], (u :: block) :: blocks, ?_, rfl, isRun_singleton t, .cons hr hblocks⟩
      rw [coalesce_cons_of_apart h, hrs]

theorem exists_blocks (ts : List (Token K)) :
    ∃ blocks, blocks.flatten = ts ∧ List.Forall₂ IsRun (coalesce ts) blocks := by
  cases ts with
  | nil => exact ⟨[], rfl, .nil⟩
  | cons t ts =>
    obtain ⟨r, rs, block, blocks, hrs, rfl, hr, hblocks⟩ := exists_blocks_cons t ts
    rw [hrs]
    exact ⟨(t :: block) :: blocks, rfl, .cons hr hblocks⟩

theorem isChain_coalesce (ts : List (Token K)) :
    (coalesce ts).IsChain fun t u => ¬ t.Touches u := by
  cases ts with
  | nil => exact .nil
  | cons t ts =>
    induction ts generalizing t with
    | nil => exact .singleton t
    | cons u ts ih =>
      by_cases h : t.Touches u
      · rw [coalesce_cons_of_touches h]
        exact ih (t.join u)
      · obtain ⟨stop, rs, hrs⟩ := exists_coalesce_cons u ts
        have hchain := ih u
        rw [hrs] at hchain
        rw [coalesce_cons_of_apart h, hrs]
        -- whether a token touches another does not depend on where that one ends
        exact .cons_cons h hchain

/-! ## coalescing parts first -/

theorem coalesce_eq_self {ts : List (Token K)} (h : ts.IsChain fun t u => ¬ t.Touches u) :
    coalesce ts = ts := by
  induction h with
  | nil => rfl
  | singleton t => rfl
  | cons_cons h _ ih => rw [coalesce_cons_of_apart h, ih]

/-- the order in which three tokens are joined makes no difference -/
theorem coalesce_cons_join (h : t.Touches u) (s : Token K) (ts : List (Token K)) :
    coalesce (s :: t.join u :: ts) = coalesce (s :: t :: u :: ts) := by
  by_cases hs : s.Touches t
  · have hsu : (s.join t).Touches u := ⟨hs.1.trans h.1, h.2⟩
    have hsj : s.Touches (t.join u) := hs
    rw [coalesce_cons_of_touches hsj, coalesce_cons_of_touches hs, coalesce_cons_of_touches hsu]
    rfl
  · have hsj : ¬ s.Touches (t.join u) := hs
    rw [coalesce_cons_of_apart hsj, coalesce_cons_of_apart hs, coalesce_cons_of_touches h]

theorem coalesce_cons_coalesce (t : Token K) (ts : List (Token K)) :
    coalesce (t :: coalesce ts) = coalesce (t :: ts) := by
  cases ts with
  | nil => rfl
  | cons u ts =>
    induction ts generalizing t u with
    | nil => rfl
    | cons v ts ih =>
      by_cases huv : u.Touches v
      · rw [coalesce_cons_of_touches huv, ih t (u.join v), coalesce_cons_join huv]
      · rw [coalesce_cons_of_apart huv]
        by_cases htu : t.Touches u
        · rw [coalesce_cons_of_touches htu, coalesce_cons_of_touches htu, ih (t.join u) v]
        · rw [coalesce_cons_of_apart htu, coalesce_cons_of_apart htu, ih u v]

theorem coalesce_append_coalesce (ts us : List (Token K)) :
    coalesce (ts ++ coalesce us) = coalesce (ts ++ us) := by
  induction ts with
  | nil => exact coalesce_eq_self (isChain_coalesce us)
  | cons t ts ih =>
    rw [List.cons_append, ← coalesce_cons_coalesce, ih, coalesce_cons_coalesce, List.cons_append]

theorem coalesce_coalesce_append (ts us : List (Token K)) :
    coalesce (coalesce ts ++ us) = coalesce (ts ++ us) := by
  cases ts with
  | nil => rfl
  | cons t ts =>
    induction ts generalizing t with
    | nil => rfl
    | cons u ts ih =>
      by_cases h : t.Touches u
      · rw [coalesce_cons_of_touches h, ih (t.join u)]
        exact (coalesce_cons_of_touches h (ts ++ us)).symm
      · rw [coalesce_cons_of_apart h, List.cons_append, ← coalesce_cons_coalesce, ih u,
          coalesce_cons_coalesce]
        rfl

/-- Coalescing makes a token of each block of tokens that touch one after the other, and no two
neighbours of what it makes touch.  So it does nothing more the second time, and parts of a list may
be coalesced before the whole. -/
theorem coalesce_merges_runs (ts us : List (Token K)) :
    (∃ blocks, blocks.flatten = ts ∧ List.Forall₂ IsRun (coalesce ts) blocks)
      ∧ ((coalesce ts).IsChain fun t u => ¬ (t.kind = u.kind ∧ t.span.stop = u.span.start))
      ∧ coalesce (coalesce ts) = coalesce ts
      ∧ coalesce (ts ++ us) = coalesce (coalesce ts ++ coalesce us) := by
  refine ⟨exists_blocks ts, isChain_coalesce ts, coalesce_eq_self (isChain_coalesce ts), ?_⟩
  rw [coalesce_coalesce_append, coalesce_append_coalesce]

end

end Workbench.Scanner
