import Workbench.Proofs.Scanner.Coalescing
import Workbench.Proofs.Scanner.Lines
import Workbench.Proofs.Scanner.Tiling

/-!
# Tokens cut at the ends of lines

`cut` keeps of each token the part that lies in a span, `within` keeps the tokens that lie in it
whole.  Of tokens that tile a text both give back the tokens of a line, if the span is that of the
line (`cut_flatMap`, `within_flatMap`), since they differ only in tokens that lie across its ends
(`Picks`).

Joining runs and cutting them commute (`cut_coalesce`): a run that is cut is the join of what is cut
of its tokens, and a token that misses the span on the right is followed by such tokens only.  So
the runs of a line are the runs of the whole, cut at the ends of the line
(`LineLocal.cut_scanLines`).
-/

namespace Workbench.Scanner

variable {S K : Type}

/-! ## tilings -/

theorem Tiles.append {a b c : Nat} {ss ss' : List Span} (h : Tiles a ss b) (h' : Tiles b ss' c) :
    Tiles a (ss ++ ss') c := by
  induction ss generalizing a with
  | nil =>
    have hab : a = b := h
    exact hab ▸ h'
  | cons s ss ih => exact ⟨h.1, h.2.1, ih h.2.2⟩

theorem Tiles.of_append {a c : Nat} {ss ss' : List Span} (h : Tiles a (ss ++ ss') c) :
    ∃ b, Tiles a ss b ∧ Tiles b ss' c := by
  induction ss generalizing a with
  | nil => exact ⟨a, tiles_nil a, h⟩
  | cons s ss ih =>
    obtain ⟨b, hb, hc⟩ := ih h.2.2
    exact ⟨b, ⟨h.1, h.2.1, hb⟩, hc⟩

theorem Tiles.le {a b : Nat} {ss : List Span} (h : Tiles a ss b) : a ≤ b := by
  induction ss generalizing a with
  | nil => exact Nat.le_of_eq h
  | cons s ss ih => exact Nat.le_trans (Nat.le_of_lt h.2.1) (ih h.2.2)

/-- the spans of a tiling are not empty and lie between its ends -/
theorem Tiles.bounds {a b : Nat} {ss : List Span} (h : Tiles a ss b) :
    ∀ s ∈ ss, a ≤ s.start ∧ s.start < s.stop ∧ s.stop ≤ b := by
  induction ss generalizing a with
  | nil => exact fun s hs => absurd hs List.not_mem_nil
  | cons s ss ih =>
    obtain ⟨hstart, hlt, hrest⟩ := h
    have hle := Tiles.le hrest
    refine List.forall_mem_cons.2 ⟨⟨by omega, by omega, hle⟩, fun x hx => ?_⟩
    have hx := ih hrest x hx
    omega

/-! ## parts of spans -/

/-- the part of a span that lies in another, if it is not empty -/
def Span.meet? (s w : Span) : Option Span :=
  if max s.start w.start < min s.stop w.stop then
    some ⟨max s.start w.start, min s.stop w.stop⟩
  else none

theorem Span.meet?_eq_self {s w : Span} (hs : s.start < s.stop) (hstart : w.start ≤ s.start)
    (hstop : s.stop ≤ w.stop) : s.meet? w = some s := by
  rw [meet?, Nat.max_eq_left hstart, Nat.min_eq_left hstop, if_pos hs]

theorem Span.meet?_eq_none {s w : Span} (h : s.stop ≤ w.start ∨ w.stop ≤ s.start) :
    s.meet? w = none := by
  rw [meet?, if_neg (by omega)]

/-- the parts of two spans that touch make up the part of their union -/
theorem Span.meet?_join {a b c : Nat} (hab : a < b) (hbc : b < c) (w : Span) :
    match meet? ⟨a, b⟩ w, meet? ⟨b, c⟩ w with
    | none, right => meet? ⟨a, c⟩ w = right
    | some left, none => meet? ⟨a, c⟩ w = some left
    | some left, some right =>
      left.stop = right.start ∧ meet? ⟨a, c⟩ w = some ⟨left.start, right.stop⟩ := by
  simp only [meet?]
  by_cases hleft : max a w.start < min b w.stop
  · by_cases hright : max b w.start < min c w.stop
    · rw [if_pos hleft, if_pos hright, if_pos (by omega)]
      refine ⟨?_, rfl⟩
      show min b w.stop = max b w.start
      omega
    · rw [if_pos hleft, if_neg hright, if_pos (by omega)]
      simp only [Option.some.injEq, mk.injEq, true_and]
      omega
  · rw [if_neg hleft]
    by_cases hright : max b w.start < min c w.stop
    · rw [if_pos hright, if_pos (by omega)]
      simp only [Option.some.injEq, mk.injEq, and_true]
      omega
    · rw [if_neg hright, if_neg (by omega)]

/-! ## parts of tokens -/

/-- the parts of tokens that lie in a span -/
def cut (w : Span) (tokens : List (Token K)) : List (Token K) :=
  tokens.filterMap fun t => (t.span.meet? w).map fun s => ⟨t.kind, s⟩

/-- the tokens that lie in a span -/
def within (w : Span) (tokens : List (Token K)) : List (Token K) :=
  tokens.filter fun t => decide (w.start ≤ t.span.start ∧ t.span.stop ≤ w.stop)

variable {w : Span} {t : Token K} {ts us vs : List (Token K)} {a b : Nat}

theorem cut_cons_of_none (h : t.span.meet? w = none) (ts : List (Token K)) :
    cut w (t :: ts) = cut w ts := by
  rw [cut, List.filterMap_cons, h]
  rfl

theorem cut_cons_of_some {s : Span} (h : t.span.meet? w = some s) (ts : List (Token K)) :
    cut w (t :: ts) = ⟨t.kind, s⟩ :: cut w ts := by
  rw [cut, List.filterMap_cons, h]
  rfl

theorem Tiles.bounds_tokens (h : Tiles a (ts.map Token.span) b) :
    ∀ t ∈ ts, a ≤ t.span.start ∧ t.span.start < t.span.stop ∧ t.span.stop ≤ b :=
  fun _ ht => h.bounds _ (List.mem_map_of_mem ht)

/-- a choice of tokens that keeps those in a span as they are and nothing of those that miss it;
what it does of tokens that lie across an end is left open -/
structure Picks (f : Token K → Option (Token K)) (w : Span) : Prop where
  inside : ∀ t : Token K, t.span.start < t.span.stop →
    w.start ≤ t.span.start → t.span.stop ≤ w.stop → f t = some t
  outside : ∀ t : Token K, t.span.start < t.span.stop →
    t.span.stop ≤ w.start ∨ w.stop ≤ t.span.start → f t = none

namespace Picks

variable {f : Token K → Option (Token K)} (h : Picks f w)
include h

theorem filterMap_eq_nil (htiles : Tiles a (ts.map Token.span) b)
    (hw : b ≤ w.start ∨ w.stop ≤ a) : ts.filterMap f = [] := by
  refine List.filterMap_eq_nil_iff.2 fun t ht => ?_
  have hbounds := htiles.bounds_tokens t ht
  exact h.outside t hbounds.2.1 (by omega)

theorem filterMap_eq_self (htiles : Tiles w.start (ts.map Token.span) w.stop) :
    ts.filterMap f = ts := by
  have hself : ∀ t ∈ ts, f t = some t := fun t ht =>
    have hbounds := htiles.bounds_tokens t ht
    h.inside t hbounds.2.1 hbounds.1 hbounds.2.2
  rw [List.filterMap_congr hself, List.filterMap_some]

end Picks

theorem picks_cut (w : Span) :
    Picks (K := K) (fun t => (t.span.meet? w).map fun s => ⟨t.kind, s⟩) w where
  inside t ht hstart hstop := by rw [Span.meet?_eq_self ht hstart hstop, Option.map_some]
  outside t _ hw := by rw [Span.meet?_eq_none hw, Option.map_none]

theorem picks_within (w : Span) :
    Picks (K := K)
      (Option.guard fun t => decide (w.start ≤ t.span.start ∧ t.span.stop ≤ w.stop)) w where
  inside t _ hstart hstop := Option.guard_eq_some_iff.2 ⟨rfl, decide_eq_true ⟨hstart, hstop⟩⟩
  outside t ht hw := Option.guard_eq_none_iff.2 (decide_eq_false (by omega))

/-! ## tokens of lines -/

/-- lines whose tokens tile them -/
def TiledLines (lines : List (LineScan S K)) : Prop :=
  ∀ l ∈ lines, Tiles l.span.start (l.tokens.map Token.span) l.span.stop

theorem tiles_flatMap {lines : List (LineScan S K)} (h : TiledLines lines)
    (htiles : Tiles a (lines.map LineScan.span) b) :
    Tiles a ((lines.flatMap LineScan.tokens).map Token.span) b := by
  induction lines generalizing a with
  | nil => exact htiles
  | cons l lines ih =>
    obtain ⟨hl, hlines⟩ := List.forall_mem_cons.1 h
    obtain ⟨hstart, -, hrest⟩ := htiles
    rw [List.flatMap_cons, List.map_append]
    exact Tiles.append (hstart ▸ hl) (ih hlines hrest)

/-- the tokens of lines, apart for one of the lines, the lines above it and those below -/
theorem exists_split_lines {lines : List (LineScan S K)} (h : TiledLines lines)
    (htiles : Tiles a (lines.map LineScan.span) b) {l : LineScan S K} (hl : l ∈ lines) :
    ∃ us vs : List (Token K), lines.flatMap LineScan.tokens = us ++ (l.tokens ++ vs)
      ∧ Tiles a (us.map Token.span) l.span.start ∧ Tiles l.span.stop (vs.map Token.span) b := by
  obtain ⟨above, below, rfl⟩ := List.append_of_mem hl
  obtain ⟨habove, hrest⟩ := List.forall_mem_append.1 h
  obtain ⟨-, hbelow⟩ := List.forall_mem_cons.1 hrest
  rw [List.map_append, List.map_cons] at htiles
  obtain ⟨mid, hup, hstart, -, hdown⟩ := htiles.of_append
  refine ⟨above.flatMap LineScan.tokens, below.flatMap LineScan.tokens, ?_, ?_, ?_⟩
  · rw [List.flatMap_append, List.flatMap_cons]
  · exact tiles_flatMap habove (hstart ▸ hup)
  · exact tiles_flatMap hbelow hdown

theorem Picks.filterMap_flatMap {lines : List (LineScan S K)} {f : Token K → Option (Token K)}
    {l : LineScan S K} (hf : Picks f l.span) (h : TiledLines lines)
    (htiles : Tiles a (lines.map LineScan.span) b) (hl : l ∈ lines) :
    (lines.flatMap LineScan.tokens).filterMap f = l.tokens := by
  obtain ⟨us, vs, hsplit, hus, hvs⟩ := exists_split_lines h htiles hl
  rw [hsplit, List.filterMap_append, List.filterMap_append,
    hf.filterMap_eq_nil hus (.inl (Nat.le_refl _)), hf.filterMap_eq_nil hvs (.inr (Nat.le_refl _)),
    hf.filterMap_eq_self (h l hl), List.nil_append, List.append_nil]

theorem cut_flatMap {lines : List (LineScan S K)} (h : TiledLines lines)
    (htiles : Tiles a (lines.map LineScan.span) b) :
    ∀ l ∈ lines, cut l.span (lines.flatMap LineScan.tokens) = l.tokens :=
  fun l hl => (picks_cut l.span).filterMap_flatMap h htiles hl

theorem within_flatMap {lines : List (LineScan S K)} (h : TiledLines lines)
    (htiles : Tiles a (lines.map LineScan.span) b) :
    ∀ l ∈ lines, within l.span (lines.flatMap LineScan.tokens) = l.tokens := by
  intro l hl
  rw [within, ← List.filterMap_eq_filter]
  exact (picks_within l.span).filterMap_flatMap h htiles hl

/-! ## runs -/

section
variable [DecidableEq K]

/-- two tokens of a run may be joined before the run is cut -/
theorem coalesce_cut_join {t u : Token K} (hkind : t.kind = u.kind)
    (htouch : t.span.stop = u.span.start) (ht : t.span.start < t.span.stop)
    (hu : u.span.start < u.span.stop) (w : Span) (ts : List (Token K)) :
    coalesce (cut w (t :: u :: ts))
      = coalesce (cut w (⟨t.kind, t.span.start, u.span.stop⟩ :: ts)) := by
  obtain ⟨k, a, b⟩ := t
  obtain ⟨k', b', c⟩ := u
  obtain rfl : k = k' := hkind
  obtain rfl : b = b' := htouch
  have hmeet := Span.meet?_join ht hu w
  cases hleft : Span.meet? ⟨a, b⟩ w with
  | none =>
    simp only [hleft] at hmeet
    rw [cut_cons_of_none hleft]
    cases hright : Span.meet? ⟨b, c⟩ w with
    | none => rw [cut_cons_of_none hright, cut_cons_of_none (hmeet.trans hright)]
    | some s => rw [cut_cons_of_some hright, cut_cons_of_some (hmeet.trans hright)]
  | some s =>
    rw [cut_cons_of_some hleft]
    cases hright : Span.meet? ⟨b, c⟩ w with
    | none =>
      simp only [hleft, hright] at hmeet
      rw [cut_cons_of_none hright, cut_cons_of_some hmeet]
    | some s' =>
      simp only [hleft, hright] at hmeet
      rw [cut_cons_of_some hright, cut_cons_of_some hmeet.2]
      exact coalesce_cons_of_touches (t := ⟨k, s⟩) (u := ⟨k, s'⟩) ⟨rfl, hmeet.1⟩ _

/-- a token and its neighbour of another kind are no run, cut or not -/
theorem coalesce_cut_cons {t u : Token K} (hkind : t.kind ≠ u.kind)
    (h : Tiles t.span.start ((t :: u :: ts).map Token.span) b) (w : Span) :
    coalesce (cut w (t :: u :: ts)) = cut w [t] ++ coalesce (cut w (u :: ts)) := by
  obtain ⟨-, ht, htouch, hu, hts⟩ := h
  cases hleft : t.span.meet? w with
  | none => rw [cut_cons_of_none hleft, cut_cons_of_none hleft]; rfl
  | some s =>
    rw [cut_cons_of_some hleft, cut_cons_of_some hleft]
    cases hright : u.span.meet? w with
    | some s' =>
      rw [cut_cons_of_some hright]
      exact coalesce_cons_of_apart (t := ⟨t.kind, s⟩) (u := ⟨u.kind, s'⟩) (fun h => hkind h.1) _
    | none =>
      -- the span ends in front of `u`, so there is nothing behind `u` either
      have hw : w.stop ≤ u.span.stop := by
        simp only [Span.meet?] at hleft hright
        split at hleft
        · split at hright
          · cases hright
          · omega
        · cases hleft
      have hnil : cut w ts = [] := (picks_cut w).filterMap_eq_nil hts (.inr hw)
      rw [cut_cons_of_none hright, hnil]
      rfl

theorem cut_joinRuns {run : Token K} (h : Tiles run.span.start ((run :: ts).map Token.span) b)
    (w : Span) : cut w (joinRuns run ts) = coalesce (cut w (run :: ts)) := by
  induction ts generalizing run with
  | nil =>
    rw [joinRuns]
    cases hmeet : run.span.meet? w with
    | none => rw [cut_cons_of_none hmeet]; rfl
    | some s => rw [cut_cons_of_some hmeet]; rfl
  | cons t ts ih =>
    have htiles := h
    obtain ⟨-, hrun, htouch, ht, hts⟩ := h
    rw [joinRuns]
    by_cases hkind : run.kind = t.kind
    · have hjoined : run.span.start < t.span.stop := by omega
      have ih' := @ih ⟨run.kind, run.span.start, t.span.stop⟩ ⟨rfl, hjoined, hts⟩
      rw [if_pos ⟨hkind, htouch.symm⟩, ih',
        coalesce_cut_join hkind htouch.symm hrun (htouch ▸ ht)]
    · have hcons : cut w (run :: joinRuns t ts) = cut w [run] ++ cut w (joinRuns t ts) :=
        List.filterMap_append (l := [run])
      rw [if_neg fun hjoin => hkind hjoin.1, hcons, ih ⟨rfl, htouch ▸ ht, hts⟩,
        coalesce_cut_cons hkind htiles]

/-- what is cut of the runs of tokens that tile a text are the runs of what is cut of the tokens -/
theorem cut_coalesce (h : Tiles a (ts.map Token.span) b) (w : Span) :
    cut w (coalesce ts) = coalesce (cut w ts) := by
  cases ts with
  | nil => rfl
  | cons t ts => exact cut_joinRuns (h.1 ▸ h) w

end

/-! ## scans by lines -/

theorem CoversLines.tiledLines {t : Text} {lines : List (LineScan S K)} {parts : List Text}
    (h : CoversLines t lines parts) : TiledLines lines :=
  ((List.forall₂_and_left _ _).1 (h.covered.imp fun _ _ h => ⟨h.tokens.tiles, h⟩)).1

namespace RuleTable

variable [ScannerState S] [ScannerKind K]

variable {table : RuleTable S K}

/-- the tokens of a line are those of the whole that lie in it -/
theorem LineLocal.within_scanLines (h : table.LineLocal) (st : StateStack S) (t : Text) :
    ∀ l ∈ table.scanLines st t, within l.span (table.scan st t).tokens = l.tokens := by
  have hlines := table.coversLines_scanLines st t
  rw [← h.tokens_scanLines]
  exact within_flatMap hlines.tiledLines hlines.tiles

/-- the runs of a line are those of the whole, cut at the ends of the line -/
theorem LineLocal.cut_scanLines [DecidableEq K] (h : table.LineLocal) (st : StateStack S)
    (t : Text) : ∀ l ∈ table.scanLines st t,
      cut l.span (coalesce (table.scan st t).tokens) = coalesce l.tokens := by
  intro l hl
  have hlines := table.coversLines_scanLines st t
  rw [← h.tokens_scanLines, cut_coalesce (tiles_flatMap hlines.tiledLines hlines.tiles),
    cut_flatMap hlines.tiledLines hlines.tiles l hl]

end RuleTable

end Workbench.Scanner
