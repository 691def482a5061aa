import Workbench.Proofs.Riff.Moves
import Workbench.Proofs.Scanner.Boundaries

/-!
# Comments of Riff

A comment ends where its openers and closers pair up.  `nesting` reads a text with a counter: two
characters for an opener or a closer, one for anything else.  The scanner reads the same text with
its stack, one state of a comment for each comment that is open: `run_comment`.

So a comment that closes leaves the stack as it found it, whatever that was, and one that does not
leaves on it the comments that are still open (`scan_comment`).  Where it closes, the tokens of the
scan have a boundary (`boundary_of_comment`).
-/

namespace Workbench.Riff

open Workbench.Pattern (Regex)
open Scanner (Action Move RuleTable StateStack layout)

/-! ## the nesting of a text -/

/-- what a reader of nested comments finds: where the last open one closes, or how many stay open -/
inductive Reading where
  | closed (offset : Nat)
  | unclosed (depth : Nat)
  deriving DecidableEq, Repr

namespace Reading

/-- the same seen from `n` characters further to the left -/
def after (n : Nat) : Reading → Reading
  | closed p => closed (n + p)
  | unclosed d => unclosed d

theorem after_after (m n : Nat) (r : Reading) : (r.after n).after m = r.after (m + n) := by
  cases r with
  | closed p => exact congrArg closed (Nat.add_assoc m n p).symm
  | unclosed d => rfl

end Reading

/-- reads a text with `depth` open comments -/
def nesting : Nat → Text → Reading
  | depth, '/' :: '*' :: t => (nesting (depth + 1) t).after 2
  | depth, '*' :: '/' :: t =>
    if depth ≤ 1 then .closed 2 else (nesting (depth - 1) t).after 2
  | depth, _ :: t => (nesting depth t).after 1
  | depth, [] => .unclosed depth

/-- whether neither an opener nor a closer stands at the front -/
def Plain (c : Char) (t : Text) : Prop :=
  (c = '/' → t.head? ≠ some '*') ∧ (c = '*' → t.head? ≠ some '/')

@[simp] theorem nesting_nil (d : Nat) : nesting d [] = .unclosed d := by rw [nesting]

theorem nesting_open (d : Nat) (t : Text) :
    nesting d ('/' :: '*' :: t) = (nesting (d + 1) t).after 2 := by
  rw [nesting]

theorem nesting_close (d : Nat) (t : Text) :
    nesting d ('*' :: '/' :: t)
      = if d ≤ 1 then .closed 2 else (nesting (d - 1) t).after 2 := by
  rw [nesting]

theorem nesting_plain (d : Nat) {c : Char} {t : Text} (h : Plain c t) :
    nesting d (c :: t) = (nesting d t).after 1 := by
  rw [nesting]
  · rintro t rfl rfl
    exact h.1 rfl rfl
  · rintro t rfl rfl
    exact h.2 rfl rfl

/-- a text begins with an opener, with a closer or with a character that is part of neither -/
theorem front_cases (c : Char) (t : Text) :
    (∃ u, c = '/' ∧ t = '*' :: u) ∨ (∃ u, c = '*' ∧ t = '/' :: u) ∨ Plain c t := by
  by_cases hopen : c = '/' ∧ t.head? = some '*'
  · exact .inl ⟨t.tail, hopen.1, (List.cons_head?_tail hopen.2).symm⟩
  · by_cases hclose : c = '*' ∧ t.head? = some '/'
    · exact .inr (.inl ⟨t.tail, hclose.1, (List.cons_head?_tail hclose.2).symm⟩)
    · exact .inr (.inr ⟨fun h h' => hopen ⟨h, h'⟩, fun h h' => hclose ⟨h, h'⟩⟩)

/-- characters that are neither slashes nor stars do not count -/
theorem nesting_append (d : Nat) {w : Text} (hslash : '/' ∉ w) (hstar : '*' ∉ w) (t : Text) :
    nesting d (w ++ t) = (nesting d t).after w.length := by
  induction w with
  | nil => cases h : nesting d t <;> simp [Reading.after, h]
  | cons c w ih =>
    rw [List.mem_cons, not_or] at hslash hstar
    have hplain : Plain c (w ++ t) :=
      ⟨fun h => absurd h.symm hslash.1, fun h => absurd h.symm hstar.1⟩
    rw [List.cons_append, nesting_plain d hplain, ih hslash.2 hstar.2, Reading.after_after,
      List.length_cons, Nat.add_comm]

theorem closed_of_after {r : Reading} {n p : Nat} (h : r.after n = .closed p) :
    ∃ q, r = .closed q ∧ p = n + q := by
  cases r with
  | closed q => exact ⟨q, rfl, (Reading.closed.inj h).symm⟩
  | unclosed d => cases h

/-- `w` is read in front of `u`, at depth `d`, and `u` at depth `e` -/
theorem nesting_take_append {d e p : Nat} (w : Text) {u : Text}
    (h : (nesting e u).after w.length = .closed p)
    (hw : ∀ q, nesting d (w ++ u.take q) = (nesting e (u.take q)).after w.length)
    (ih : ∀ q, nesting e u = .closed q → q ≤ u.length ∧ nesting e (u.take q) = .closed q) :
    p ≤ (w ++ u).length ∧ nesting d ((w ++ u).take p) = .closed p := by
  obtain ⟨q, hq, rfl⟩ := closed_of_after h
  obtain ⟨hlen, htake⟩ := ih q hq
  rw [List.take_length_add_append, hw, htake, List.length_append]
  exact ⟨Nat.add_le_add_left hlen _, rfl⟩

/-- what follows the end of a comment does not move it -/
theorem nesting_take {d p : Nat} {t : Text} (h : nesting d t = .closed p) :
    p ≤ t.length ∧ nesting d (t.take p) = .closed p := by
  induction hn : t.length using Nat.strongRecOn generalizing d p t with
  | _ n ih =>
    have ih' : ∀ (e : Nat) (u : Text), u.length < n → ∀ q, nesting e u = .closed q →
        q ≤ u.length ∧ nesting e (u.take q) = .closed q := fun e u hu q hq => ih _ hu hq rfl
    rw [← hn] at ih' ⊢
    cases t with
    | nil => rw [nesting_nil] at h; cases h
    | cons c t =>
      rcases front_cases c t with ⟨u, rfl, rfl⟩ | ⟨u, rfl, rfl⟩ | hplain
      · rw [nesting_open] at h
        exact nesting_take_append ['/', '*'] h (fun q => nesting_open d _)
          (ih' _ u (by simp only [List.length_cons]; omega))
      · rw [nesting_close] at h
        split at h
        · next hd =>
          injection h with h
          rw [← h, List.take_succ_cons, List.take_succ_cons, nesting_close, if_pos hd]
          exact ⟨by simp only [List.length_cons]; omega, rfl⟩
        · next hd =>
          exact nesting_take_append ['*', '/'] h
            (fun q => (nesting_close d _).trans (if_neg hd))
            (ih' _ u (by simp only [List.length_cons]; omega))
      · rw [nesting_plain d hplain] at h
        refine nesting_take_append [c] h (fun q => nesting_plain d ?_)
          (ih' _ t (by simp only [List.length_cons]; omega))
        have hhead : ∀ x, (t.take q).head? = some x → t.head? = some x := by
          intro x hx
          rw [List.head?_take] at hx
          split at hx
          · cases hx
          · exact hx
        exact ⟨fun hc hx => hplain.1 hc (hhead _ hx), fun hc hx => hplain.2 hc (hhead _ hx)⟩

-- the slash of the opener is no part of a closer
example : nesting 0 "/*/ */ */".toList = .closed 6 := by decide

/-! ## the stack inside comments -/

/-- a stack with comments on it -/
def deeper (st : Stack) : Nat → Stack
  | 0 => st
  | n + 1 => (deeper st n).push .comment

theorem toList_deeper (st : Stack) (n : Nat) :
    (deeper st n).toList = st.toList ++ List.replicate n .comment := by
  induction n with
  | zero => rw [deeper, List.replicate_zero, List.append_nil]
  | succ n ih =>
    rw [deeper, StateStack.toList_push, ih, List.append_assoc, List.replicate_succ']

theorem apply_pop_deeper (st : Stack) (n : Nat) :
    (deeper st (n + 1)).apply .pop = deeper st n := rfl

/-- where a reading ends: at the end of the comment with the stack from before it, or at the end of
the text with the open comments on that stack -/
def reached (st : Stack) (t : Text) : Reading → Stack × Text
  | .closed p => (st, t.drop p)
  | .unclosed d => (deeper st d, [])

theorem reached_after (st : Stack) (w t : Text) (r : Reading) :
    reached st (w ++ t) (r.after w.length) = reached st t r := by
  cases r with
  | closed p =>
    show (st, (w ++ t).drop (w.length + p)) = (st, t.drop p)
    rw [List.drop_length_add_append]
  | unclosed d => rfl

/-! ## the rules of a comment -/

theorem choose_open (t : Text) :
    choose .comment ('/' :: '*' :: t)
      = some (⟨Pattern.commentOpen, .comment, .push .comment⟩, 2) :=
  firstOf_cons_of_some (endOf?_text_append ['/', '*'] rfl t) _

theorem choose_close (t : Text) :
    choose .comment ('*' :: '/' :: t) = some (⟨Pattern.commentClose, .comment, .pop⟩, 2) :=
  (firstOf_cons_of_none (endOf?_text_eq_none rfl rfl) _).trans
    (firstOf_cons_of_some (endOf?_text_append ['*', '/'] rfl t) _)

/-- what is neither an opener nor a closer stays in the comment, and the reader passes it too -/
theorem choose_plain {c : Char} {t : Text} (h : Plain c t) :
    ∃ spec n, choose .comment (c :: t) = some (spec, n)
      ∧ spec.kind = .comment ∧ spec.action = .stay
      ∧ ∀ d, nesting d (c :: t)
        = (nesting d ((c :: t).drop (max 1 n))).after ((c :: t).take (max 1 n)).length := by
  obtain ⟨spec, n, hchoose⟩ := exists_choose .comment (c :: t)
  obtain ⟨hmem, hend⟩ := mem_of_choose hchoose
  have hmem : spec ∈ commentRules := hmem
  refine ⟨spec, n, hchoose, ?_⟩
  simp only [commentRules, List.mem_cons, List.not_mem_nil, or_false] at hmem
  rcases hmem with rfl | rfl | rfl | rfl
  · rw [endOf?_text_eq_none rfl (isPrefixOf_pair_eq_false h.1)] at hend
    cases hend
  · rw [endOf?_text_eq_none rfl (isPrefixOf_pair_eq_false h.2)] at hend
    cases hend
  · -- the body is free of slashes and stars
    refine ⟨rfl, rfl, fun d => ?_⟩
    obtain ⟨hmax, hspells⟩ := spells_of_endOf? hend rfl
    have hslash := Regex.not_mem_of_spells (c := '/') rfl hspells
    have hstar := Regex.not_mem_of_spells (c := '*') rfl hspells
    have happend := nesting_append d hslash hstar ((c :: t).drop n)
    rwa [List.take_append_drop, ← hmax] at happend
  · -- any other character alone
    refine ⟨rfl, rfl, fun d => ?_⟩
    rw [max_of_anything rfl hend]
    exact nesting_plain d h

/-! ## runs of comments -/

/-- one move inside a comment, behind which a run is known -/
theorem run_cons {st st' : Stack} {c : Char} {t t' : Text} {spec : Spec} {n : Nat}
    (h : choose st.top (c :: t) = some (spec, n)) (hkind : spec.kind = .comment)
    (hrun : ∃ ms, (∀ m ∈ ms, m.kind = .comment)
      ∧ table.Run (st.apply spec.action) ((c :: t).drop (max 1 n)) ms st' t') :
    ∃ ms, (∀ m ∈ ms, m.kind = .comment) ∧ table.Run st (c :: t) ms st' t' := by
  obtain ⟨ms, hms, run⟩ := hrun
  refine ⟨[table.move st c t] ++ ms, ?_, (run_of_choose h).trans run⟩
  rw [move_of_choose h]
  exact List.forall_mem_append.2 ⟨by simpa using hkind, hms⟩

/-- the scanner inside comments goes to where the reader does -/
theorem run_comment (st : Stack) (d : Nat) (t : Text) :
    ∃ ms, (∀ m ∈ ms, m.kind = .comment)
      ∧ table.Run (deeper st (d + 1)) t ms (reached st t (nesting (d + 1) t)).1
        (reached st t (nesting (d + 1) t)).2 := by
  induction hn : t.length using Nat.strongRecOn generalizing d t with
  | _ n ih =>
    subst hn
    cases t with
    | nil =>
      rw [nesting_nil]
      exact ⟨[], fun m hm => absurd hm List.not_mem_nil, .done _ _⟩
    | cons c t =>
      rcases front_cases c t with ⟨u, rfl, rfl⟩ | ⟨u, rfl, rfl⟩ | hplain
      · have hlen : u.length < ('/' :: '*' :: u).length := by
          simp only [List.length_cons]; omega
        have hreached := reached_after st ['/', '*'] u (nesting (d + 1 + 1) u)
        rw [nesting_open]
        refine run_cons (choose_open u) rfl ?_
        exact hreached ▸ ih _ hlen (d + 1) u rfl
      · have hlen : u.length < ('*' :: '/' :: u).length := by
          simp only [List.length_cons]; omega
        rw [nesting_close]
        refine run_cons (choose_close u) rfl ?_
        rw [apply_pop_deeper]
        cases d with
        | zero => exact ⟨[], fun m hm => absurd hm List.not_mem_nil, .done _ _⟩
        | succ d =>
          have hreached := reached_after st ['*', '/'] u (nesting (d + 1) u)
          rw [if_neg (by omega)]
          exact hreached ▸ ih _ hlen d u rfl
      · obtain ⟨spec, n, hchoose, hkind, hstay, hnesting⟩ := choose_plain hplain
        have hlen : ((c :: t).drop (max 1 n)).length < (c :: t).length := by
          simp only [List.length_drop, List.length_cons]; omega
        have hreached : reached st (c :: t) (nesting (d + 1) (c :: t))
            = reached st ((c :: t).drop (max 1 n))
              (nesting (d + 1) ((c :: t).drop (max 1 n))) := by
          rw [hnesting]
          conv => lhs; arg 2; rw [← List.take_append_drop (max 1 n) (c :: t)]
          rw [reached_after]
        rw [hreached]
        refine run_cons hchoose hkind ?_
        rw [hstay]
        exact ih _ hlen d _ rfl

/-! ## where a comment begins -/

/-- on a slash that begins no comment to the end of the line, code has come to the rule that opens
comments -/
theorem firstOf_trivia_slash {u : Text} (hslash : u.head? ≠ some '/') (rest : List Spec) :
    firstOf (trivia ++ rest) ('/' :: u)
      = firstOf (⟨Pattern.commentOpen, .comment, .push .comment⟩ :: rest) ('/' :: u) := by
  have hblanks : endOf? ⟨Pattern.blanks, .plain, .stay⟩ ('/' :: u) = none :=
    Regex.firstEnd?_eq_none rfl rfl _
  have hnewline : endOf? ⟨Pattern.newline, .plain, .stay⟩ ('/' :: u) = none :=
    endOf?_text_eq_none rfl rfl
  have hline : endOf? ⟨Pattern.lineComment, .comment, .stay⟩ ('/' :: u) = none :=
    Regex.firstEnd?_seq_text_eq_none (isPrefixOf_pair_eq_false fun _ => hslash) _
  rw [trivia, List.cons_append, List.cons_append, List.cons_append, List.cons_append,
    firstOf_cons_of_none hblanks, firstOf_cons_of_none hnewline, firstOf_cons_of_none hline]
  rfl

/-- outside literals an opener opens a comment -/
theorem choose_opener {s : State} (h : s ∈ [State.start, .afterValue, .comment]) (t : Text) :
    choose s ('/' :: '*' :: t) = some (⟨Pattern.commentOpen, .comment, .push .comment⟩, 2) := by
  have hopen : endOf? ⟨Pattern.commentOpen, .comment, .push .comment⟩ ('/' :: '*' :: t) = some 2 :=
    endOf?_text_append ['/', '*'] rfl t
  simp only [List.mem_cons, List.not_mem_nil, or_false] at h
  rcases h with rfl | rfl | rfl
  · rw [choose, rulesOf, startRules, List.append_assoc, firstOf_trivia_slash (by simp)]
    exact firstOf_cons_of_some hopen _
  · rw [choose, rulesOf, afterValueRules, List.append_assoc, firstOf_trivia_slash (by simp)]
    exact firstOf_cons_of_some hopen _
  · exact choose_open t

/-- a comment at the front of a text leads to where the reader finds its end -/
theorem run_opener {st : Stack} (h : st.top ∈ [State.start, .afterValue, .comment]) (t : Text) :
    ∃ ms, (∀ m ∈ ms, m.kind = .comment)
      ∧ table.Run st ('/' :: '*' :: t) ms
        (reached st ('/' :: '*' :: t) (nesting 0 ('/' :: '*' :: t))).1
        (reached st ('/' :: '*' :: t) (nesting 0 ('/' :: '*' :: t))).2 := by
  have hreached := reached_after st ['/', '*'] t (nesting (0 + 1) t)
  rw [nesting_open]
  refine run_cons (choose_opener h t) rfl ?_
  exact hreached ▸ run_comment st 0 t

/-- What the reader finds of a comment at the front of a text, the scan has too.  Up to the end of
the comment all tokens are comments, and what follows is scanned with the stack from before it.  A
comment that does not end leaves the open comments on the stack. -/
def Agrees (st : Stack) (t : Text) : Reading → Prop
  | .closed p =>
    (∃ ms, table.Run st t ms st (t.drop p) ∧ (∀ m ∈ ms, m.kind = .comment)
      ∧ scan t (some st) = ⟨layout 0 (ms.map Move.piece)
          ++ (scan (t.drop p) (some st)).tokens.map (·.shift (Text.bytes (t.take p))),
        (scan (t.drop p) (some st)).stack⟩)
      ∧ (scan (t.take p) (some st)).stack = st
  | .unclosed d =>
    (∀ token ∈ (scan t (some st)).tokens, token.kind = .comment)
      ∧ (scan t (some st)).stack.toList = st.toList ++ List.replicate d .comment

/-- Nested comments are matched as the reader matches them, whatever is on the stack. -/
theorem scan_comment {st : Stack} (h : st.top ∈ [State.start, .afterValue, .comment]) (t : Text) :
    Agrees st ('/' :: '*' :: t) (nesting 0 ('/' :: '*' :: t)) := by
  obtain ⟨ms, hms, run⟩ := run_opener h t
  cases hread : nesting 0 ('/' :: '*' :: t) with
  | closed p =>
    rw [hread] at run
    have hscan := run.scan_eq
    have hlex := run.lexemes_of_drop
    refine ⟨⟨ms, run, hms, ?_⟩, ?_⟩
    · rw [hlex] at hscan
      exact hscan
    · -- the comment alone is read like the whole
      obtain ⟨q, -, rfl⟩ : ∃ q, nesting 1 t = .closed q ∧ p = 2 + q :=
        closed_of_after (nesting_open 0 t ▸ hread)
      have htake := (nesting_take hread).2
      rw [Nat.add_comm 2 q, List.take_succ_cons, List.take_succ_cons] at htake ⊢
      obtain ⟨ms', -, run'⟩ := run_opener h (t.take q)
      have hdrop : ('/' :: '*' :: t.take q).drop (q + 2) = [] := by
        rw [List.drop_succ_cons, List.drop_succ_cons]
        exact List.drop_eq_nil_of_le (List.length_take_le q t)
      rw [htake, reached, hdrop] at run'
      exact congrArg Scanner.Scan.stack (RuleTable.scan_of_run run')
  | unclosed d =>
    rw [hread] at run
    have hscan : scan ('/' :: '*' :: t) (some st) = ⟨layout 0 (ms.map Move.piece), deeper st d⟩ :=
      RuleTable.scan_of_run run
    rw [Agrees, hscan]
    exact ⟨RuleTable.kind_of_mem_layout (P := (· = Kind.comment)) hms, toList_deeper st d⟩

theorem scan_comment_twice_open :
    Agrees ⟨.comment, [.afterValue]⟩ "/*/**/*/ */".toList (.closed 8) :=
  @scan_comment ⟨.comment, [.afterValue]⟩ (by decide) "/**/*/ */".toList

/-- Where a comment closes the tokens of the scan have a boundary.  Those in front of it are
comments, and behind them the stack is the one from before the comment. -/
theorem boundary_of_comment {st : Stack} (h : st.top ∈ [State.start, .afterValue, .comment])
    {t : Text} {p : Nat} (hread : nesting 0 ('/' :: '*' :: t) = .closed p) :
    ∃ tokens, table.Boundary st ('/' :: '*' :: t) p tokens st
      ∧ ∀ u ∈ tokens, u.kind = .comment := by
  obtain ⟨ms, hms, run⟩ := run_opener h t
  rw [hread] at run
  exact ⟨_, run.boundary, RuleTable.kind_of_mem_layout (P := (· = Kind.comment)) hms⟩

end Workbench.Riff
