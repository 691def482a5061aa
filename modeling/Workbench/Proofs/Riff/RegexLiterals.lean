import Workbench.Proofs.Pattern.Preferred
import Workbench.Proofs.Riff.Alphabet
import Workbench.Proofs.Riff.Closing
import Workbench.Proofs.Riff.Slash

/-!
# Regular expressions of Riff

A literal that closes on its line is one token; one that does not goes on in its own state, line by
line.  Both are recognised by the same items, an escaped character or one that needs no escape, and
`run_regexEnd` says what they make of a line: they go on to the slash that closes the literal, unless
a newline comes first.

Neither a newline nor a backslash in front of one is an item.  They are taken one by one by the last
rules, and the literal goes on.

* `scan_regex`          the moves of a scan through a literal;
* `boundary_of_regex`   its tokens up to the letters behind it.
-/

namespace Workbench.Riff

open Text (runLength)
open Workbench.Pattern (CharSet Cursor Regex)
open Workbench.Pattern.Regex (atEnd rounds)
open Scanner (Move RuleTable StateStack layout length_layout)

/-! ## items -/

/-- how many characters the first item of a text has, if there is one -/
def itemLength : Text → Nat
  | [] => 0
  | c :: t =>
    if c = '\\' then if t.head?.all (· == '\n') then 0 else 2
    else if c = '/' ∨ c = '\n' then 0 else 1

theorem itemLength_backslash (t : Text) :
    itemLength ('\\' :: t) = if t.head?.all (· == '\n') then 0 else 2 := rfl

theorem itemLength_other {c : Char} (hc : c ≠ '\\') (t : Text) :
    itemLength (c :: t) = if c = '/' ∨ c = '\n' then 0 else 1 := if_neg hc

/-- an escaped character -/
theorem ends_escaped {p : Cursor} {t : Text} (hp : p.rest = '\\' :: t) :
    (Regex.seq (.text ['\\']) (.set Form.notNewline)).ends p
      = if t.head?.all (· == '\n') then [] else [p.skip 2] := by
  have hback : ['\\'].isPrefixOf p.rest = true := by rw [hp]; rfl
  have hrest : (p.skip 1).rest = t := Cursor.rest_skip_one hp
  rw [Regex.ends, Regex.ends_text, if_pos hback, List.flatMap_singleton, List.length_singleton]
  cases t with
  | nil => exact Regex.ends_set_of_nil _ hrest
  | cons x u =>
    rw [Regex.ends_set_of_cons _ hrest, Cursor.skip_skip]
    by_cases hx : x = '\n'
    · rw [if_neg fun h => (contains_notNewline x).1 h hx, hx]
      rfl
    · rw [if_pos ((contains_notNewline x).2 hx)]
      exact (if_neg fun h => hx (eq_of_beq h)).symm

theorem ends_regexItem (p : Cursor) :
    Form.regexItem.ends p = if itemLength p.rest = 0 then [] else [p.skip (itemLength p.rest)] := by
  have hplain (c : Char) : (Form.noneOf ['\\', '/', '\n']).contains c = true
      ↔ ¬ c = '\\' ∧ ¬ (c = '/' ∨ c = '\n') := by
    rw [contains_noneOf, List.mem_cons, not_or, List.mem_cons, List.mem_singleton]
  rw [Form.regexItem, Regex.ends]
  cases hp : p.rest with
  | nil =>
    rw [Regex.ends_set_of_nil _ hp, Regex.ends, Regex.ends_text, hp]
    rfl
  | cons c t =>
    rw [Regex.ends_set_of_cons _ hp]
    by_cases hc : c = '\\'
    · subst hc
      rw [ends_escaped hp, if_neg (fun h => ((hplain _).1 h).1 rfl), itemLength_backslash,
        List.append_nil]
      split <;> rfl
    · have hback : ¬ ['\\'].isPrefixOf p.rest = true := by
        rw [hp, List.isPrefixOf_cons_cons, beq_false_of_ne (Ne.symm hc)]
        exact Bool.false_ne_true
      rw [Regex.ends, Regex.ends_text, if_neg hback, itemLength_other hc]
      by_cases hplain' : c = '/' ∨ c = '\n'
      · rw [if_neg (fun h => ((hplain c).1 h).2 hplain'), if_pos hplain']
        rfl
      · rw [if_pos ((hplain c).2 ⟨hc, hplain'⟩), if_neg hplain']
        rfl

/-- an item lies within the text, closes nothing and holds no newline -/
theorem take_itemLength (t : Text) : itemLength t ≤ t.length
    ∧ Passes '/' (t.take (itemLength t)) ∧ '\n' ∉ t.take (itemLength t) := by
  cases t with
  | nil => exact ⟨Nat.le_refl 0, passes_nil '/', List.not_mem_nil⟩
  | cons c t =>
    by_cases hc : c = '\\'
    · rw [hc, itemLength_backslash]
      split
      · exact ⟨Nat.zero_le _, passes_nil '/', List.not_mem_nil⟩
      · next h =>
        cases t with
        | nil => exact absurd rfl h
        | cons x u =>
          have hx : x ≠ '\n' := fun hx => h (by rw [hx]; rfl)
          refine ⟨by simp only [List.length_cons]; omega, passes_escaped (by decide) x, ?_⟩
          show '\n' ∉ ['\\', x]
          simpa using hx.symm
    · rw [itemLength_other hc]
      split
      · exact ⟨Nat.zero_le _, passes_nil '/', List.not_mem_nil⟩
      · next h =>
        rw [not_or] at h
        refine ⟨by simp only [List.length_cons]; omega, passes_of_not_mem ?_ ?_, ?_⟩
        · show '/' ∉ [c]
          simpa using Ne.symm h.1
        · show '\\' ∉ [c]
          simpa using Ne.symm hc
        · show '\n' ∉ [c]
          simpa using Ne.symm h.2

/-- the same of all items at the front of a text, behind which there is no further one -/
theorem take_rounds (t : Text) : rounds itemLength t ≤ t.length
    ∧ Passes '/' (t.take (rounds itemLength t)) ∧ '\n' ∉ t.take (rounds itemLength t)
    ∧ itemLength (t.drop (rounds itemLength t)) = 0 := by
  induction hn : t.length using Nat.strongRecOn generalizing t with
  | _ n ih =>
    subst hn
    by_cases hzero : itemLength t = 0
    · rw [Regex.rounds_of_eq_zero hzero]
      exact ⟨Nat.zero_le _, passes_nil '/', List.not_mem_nil, hzero⟩
    · obtain ⟨hle, hpasses, hline⟩ := take_itemLength t
      have hne : t ≠ [] := by
        rintro rfl
        exact hzero rfl
      have hlen : (t.drop (itemLength t)).length < t.length := by
        rw [List.length_drop]
        omega
      obtain ⟨hle', hpasses', hline', hend⟩ := ih _ hlen _ rfl
      rw [List.length_drop] at hle'
      rw [Regex.rounds_of_ne_zero hzero hne, List.take_add, ← List.drop_drop]
      exact ⟨by omega, hpasses.append hpasses',
        fun h => (List.mem_append.1 h).elim hline hline', hend⟩

/-! ## literals that close on their line -/

/-- where a literal that closes at `q` ends: behind the letters that follow the slash -/
def literalEnd (t : Text) (q : Nat) : Nat := q + 1 + runLength Text.isAsciiLetter (t.drop (q + 1))

/-- where a literal ends, if no newline comes before its closing slash -/
def lineEnd? (t : Text) : Option Nat :=
  (closing? '/' t).bind fun q => if '\n' ∈ t.take q then none else some (literalEnd t q)

/-- where there is no item and no slash, a newline comes before the next closing slash -/
theorem newline_mem_of_itemLength {c : Char} {t : Text} {q : Nat} (hitem : itemLength (c :: t) = 0)
    (hc : c ≠ '/') (hq : closing? '/' (c :: t) = some q) : '\n' ∈ (c :: t).take q := by
  have hslash := getElem?_of_closing hq
  cases q with
  | zero => exact absurd (Option.some.inj hslash) hc
  | succ q =>
    rw [List.take_succ_cons]
    by_cases hback : c = '\\'
    · rw [hback, itemLength_backslash] at hitem
      cases t with
      | nil => cases hslash
      | cons x u =>
        have hx : x = '\n' := by
          by_contra hx
          have hall : ¬ (x :: u).head?.all (· == '\n') = true := fun h => hx (eq_of_beq h)
          rw [if_neg hall] at hitem
          cases hitem
        cases q with
        | zero =>
          have hxs : x = '/' := Option.some.inj hslash
          exact absurd (hx.symm.trans hxs) (by decide)
        | succ q =>
          rw [List.take_succ_cons, hx]
          exact List.mem_cons_of_mem _ List.mem_cons_self
    · rw [itemLength_other hback] at hitem
      have hnewline : c = '\n' := by
        by_contra hne
        rw [if_neg (not_or.2 ⟨hc, hne⟩)] at hitem
        cases hitem
      rw [hnewline]
      exact List.mem_cons_self

/-- the items go on to the slash that closes the literal, unless a newline comes before it -/
theorem lineEnd?_eq (t : Text) : lineEnd? t
    = if (t.drop (rounds itemLength t)).head? = some '/' then
        some (literalEnd t (rounds itemLength t))
      else none := by
  obtain ⟨hle, hpasses, hline, hitem⟩ := take_rounds t
  have hclosing := closing?_of_passes hle hpasses
  rw [lineEnd?, hclosing]
  cases hrest : t.drop (rounds itemLength t) with
  | nil => rfl
  | cons c u =>
    rw [hrest] at hitem
    by_cases hc : c = '/'
    · subst hc
      rw [closing?_quote, Option.map_some, Option.bind_some, Nat.add_zero, if_neg hline,
        List.head?_cons, if_pos rfl]
    · rw [List.head?_cons, if_neg fun h => hc (Option.some.inj h), Option.bind_eq_none_iff]
      intro q hq
      obtain ⟨q', hq', rfl⟩ := Option.map_eq_some_iff.1 hq
      refine if_pos ?_
      rw [List.take_add, hrest]
      exact List.mem_append_right _ (newline_mem_of_itemLength hitem hc hq')

theorem isPrefixOf_singleton_iff (c : Char) (t : Text) :
    [c].isPrefixOf t = true ↔ t.head? = some c := by
  cases t with
  | nil => simp
  | cons d u => rw [List.isPrefixOf_cons_cons, List.head?_cons, List.isPrefixOf_nil_left,
      Bool.and_true, beq_iff_eq, Option.some.injEq, eq_comm]

theorem run_regexEnd (p : Cursor) :
    Form.regexEnd.run atEnd p = (lineEnd? p.rest).map (p.taken + ·) := by
  have hnext (q : Cursor) : (Regex.seq (.text ['/']) (Form.star Form.letter)).run atEnd q
      = if q.rest.head? = some '/' then
          some (q.taken + 1 + runLength Text.isAsciiLetter (q.rest.drop 1)) else none := by
    rw [Regex.run_seq, Regex.run_text, List.length_singleton, Form.star, Regex.run_star_atEnd,
      contains_letter]
    exact if_congr (isPrefixOf_singleton_iff '/' _) rfl rfl
  have hfails (q : Cursor) (hq : itemLength q.rest ≠ 0) :
      (Regex.seq (.text ['/']) (Form.star Form.letter)).run atEnd q = none := by
    rw [hnext]
    refine if_neg fun hslash => hq ?_
    rw [← List.cons_head?_tail hslash]
    rfl
  have hrun := Regex.run_rounds_of_fails (fun t => (take_itemLength t).1) ends_regexItem hfails p
  refine hrun.trans ?_
  rw [hnext, Cursor.rest_skip, lineEnd?_eq]
  split
  · rw [Option.map_some, literalEnd, Cursor.taken_skip, List.drop_drop]
    simp only [Nat.add_assoc]
  · rfl

theorem firstEnd?_regexEnd (t : Text) : Form.regexEnd.firstEnd? t = lineEnd? t := by
  rw [Regex.firstEnd?_eq_run, run_regexEnd]
  show (lineEnd? t).map (0 + ·) = lineEnd? t
  simp

theorem firstEnd?_regexWhole (t : Text) :
    (Regex.seq (.text ['/']) Form.regexEnd).firstEnd? ('/' :: t) = (lineEnd? t).map (1 + ·) := by
  have hstart : (Cursor.start ('/' :: t)).rest = '/' :: t := rfl
  rw [Regex.firstEnd?_eq_run, Regex.run_seq, Regex.run_text_of_cons hstart, run_regexEnd]
  rfl

theorem lineEnd?_slash (t : Text) : lineEnd? ('/' :: t) = some (literalEnd ('/' :: t) 0) := by
  rw [lineEnd?, closing?_quote]
  rfl

/-! ## the inside of a literal that goes on -/

theorem passes_of_items {w : Text} {least : Nat} {most : Option Nat}
    (h : (Regex.rep least most true Form.regexItem).Spells w) : Passes '/' w := by
  obtain ⟨us, hus, -, -, rfl⟩ := h
  refine passes_flatten fun u hu => ?_
  rcases hus u hu with ⟨a, b, rfl, ⟨x, -, rfl⟩, rfl⟩ | ⟨c, hc, rfl⟩
  · exact passes_escaped (by decide) x
  · rw [contains_noneOf] at hc
    simp only [List.mem_cons, List.not_mem_nil, or_false, not_or] at hc
    exact passes_of_not_mem (by simpa using Ne.symm hc.2.1) (by simpa using Ne.symm hc.1)

/-- where there are no items, there is not even one -/
theorem itemLength_of_firstEnd? {t : Text}
    (h : (Regex.rep 1 none true Form.regexItem).firstEnd? t = none) : itemLength t = 0 := by
  by_contra hitem
  have hends : (Regex.rep 1 none true Form.regexItem).ends (Cursor.start t)
      = Form.regexItems.ends ((Cursor.start t).skip (itemLength t)) := by
    show (Form.regexItem.ends (Cursor.start t)).flatMap Form.regexItems.ends = _
    rw [ends_regexItem]
    exact (congrArg (List.flatMap Form.regexItems.ends) (if_neg hitem)).trans
      (List.flatMap_singleton _ _)
  rw [Regex.firstEnd?, hends, Option.map_eq_none_iff, List.head?_eq_none_iff] at h
  exact Regex.ends_rep_ne_nil Form.regexItem _ h

/-- until the literal ends on its line, the moves stay inside -/
theorem stays_of_lineEnd? {c : Char} {t : Text} (h : lineEnd? (c :: t) = none) :
    Stays (· = .regex) .regex '/' (c :: t) := by
  obtain ⟨spec, n, hchoose⟩ := exists_choose .regex (c :: t)
  obtain ⟨hmem, hend⟩ := mem_of_choose hchoose
  have hlen : n ≤ (c :: t).length := (Regex.spells_of_firstEnd? hend).1
  have hslash : c ≠ '/' := by
    rintro rfl
    rw [lineEnd?_slash] at h
    cases h
  have hmem' : spec ∈ regexRules := hmem
  simp only [regexRules, List.mem_cons, List.not_mem_nil, or_false] at hmem'
  rcases hmem' with rfl | rfl | rfl | rfl
  · have hnone : endOf? ⟨Pattern.regexEnd, .regex, .goto .afterValue⟩ (c :: t) = none :=
      (firstEnd?_regexEnd _).trans h
    rw [hnone] at hend
    cases hend
  · obtain ⟨hmax, hspells⟩ := spells_of_endOf? hend rfl
    refine ⟨_, n, hchoose, rfl, rfl, ?_⟩
    rw [hmax]
    exact closing?_of_passes hlen (passes_of_items hspells)
  · obtain ⟨hmax, hspells⟩ := spells_of_endOf? hend rfl
    have htake : (c :: t).take n = ['\n'] := hspells
    refine ⟨_, n, hchoose, rfl, rfl, ?_⟩
    rw [hmax]
    refine closing?_of_passes hlen ?_
    rw [htake]
    exact passes_of_not_mem (by decide) (by decide)
  · have hothers := others_fail hchoose rfl
    refine ⟨_, n, hchoose, rfl, rfl, ?_⟩
    rw [max_of_anything rfl hend]
    refine closing?_single (by decide) hslash fun hback x hx => ?_
    -- a backslash that begins no item stands in front of a newline
    have hinside : (Regex.rep 1 none true Form.regexItem).firstEnd? (c :: t) = none :=
      hothers ⟨Pattern.regexInside, .regex, .stay⟩ (by decide)
    have hitem := itemLength_of_firstEnd? hinside
    rw [hback, itemLength_backslash] at hitem
    have hnewline : x = '\n' := by
      by_contra hne
      have hall : ¬ t.head?.all (· == '\n') = true := by
        rw [Option.mem_def.1 hx]
        exact fun h => hne (eq_of_beq h)
      rw [if_neg hall] at hitem
      cases hitem
    rw [hnewline]
    exact ⟨by decide, by decide⟩

/-! ## from the front of a literal to its end -/

/-- the end of a run from the front of a literal: behind the literal, where code goes on, or at the
end of the text, inside the literal -/
def EndsAt (st : Stack) (t : Text) (ms : List (Move State Kind)) : Option Nat → Prop
  | some e => table.Run st t ms (st.goto .afterValue) (t.drop e)
  | none => table.Run st t ms (st.goto .regex) []

theorem EndsAt.behind {st st' : Stack} {t : Text} {ms ms' : List (Move State Kind)} {d : Nat}
    {e : Option Nat} (run : table.Run st t ms st' (t.drop d)) (hst : ∀ s, st'.goto s = st.goto s)
    (h : EndsAt st' (t.drop d) ms' e) : EndsAt st t (ms ++ ms') (e.map (d + ·)) := by
  cases e with
  | none =>
    rw [EndsAt, hst] at h
    exact run.trans h
  | some e =>
    rw [EndsAt, hst, List.drop_drop] at h
    exact run.trans h

/-- the end of the literal, seen from a place that it passes -/
theorem map_literalEnd {t : Text} {d : Nat}
    (h : closing? '/' t = (closing? '/' (t.drop d)).map (d + ·)) :
    (closing? '/' t).map (literalEnd t)
      = ((closing? '/' (t.drop d)).map (literalEnd (t.drop d))).map (d + ·) := by
  rw [h, Option.map_map, Option.map_map]
  congr 1
  funext q
  show literalEnd t (d + q) = d + literalEnd (t.drop d) q
  rw [literalEnd, literalEnd, List.drop_drop, Nat.add_assoc d q 1]
  omega

theorem map_closing_of_lineEnd? {t : Text} {e : Nat} (he : lineEnd? t = some e) :
    (closing? '/' t).map (literalEnd t) = some e := by
  obtain ⟨q, hq, hline⟩ := Option.bind_eq_some_iff.1 he
  rw [hq]
  split at hline
  · cases hline
  · exact hline

/-- a literal of its own state that closes on the line -/
theorem run_line {st : Stack} (h : st.top = .regex) {t : Text} {e : Nat} (he : lineEnd? t = some e) :
    ∃ m, m.kind = .regex ∧ table.Run st t [m] (st.goto .afterValue) (t.drop e) := by
  cases t with
  | nil => cases he
  | cons c t =>
    have hend : endOf? ⟨Pattern.regexEnd, .regex, .goto .afterValue⟩ (c :: t) = some e :=
      (firstEnd?_regexEnd _).trans he
    have hchoose : choose .regex (c :: t) = some (_, e) := firstOf_cons_of_some hend _
    rw [← h] at hchoose
    have hrun := run_of_choose hchoose
    rw [(spells_of_endOf? hend rfl).1] at hrun
    exact ⟨_, by rw [move_of_choose hchoose], hrun⟩

/-- the scanner inside a literal goes on to where it closes, over any number of lines -/
theorem run_literal {st : Stack} (h : st.top = .regex) (t : Text) :
    ∃ ms, (∀ m ∈ ms, m.kind = .regex)
      ∧ EndsAt st t ms ((closing? '/' t).map (literalEnd t)) := by
  have hstep (c : Char) (u : Text) : (∃ e, lineEnd? (c :: u) = some e)
      ∨ Stays (· = .regex) st.top '/' (c :: u) := by
    cases he : lineEnd? (c :: u) with
    | some e => exact .inl ⟨e, rfl⟩
    | none => exact .inr (h ▸ stays_of_lineEnd? he)
  obtain ⟨ms, d, hms, run, hclosing, hend⟩ :=
    @run_inside _ (fun u => ∃ e, lineEnd? u = some e) st '/' hstep t
  rw [map_literalEnd hclosing]
  rcases hend with hend | ⟨e, he⟩
  · have hst : st.goto .regex = st := by rw [← h]; rfl
    rw [hend] at run ⊢
    exact ⟨ms, hms, hst.symm ▸ run⟩
  · obtain ⟨m, hm, hmove⟩ := run_line h he
    rw [map_closing_of_lineEnd? he]
    exact ⟨ms ++ [m], List.forall_mem_append.2 ⟨hms, by simpa using hm⟩,
      EndsAt.behind run (fun _ => rfl) (e := some e) hmove⟩

/-- where a literal can begin: inside one, or with a slash that begins no comment -/
inductive RegexFront : Stack → Text → Text → Prop
  | inside {st : Stack} (h : st.top = .regex) (body : Text) : RegexFront st [] body
  | opener {st : Stack} (h : st.top = .start) {body : Text} (hslash : body.head? ≠ some '/')
      (hstar : body.head? ≠ some '*') : RegexFront st ['/'] body

/-- a slash that begins no comment comes to the rules of regular expressions -/
theorem choose_start_eq {body : Text} (hslash : body.head? ≠ some '/')
    (hstar : body.head? ≠ some '*') : ∃ specs, choose .start ('/' :: body)
      = firstOf (⟨Pattern.regexWhole, .regex, .goto .afterValue⟩
        :: ⟨Pattern.regexOpen, .regex, .goto .regex⟩ :: specs) ('/' :: body) := by
  refine ⟨operandRules (.goto .afterValue) .stay, ?_⟩
  rw [choose, rulesOf, startRules, List.append_assoc, firstOf_trivia_eq hslash hstar]
  rfl

theorem run_front_line {st : Stack} {opener body : Text} (h : RegexFront st opener body) {e : Nat}
    (he : lineEnd? body = some e) : ∃ m, m.kind = .regex
      ∧ table.Run st (opener ++ body) [m] (st.goto .afterValue)
        ((opener ++ body).drop (opener.length + e)) := by
  cases h with
  | inside h _ =>
    obtain ⟨m, hm, run⟩ := run_line h he
    rw [List.length_nil, Nat.zero_add]
    exact ⟨m, hm, run⟩
  | opener h hslash hstar =>
    obtain ⟨specs, hspecs⟩ := choose_start_eq hslash hstar
    have hend : endOf? ⟨Pattern.regexWhole, .regex, .goto .afterValue⟩ ('/' :: body)
        = some (1 + e) := (firstEnd?_regexWhole body).trans (by rw [he, Option.map_some])
    have hchoose : choose st.top ('/' :: body) = some (_, 1 + e) :=
      h ▸ hspecs.trans (firstOf_cons_of_some hend _)
    have hrun := run_of_choose hchoose
    rw [(spells_of_endOf? hend rfl).1] at hrun
    exact ⟨_, by rw [move_of_choose hchoose], hrun⟩

theorem run_front {st : Stack} {opener body : Text} (h : RegexFront st opener body)
    (hline : lineEnd? body = none) : ∃ ms, (∀ m ∈ ms, m.kind = .regex)
      ∧ EndsAt st (opener ++ body) ms
        (((closing? '/' body).map (literalEnd body)).map (opener.length + ·)) := by
  cases h with
  | inside h _ =>
    simp only [List.nil_append, List.length_nil, Nat.zero_add, Option.map_id']
    exact run_literal h body
  | opener h hslash hstar =>
    obtain ⟨specs, hspecs⟩ := choose_start_eq hslash hstar
    have hwhole : endOf? ⟨Pattern.regexWhole, .regex, .goto .afterValue⟩ ('/' :: body) = none :=
      (firstEnd?_regexWhole body).trans (by rw [hline, Option.map_none])
    obtain ⟨n, hend⟩ : ∃ n,
        endOf? ⟨Pattern.regexOpen, .regex, .goto .regex⟩ ('/' :: body) = some n :=
      Regex.exists_firstEnd?_seq_text (Regex.ends_rep_ne_nil Form.regexItem) ['/'] body
    have hchoose : choose st.top ('/' :: body) = some (_, n) :=
      h ▸ hspecs.trans ((firstOf_cons_of_none hwhole _).trans (firstOf_cons_of_some hend _))
    have hopen := run_of_choose hchoose
    rw [(spells_of_endOf? hend rfl).1] at hopen
    -- the opener passes the slash and some items
    obtain ⟨hle, a, w, rfl, hw, htake⟩ := Regex.spells_of_firstEnd? hend
    obtain ⟨k, rfl⟩ : ∃ k, n = k + 1 := by
      cases n with
      | zero => cases htake
      | succ k => exact ⟨k, rfl⟩
    have hbody : body.take k = w := (List.cons.inj htake).2
    have hclosing := closing?_of_passes (Nat.le_of_succ_le_succ hle) (hbody ▸ passes_of_items hw)
    have hdrop : body.drop k = ('/' :: body).drop (k + 1) := rfl
    obtain ⟨ms, hms, hends⟩ := @run_literal (st.goto .regex) rfl (body.drop k)
    refine ⟨[table.move st '/' body] ++ ms, ?_, ?_⟩
    · rw [move_of_choose hchoose]
      exact List.forall_mem_append.2 ⟨by simp, hms⟩
    · have hfront := EndsAt.behind hopen (fun _ => rfl) hends
      rw [map_literalEnd hclosing, Option.map_map]
      have hadd : (fun e => ['/'].length + e) ∘ (fun e => k + e) = (fun e => k + 1 + e) := by
        funext e
        show 1 + (k + e) = k + 1 + e
        omega
      rw [hadd]
      exact hfront

/-- the scanner goes from the front of a literal to its end, by a single move if no newline comes
before the slash that closes it -/
theorem run_regex {st : Stack} {opener body : Text} (h : RegexFront st opener body) :
    ∃ ms, (∀ m ∈ ms, m.kind = .regex)
      ∧ EndsAt st (opener ++ body) ms
        (((closing? '/' body).map (literalEnd body)).map (opener.length + ·))
      ∧ ∀ q, closing? '/' body = some q → '\n' ∉ body.take q → ms.length = 1 := by
  cases he : lineEnd? body with
  | some e =>
    obtain ⟨m, hm, run⟩ := run_front_line h he
    rw [map_closing_of_lineEnd? he]
    exact ⟨[m], by simpa using hm, run, fun _ _ _ => rfl⟩
  | none =>
    obtain ⟨ms, hms, run⟩ := run_front h he
    refine ⟨ms, hms, run, fun q hq hline => ?_⟩
    rw [lineEnd?, hq, Option.bind_some, if_neg hline] at he
    cases he

/-! ## the whole literal -/

/-- What the scan has of a literal.  It is made of tokens of its kind up to the letters behind the
slash that closes it, and of a single one if no newline comes before that slash.  A literal that does
not close takes the whole text, and goes on in the next. -/
def AgreesRegex (st : Stack) (opener body : Text) : Option Nat → Prop
  | some q => ∃ ms, (∀ m ∈ ms, m.kind = .regex)
      ∧ Reaches st (opener ++ body) ms (st.goto .afterValue) (opener.length + literalEnd body q)
      ∧ ('\n' ∉ body.take q → ms.length = 1)
  | none => (∀ token ∈ (scan (opener ++ body) (some st)).tokens, token.kind = .regex)
      ∧ (scan (opener ++ body) (some st)).stack = st.goto .regex

/-- A regular expression goes on to the slash that closes it, on one line or many. -/
theorem scan_regex {st : Stack} {opener body : Text} (h : RegexFront st opener body) :
    AgreesRegex st opener body (closing? '/' body) := by
  obtain ⟨ms, hms, run, hsingle⟩ := run_regex h
  cases hq : closing? '/' body with
  | some q =>
    rw [hq] at run
    exact ⟨ms, hms, reaches_of_run run, hsingle q hq⟩
  | none =>
    rw [hq] at run
    have hscan : scan (opener ++ body) (some st)
        = ⟨layout 0 (ms.map Move.piece), st.goto .regex⟩ := RuleTable.scan_of_run run
    rw [AgreesRegex, hscan]
    exact ⟨RuleTable.kind_of_mem_layout (P := (· = Kind.regex)) hms, rfl⟩

theorem scan_regex_over_escaped_newline :
    AgreesRegex ⟨.start, [.comment]⟩ ['/'] "a\\/\\\nb/gi+".toList (some 6) :=
  @scan_regex ⟨.start, [.comment]⟩ ['/'] "a\\/\\\nb/gi+".toList
    (.opener rfl (by decide) (by decide))

/-- The tokens of the scan have a boundary behind the letters of a literal that closes; those in
front of it are of its kind, and there is only one if no newline comes before the slash. -/
theorem boundary_of_regex {st : Stack} {opener body : Text} (h : RegexFront st opener body)
    {q : Nat} (hq : closing? '/' body = some q) :
    ∃ tokens, (∀ u ∈ tokens, u.kind = .regex)
      ∧ table.Boundary st (opener ++ body) (opener.length + literalEnd body q) tokens
        (st.goto .afterValue)
      ∧ ('\n' ∉ body.take q → ∃ u, tokens = [u]) := by
  obtain ⟨ms, hms, run, hsingle⟩ := run_regex h
  rw [hq] at run
  refine ⟨_, RuleTable.kind_of_mem_layout (P := (· = Kind.regex)) hms,
    run.boundary, fun hline => List.length_eq_one_iff.1 ?_⟩
  rw [length_layout, List.length_map]
  exact hsingle q hq hline

end Workbench.Riff
