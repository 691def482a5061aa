import Workbench.Proofs.Pattern.Preferred
import Workbench.Proofs.Riff.Closing
import Workbench.Proofs.Riff.Lexemes

/-!
# Strings and characters of Riff

A literal in quotes goes on to the quote that closes it, whatever stands in between: escapes of any
length, format specifiers, newlines, and backslashes that escape nothing.  The rules are looked at
once (`rules_of_quoted`): each but the one of the quote stays inside the literal, and what it matches
is an escape, or free of quotes and backslashes, or a single character.

* `scan_quoted`          the moves of a scan through a literal;
* `boundary_of_quoted`   its tokens, of which the closing quote is one by itself.
-/

namespace Workbench.Riff

open Workbench.Pattern (CharSet Cursor Regex)
open Scanner (Move RuleTable layout layout_append layout_cons layout_nil)

/-! ## the literals -/

inductive Quoted where
  | string
  | char
  deriving DecidableEq, Repr

namespace Quoted

def state : Quoted → State
  | string => .string
  | char => .char

def kind : Quoted → Kind
  | string => .string
  | char => .char

def quote : Quoted → Char
  | string => '"'
  | char => '\''

/-- the rule that ends a literal -/
def closer (l : Quoted) : Spec := ⟨String.singleton l.quote, l.kind, .goto .afterValue⟩

theorem quote_ne_backslash (l : Quoted) : l.quote ≠ '\\' := by cases l <;> decide

theorem form_closer (l : Quoted) : form l.closer.pattern = .text [l.quote] := by
  cases l <;> rfl

end Quoted

/-! ## escapes -/

section
variable (l : Quoted)

/-- a backslash with what it escapes, and more of which none is a quote or a backslash -/
theorem passes_of_pair {r : Regex} {x : Char} {w : Text} (hr : r.avoids l.quote = true)
    (hr' : r.avoids '\\' = true) (h : (Regex.seq (.text ['\\', x]) r).Spells w) :
    Passes l.quote w := by
  obtain ⟨u, v, rfl, hv, rfl⟩ := h
  exact (passes_escaped l.quote_ne_backslash x).append
    (passes_of_not_mem (Regex.not_mem_of_spells hr hv) (Regex.not_mem_of_spells hr' hv))

theorem passes_of_escape {w : Text} (h : Form.escape.Spells w) : Passes l.quote w := by
  have hhex : (Form.upTo 2 Form.hexDigit).avoids l.quote = true := by cases l <;> decide
  have hoctal : (Form.upTo 3 Form.octalDigit).avoids l.quote = true := by cases l <;> decide
  rcases h with ⟨u, v, rfl, ⟨x, -, rfl⟩, rfl⟩ | h | ⟨u, v, rfl, hv, rfl⟩
  · exact passes_escaped l.quote_ne_backslash x
  · exact passes_of_pair l hhex (by decide) h
  · have hquote := Regex.not_mem_of_spells hoctal hv
    have hback := Regex.not_mem_of_spells (c := '\\') rfl hv
    cases v with
    | nil => exact absurd (Regex.nullable_of_spells hv) (by decide)
    | cons x v =>
      have hv : Passes l.quote v := passes_of_not_mem
        (fun h => hquote (List.mem_cons_of_mem x h)) fun h => hback (List.mem_cons_of_mem x h)
      exact (passes_escaped l.quote_ne_backslash x).append hv

theorem passes_of_unicodeEscape {w : Text} (h : Form.unicodeEscape.Spells w) :
    Passes l.quote w := by
  have hhex : ∀ n, (Form.upTo n Form.hexDigit).avoids l.quote = true := by
    intro n
    cases l <;> rfl
  rcases h with h | h
  · exact passes_of_pair l (hhex 4) (by decide) h
  · exact passes_of_pair l (hhex 8) (by decide) h

end

/-- a backslash in front of a quote or of another backslash begins an escape -/
theorem firstEnd?_escape {x : Char} (hx : (Form.oneOf "\\abefnrtv'\"".toList).contains x = true)
    (t : Text) : Form.escape.firstEnd? ('\\' :: x :: t) = some 2 := by
  have hstart : (Cursor.start ('\\' :: x :: t)).rest = '\\' :: x :: t := rfl
  have hrest : ((Cursor.start ('\\' :: x :: t)).skip 1).rest = x :: t := rfl
  rw [Regex.firstEnd?_eq_run, Form.escape, Regex.run_fork, List.findSome?_cons, Regex.run_seq,
    Regex.run_text_of_cons hstart, Regex.run_set_of_cons _ hrest, if_pos hx]
  rfl

/-! ## the rules inside quotes -/

theorem rules_of_quoted : ∀ l : Quoted, ∀ spec ∈ rulesOf l.state, spec = l.closer
    ∨ spec.action = .stay ∧ spec.kind ∈ [l.kind, .attribute] ∧ (spec.pattern = Pattern.anything
      ∨ (form spec.pattern).nullable = false ∧ (spec.pattern = Pattern.escape
        ∨ spec.pattern = Pattern.unicodeEscape
        ∨ (form spec.pattern).avoids l.quote = true ∧ (form spec.pattern).avoids '\\' = true)) := by
  intro l
  cases l <;> decide

theorem escape_mem (l : Quoted) :
    ⟨Pattern.escape, .attribute, .stay⟩ ∈ (rulesOf l.state).dropLast := by
  cases l <;> decide

/-- the rules in front of that of the closing quote do not match it -/
theorem choose_closer (l : Quoted) (t : Text) :
    choose l.state (l.quote :: t) = some (l.closer, 1) := by
  obtain ⟨before, after, hrules, hbefore⟩ : ∃ before after,
      rulesOf l.state = before ++ (l.closer :: after)
        ∧ before.all (misses [l.quote]) = true := by
    cases l
    · exact ⟨stringRules.take 3, stringRules.drop 4, rfl, by decide⟩
    · exact ⟨charRules.take 2, charRules.drop 3, rfl, by decide⟩
  rw [choose, hrules, firstOf_append_of_misses hbefore List.mem_cons_self]
  exact firstOf_cons_of_some (endOf?_text_append [l.quote] l.form_closer t) _

/-- a backslash that the last rule takes escapes nothing, or the rule of escapes would have taken
it -/
theorem lone_of_others_fail {l : Quoted} {t : Text}
    (h : ∀ x ∈ (rulesOf l.state).dropLast, endOf? x ('\\' :: t) = none) :
    ∀ x ∈ t.head?, x ≠ l.quote ∧ x ≠ '\\' := by
  intro x hx
  have hescape : ¬ (Form.oneOf "\\abefnrtv'\"".toList).contains x = true := by
    intro hx'
    have hfail := h _ (escape_mem l)
    rw [← List.cons_head?_tail hx] at hfail
    have hend : endOf? ⟨Pattern.escape, .attribute, .stay⟩ ('\\' :: x :: t.tail) = some 2 :=
      firstEnd?_escape hx' t.tail
    rw [hend] at hfail
    cases hfail
  constructor
  · rintro rfl
    exact hescape (by cases l <;> decide)
  · rintro rfl
    exact hescape (by decide)

/-- any other character is taken by a move that stays inside -/
theorem stays_of_ne (l : Quoted) {c : Char} (hc : c ≠ l.quote) (t : Text) :
    Stays (· ∈ [l.kind, .attribute]) l.state l.quote (c :: t) := by
  obtain ⟨spec, n, hchoose⟩ := exists_choose l.state (c :: t)
  obtain ⟨hmem, hend⟩ := mem_of_choose hchoose
  rcases rules_of_quoted l spec hmem with rfl | ⟨hstay, hkind, hlast | ⟨hnull, hpattern⟩⟩
  · have hprefix : [l.quote].isPrefixOf (c :: t) = false := by
      rw [List.isPrefixOf_cons_cons, beq_false_of_ne hc.symm, Bool.false_and]
    rw [endOf?_text_eq_none l.form_closer hprefix] at hend
    cases hend
  · have hclosing := closing?_single l.quote_ne_backslash hc fun hback =>
      lone_of_others_fail (hback ▸ others_fail hchoose hlast)
    refine ⟨spec, n, hchoose, hkind, hstay, ?_⟩
    rw [max_of_anything hlast hend]
    exact hclosing
  · obtain ⟨hmax, hspells⟩ := spells_of_endOf? hend hnull
    have hlen : n ≤ (c :: t).length := (Regex.spells_of_firstEnd? hend).1
    have hpasses : Passes l.quote ((c :: t).take n) := by
      rcases hpattern with hp | hp | ⟨hquote, hback⟩
      · rw [hp] at hspells
        exact passes_of_escape l hspells
      · rw [hp] at hspells
        exact passes_of_unicodeEscape l hspells
      · exact passes_of_not_mem (Regex.not_mem_of_spells hquote hspells)
          (Regex.not_mem_of_spells hback hspells)
    refine ⟨spec, n, hchoose, hkind, hstay, ?_⟩
    rw [hmax]
    exact closing?_of_passes hlen hpasses

/-! ## the whole literal -/

/-- the end of a run through the inside of a literal: at the quote that closes it, which is a move
of its own and leads back to code, or at the end of the text -/
def Quoted.EndsAt (l : Quoted) (st : Stack) (t : Text) (inside : List (Move State Kind)) :
    Option Nat → Prop
  | some q => table.Run st t inside st (t.drop q)
      ∧ ∃ m, m.kind = l.kind ∧ m.lexeme = [l.quote]
        ∧ table.Run st (t.drop q) [m] (st.goto .afterValue) (t.drop (q + 1))
  | none => table.Run st t inside st []

/-- the scanner inside a literal goes on to the quote that closes it -/
theorem run_quoted (l : Quoted) {st : Stack} (h : st.top = l.state) (t : Text) :
    ∃ inside, (∀ m ∈ inside, m.kind = l.kind ∨ m.kind = .attribute)
      ∧ l.EndsAt st t inside (closing? l.quote t) := by
  have hstep : ∀ c u, (c :: u).head? = some l.quote
      ∨ Stays (fun k => k = l.kind ∨ k = .attribute) st.top l.quote (c :: u) := by
    intro c u
    by_cases hc : c = l.quote
    · exact .inl (congrArg some hc)
    · have hstays := stays_of_ne l hc u
      simp only [List.mem_cons, List.not_mem_nil, or_false] at hstays
      exact .inr (h ▸ hstays)
  obtain ⟨inside, d, hinside, run, hclosing, hend⟩ :=
    @run_inside _ (fun u => u.head? = some l.quote) st l.quote hstep t
  refine ⟨inside, hinside, ?_⟩
  rcases hend with hend | hend
  · rw [hend] at run hclosing
    rw [closing?_nil, Option.map_none] at hclosing
    rw [hclosing]
    exact run
  · obtain ⟨u, hdrop⟩ : ∃ u, t.drop d = l.quote :: u := ⟨_, (List.cons_head?_tail hend).symm⟩
    have hchoose : choose st.top (l.quote :: u) = some (l.closer, 1) := h ▸ choose_closer l u
    have hmove := run_of_choose hchoose
    have hrest : (l.quote :: u).drop (max 1 1) = t.drop (d + 1) := by
      rw [← hdrop, List.drop_drop, Nat.max_self]
    rw [hrest, ← hdrop] at hmove
    rw [hdrop, closing?_quote, Option.map_some, Nat.add_zero] at hclosing
    rw [hclosing]
    refine ⟨run, table.move st l.quote u, ?_, ?_, hmove⟩
    · rw [move_of_choose hchoose]
      rfl
    · rw [move_of_choose hchoose]
      rfl

/-- What the scan has of a literal, if its inside is at the front of the text.  Where the literal
closes, the quote is a token of its own, and code goes on behind it.  One that does not close takes
the whole text. -/
def Quoted.Agrees (l : Quoted) (st : Stack) (t : Text) : Option Nat → Prop
  | some q => ∃ inside m, (∀ x ∈ inside, x.kind = l.kind ∨ x.kind = .attribute)
      ∧ m.kind = l.kind ∧ m.lexeme = [l.quote] ∧ Reaches st t inside st q
      ∧ Reaches st t (inside ++ [m]) (st.goto .afterValue) (q + 1)
  | none => (∀ token ∈ (scan t (some st)).tokens, token.kind = l.kind ∨ token.kind = .attribute)
      ∧ (scan t (some st)).stack = st

/-- A literal goes on to the quote that closes it. -/
theorem scan_quoted (l : Quoted) {st : Stack} (h : st.top = l.state) (t : Text) :
    l.Agrees st t (closing? l.quote t) := by
  obtain ⟨inside, hinside, run⟩ := run_quoted l h t
  cases hq : closing? l.quote t with
  | some q =>
    rw [hq] at run
    obtain ⟨run, m, hkind, hlexeme, hquote⟩ := run
    exact ⟨inside, m, hinside, hkind, hlexeme, reaches_of_run run,
      reaches_of_run (run.trans hquote)⟩
  | none =>
    rw [hq] at run
    have hscan : scan t (some st) = ⟨layout 0 (inside.map Move.piece), st⟩ :=
      RuleTable.scan_of_run run
    rw [Quoted.Agrees, hscan]
    exact ⟨RuleTable.kind_of_mem_layout (P := fun k => k = l.kind ∨ k = .attribute) hinside, rfl⟩

theorem scan_quoted_behind_backslashes :
    Quoted.string.Agrees ⟨.string, [.start]⟩ "\\\"%s\\\\\"x".toList (some 6) :=
  @scan_quoted .string ⟨.string, [.start]⟩ rfl "\\\"%s\\\\\"x".toList

/-- The tokens of the scan have a boundary on each side of the quote that closes a literal, and
between the two there is one token. -/
theorem boundary_of_quoted (l : Quoted) {st : Stack} (h : st.top = l.state) {t : Text} {q : Nat}
    (hq : closing? l.quote t = some q) :
    ∃ inside, (∀ u ∈ inside, u.kind = l.kind ∨ u.kind = .attribute)
      ∧ table.Boundary st t q inside st
      ∧ table.Boundary st t (q + 1)
        (inside ++ [⟨l.kind, Text.bytes (t.take q), Text.bytes (t.take q) + 1⟩])
        (st.goto .afterValue) := by
  obtain ⟨ms, hms, run⟩ := run_quoted l h t
  rw [hq] at run
  obtain ⟨run, m, hkind, hlexeme, hquote⟩ := run
  refine ⟨_, RuleTable.kind_of_mem_layout (P := fun k => k = l.kind ∨ k = .attribute) hms,
    run.boundary, ?_⟩
  have hclosed := (run.trans hquote).boundary
  have hbytes : Text.bytes [l.quote] = 1 := by cases l <;> rfl
  rw [List.map_append, layout_append, RuleTable.flatten_pieces_eq_lexemes, run.lexemes_of_drop,
    List.map_singleton, Move.piece, hkind, hlexeme, layout_cons, layout_nil, hbytes,
    Nat.zero_add] at hclosed
  exact hclosed

end Workbench.Riff
