import Workbench.Proofs.Riff.Forms
import Workbench.Proofs.Scanner.Declared
import Workbench.Proofs.Scanner.Run

/-!
# The moves of the scanner of Riff

The declarations are complete, so the table is the one that they build (`build_declarations`) and
its rules are those that were declared (`specs_rules`).  A move therefore depends on `choose` alone,
which goes through the declared rules and asks their expressions: `move_of_choose`.  The last rule
of a state matches everywhere, so there is always a choice (`exists_choose`).
-/

namespace Workbench.Riff

open Workbench.Pattern (Regex)
open Scanner (Action Move Rule RuleTable ScannerState StateStack)

/-! ## the table -/

theorem exists_last (s : State) :
    ∃ k a, (rulesOf s).getLast? = some ⟨Pattern.anything, k, a⟩ := by
  cases s <;> exact ⟨_, _, rfl⟩

/-- the rule that matches everywhere is the last of its state and no other -/
theorem anything_last : ∀ s ∈ State.all, ∀ spec ∈ (rulesOf s).dropLast,
    spec.pattern ≠ Pattern.anything := by
  decide

theorem form_anything : form Pattern.anything = Form.anything := rfl

/-- where a rule of the table matches, its expression says -/
theorem matchEnd?_eq_firstEnd? {s : State} {r : Rule State Kind} (h : r.toRuleSpec ∈ rulesOf s)
    (t : Text) : r.matchEnd? t = (form r.pattern).firstEnd? t := by
  have hr : r.regex = (form r.pattern).held := by
    have hp := r.parse_eq
    rw [parse_pattern h] at hp
    injection hp with hp
    exact hp.symm
  rw [r.matchEnd?_eq, hr, Regex.matchEnd?_held (few_pattern h)]

/-- the last rule of a state matches everywhere, and takes at most a character -/
theorem firstEnd?_anything (t : Text) : ∃ n, n ≤ 1 ∧ Form.anything.firstEnd? t = some n := by
  cases t with
  | nil => exact ⟨0, Nat.zero_le 1, rfl⟩
  | cons c t =>
    have h := Regex.firstEnd?_optional_set Form.notNewline c t
    by_cases hc : Form.notNewline.contains c = true
    · rw [if_pos hc] at h
      exact ⟨1, Nat.le_refl 1, h⟩
    · rw [if_neg hc] at h
      exact ⟨0, Nat.zero_le 1, h⟩

/-- some rules of a state compile, if the last of them is the one that matches everywhere -/
theorem exists_compileState_of_subset {s : State} {specs : List Spec}
    (hspecs : ∀ spec ∈ specs, spec ∈ rulesOf s) (hlast : specs.getLast? = (rulesOf s).getLast?) :
    ∃ rules : List (Rule State Kind), Scanner.compileState s specs = .ok rules := by
  obtain ⟨k, a, hanything⟩ := exists_last s
  rw [hanything] at hlast
  refine Scanner.exists_compileState s (fun spec hspec => ?_) hlast fun r hr => ?_
  · obtain ⟨r, hr, -⟩ := Scanner.RuleSpec.exists_compile (parse_pattern (hspecs spec hspec))
    exact ⟨r, hr⟩
  · have hmem : r.toRuleSpec ∈ rulesOf s := hr ▸ hspecs _ (List.mem_of_getLast? hlast)
    have hp : r.pattern = Pattern.anything := congrArg (·.pattern) hr
    obtain ⟨n, -, hn⟩ := firstEnd?_anything []
    rw [Rule.isFallback, matchEnd?_eq_firstEnd? hmem, hp, form_anything, hn]
    rfl

theorem table_eq {t : RuleTable State Kind} (h : RuleTable.build declarations = .ok t) :
    table = t := by
  rw [table, h]
  rfl

/-- the declarations build the table, in which each state has the rules declared for it -/
theorem build_declarations :
    RuleTable.build declarations = .ok table
      ∧ ∀ s, (table.rules s).map Rule.toRuleSpec = rulesOf s := by
  have hall : declarations = (ScannerState.all (S := State)).map fun s => (s, rulesOf s) := rfl
  obtain ⟨t, ht, hrules⟩ := RuleTable.build_complete rulesOf rfl
    fun s _ => exists_compileState_of_subset (fun _ h => h) rfl
  rw [← hall] at ht
  rw [table_eq ht]
  exact ⟨ht, fun s => hrules s s.all_index⟩

theorem specs_rules (s : State) : (table.rules s).map Rule.toRuleSpec = rulesOf s :=
  build_declarations.2 s

theorem mem_rulesOf {s : State} {r : Rule State Kind} (h : r ∈ table.rules s) :
    r.toRuleSpec ∈ rulesOf s := by
  rw [← specs_rules]
  exact List.mem_map_of_mem h

/-! ## choices -/

/-- where the match of a rule ends -/
def endOf? (spec : Spec) (t : Text) : Option Nat := (form spec.pattern).firstEnd? t

/-- the first of the rules that matches, and where its match ends -/
def firstOf (specs : List Spec) (t : Text) : Option (Spec × Nat) :=
  specs.findSome? fun spec => (endOf? spec t).map (spec, ·)

/-- the rule that a state has for a text, and where its match ends -/
def choose (s : State) (t : Text) : Option (Spec × Nat) := firstOf (rulesOf s) t

theorem endOf?_text_append {spec : Spec} (w : Text) (h : form spec.pattern = .text w) (t : Text) :
    endOf? spec (w ++ t) = some w.length := by
  have hw : w.isPrefixOf (w ++ t) = true :=
    List.isPrefixOf_iff_prefix.2 (List.prefix_append w t)
  rw [endOf?, h, Regex.firstEnd?_text, if_pos hw]

theorem endOf?_text_eq_none {spec : Spec} {w t : Text} (h : form spec.pattern = .text w)
    (hw : w.isPrefixOf t = false) : endOf? spec t = none := by
  rw [endOf?, h, Regex.firstEnd?_text, hw]
  rfl

theorem isPrefixOf_pair_eq_false {a b c : Char} {t : Text} (h : c = a → t.head? ≠ some b) :
    [a, b].isPrefixOf (c :: t) = false := by
  cases t with
  | nil => simp [List.isPrefixOf]
  | cons d t =>
    simp only [List.isPrefixOf, Bool.and_true, Bool.and_eq_false_imp, beq_iff_eq]
    rintro rfl
    exact beq_false_of_ne fun hd => h rfl (congrArg some hd.symm)

theorem firstOf_cons_of_none {spec : Spec} {t : Text} (h : endOf? spec t = none)
    (specs : List Spec) : firstOf (spec :: specs) t = firstOf specs t := by
  rw [firstOf, List.findSome?_cons, h]
  rfl

theorem firstOf_cons_of_some {spec : Spec} {t : Text} {n : Nat} (h : endOf? spec t = some n)
    (specs : List Spec) : firstOf (spec :: specs) t = some (spec, n) := by
  rw [firstOf, List.findSome?_cons, h]
  rfl

theorem firstOf_append_of_none {specs : List Spec} {t : Text} (h : ∀ x ∈ specs, endOf? x t = none)
    (specs' : List Spec) : firstOf (specs ++ specs') t = firstOf specs' t := by
  have hnone : firstOf specs t = none :=
    List.findSome?_eq_none_iff.2 fun x hx => Option.map_eq_none_iff.2 (h x hx)
  rw [firstOf, List.findSome?_append, ← firstOf, hnone, Option.none_or]
  rfl

/-- whether no match of a rule begins with one of the given characters -/
def misses (cs : Text) (spec : Spec) : Bool :=
  !(form spec.pattern).nullable && cs.all fun c => !(form spec.pattern).begins c

theorem firstOf_append_of_misses {cs : Text} {c : Char} {specs : List Spec}
    (h : specs.all (misses cs) = true) (hc : c ∈ cs) (specs' : List Spec) (t : Text) :
    firstOf (specs ++ specs') (c :: t) = firstOf specs' (c :: t) := by
  refine firstOf_append_of_none (fun spec hspec => ?_) specs'
  have hmisses := List.all_eq_true.1 h spec hspec
  rw [misses, Bool.and_eq_true, Bool.not_eq_true', List.all_eq_true] at hmisses
  obtain ⟨hnull, hbegins⟩ := hmisses
  exact Regex.firstEnd?_eq_none hnull (by simpa using hbegins c hc) t

/-- a chosen rule matches, and no rule in front of it does -/
theorem choose_eq_some {s : State} {t : Text} {spec : Spec} {n : Nat}
    (h : choose s t = some (spec, n)) :
    ∃ before after, rulesOf s = before ++ spec :: after ∧ endOf? spec t = some n
      ∧ ∀ x ∈ before, endOf? x t = none := by
  obtain ⟨before, x, after, hl, hx, hb⟩ := List.findSome?_eq_some_iff.1 h
  obtain ⟨m, hm, hxm⟩ := Option.map_eq_some_iff.1 hx
  injection hxm with hxs hmn
  subst hxs hmn
  exact ⟨before, after, hl, hm, fun y hy => Option.map_eq_none_iff.1 (hb y hy)⟩

theorem mem_of_choose {s : State} {t : Text} {spec : Spec} {n : Nat}
    (h : choose s t = some (spec, n)) : spec ∈ rulesOf s ∧ endOf? spec t = some n := by
  obtain ⟨before, after, hrules, hend, -⟩ := choose_eq_some h
  rw [hrules]
  exact ⟨List.mem_append_right _ List.mem_cons_self, hend⟩

/-- the last rule is chosen where all the others fail -/
theorem others_fail {s : State} {t : Text} {spec : Spec} {n : Nat}
    (h : choose s t = some (spec, n)) (hspec : spec.pattern = Pattern.anything) :
    ∀ x ∈ (rulesOf s).dropLast, endOf? x t = none := by
  obtain ⟨before, after, hrules, -, hbefore⟩ := choose_eq_some h
  have hall : s ∈ State.all := List.mem_of_getElem? s.all_index
  cases after with
  | nil =>
    rw [hrules, List.dropLast_concat]
    exact hbefore
  | cons y after =>
    have hmem : spec ∈ (rulesOf s).dropLast := by
      rw [hrules, List.dropLast_append_cons]
      exact List.mem_append_right _ (by rw [List.dropLast_cons_cons]; exact List.mem_cons_self)
    exact absurd hspec (anything_last s hall spec hmem)

theorem exists_choose (s : State) (t : Text) : ∃ spec n, choose s t = some (spec, n) := by
  obtain ⟨k, a, hlast⟩ := exists_last s
  have hmem := List.mem_of_getLast? hlast
  cases h : choose s t with
  | some p => exact ⟨p.1, p.2, rfl⟩
  | none =>
    -- the last rule would have matched
    obtain ⟨n, -, hn⟩ := firstEnd?_anything t
    have hnone := List.findSome?_eq_none_iff.1 h _ hmem
    rw [endOf?, form_anything, hn] at hnone
    cases hnone

/-- a match of the last rule takes a character in any case -/
theorem max_of_anything {spec : Spec} {t : Text} {n : Nat} (hspec : spec.pattern = Pattern.anything)
    (h : endOf? spec t = some n) : max 1 n = 1 := by
  obtain ⟨m, hm, hend⟩ := firstEnd?_anything t
  rw [endOf?, hspec, form_anything, hend] at h
  injection h with h
  omega

/-- a match of any other rule of which the empty text is no word passes a word -/
theorem spells_of_endOf? {spec : Spec} {t : Text} {n : Nat} (h : endOf? spec t = some n)
    (hnull : (form spec.pattern).nullable = false) :
    max 1 n = n ∧ (form spec.pattern).Spells (t.take n) := by
  obtain ⟨-, hspells⟩ := Regex.spells_of_firstEnd? h
  refine ⟨?_, hspells⟩
  have hn : n ≠ 0 := by
    rintro rfl
    rw [List.take_zero] at hspells
    rw [Regex.nullable_of_spells hspells] at hnull
    cases hnull
  omega

theorem select_eq_choose (s : State) (t : Text) :
    (table.select s t).map (Prod.map Rule.toRuleSpec id) = choose s t := by
  have h : ∀ rs : List (Rule State Kind), (∀ r ∈ rs, r.toRuleSpec ∈ rulesOf s) →
      (rs.findSome? fun r => (r.matchEnd? t).map (r, ·)).map (Prod.map Rule.toRuleSpec id)
        = firstOf (rs.map Rule.toRuleSpec) t := by
    intro rs hrs
    induction rs with
    | nil => rfl
    | cons r rs ih =>
      have hr : r.matchEnd? t = endOf? r.toRuleSpec t :=
        matchEnd?_eq_firstEnd? (hrs r List.mem_cons_self) t
      rw [List.findSome?_cons, hr, List.map_cons]
      cases he : endOf? r.toRuleSpec t with
      | none =>
        rw [firstOf_cons_of_none he]
        exact ih fun x hx => hrs x (List.mem_cons_of_mem _ hx)
      | some n =>
        rw [firstOf_cons_of_some he]
        rfl
  rw [choose, ← specs_rules s]
  exact h _ fun r hr => mem_rulesOf hr

/-! ## moves -/

/-- the move that a chosen rule makes; it takes at least a character -/
theorem move_of_choose {st : Stack} {c : Char} {t : Text} {spec : Spec} {n : Nat}
    (h : choose st.top (c :: t) = some (spec, n)) :
    table.move st c t = ⟨st, if n = 0 then .forced else .matched, spec.kind,
      (c :: t).take (max 1 n), spec.action⟩ := by
  rw [← select_eq_choose] at h
  obtain ⟨⟨r, m⟩, hsel, hrm⟩ := Option.map_eq_some_iff.1 h
  obtain ⟨rfl, rfl⟩ := Prod.mk.inj hrm
  exact RuleTable.move_of_select hsel

/-- the moves on a text that is not empty begin with that of a chosen rule -/
theorem exists_move (st : Stack) (c : Char) (t : Text) :
    ∃ spec n, choose st.top (c :: t) = some (spec, n)
      ∧ table.move st c t = ⟨st, if n = 0 then .forced else .matched, spec.kind,
        (c :: t).take (max 1 n), spec.action⟩ := by
  obtain ⟨spec, n, h⟩ := exists_choose st.top (c :: t)
  exact ⟨spec, n, h, move_of_choose h⟩

/-- the run of the move of a chosen rule -/
theorem run_of_choose {st : Stack} {c : Char} {t : Text} {spec : Spec} {n : Nat}
    (h : choose st.top (c :: t) = some (spec, n)) :
    table.Run st (c :: t) [table.move st c t] (st.apply spec.action)
      ((c :: t).drop (max 1 n)) := by
  rw [move_of_choose h]
  exact .single (move_of_choose h) (List.take_append_drop _ _).symm

/-! ## the first token -/

/-- the scan of a text begins with a token of a kind, which is the token of a lexeme -/
def FirstToken (st : Stack) (t : Text) (k : Kind) (x : Text) : Prop :=
  ∃ token ∈ (scan t (some st)).tokens.head?, token.kind = k ∧ token.text? t = some x

@[simp] theorem tokens_scan_nil (st : Stack) : (scan [] (some st)).tokens = [] := by
  rw [scan, RuleTable.scan, RuleTable.moves_nil]
  rfl

/-- a chosen rule makes the first token -/
theorem firstToken_of_choose {st : Stack} {c : Char} {t : Text} {spec : Spec} {n : Nat}
    (h : choose st.top (c :: t) = some (spec, n)) :
    FirstToken st (c :: t) spec.kind ((c :: t).take (max 1 n)) := by
  have hscan : scan (c :: t) (some st) = _ := (run_of_choose h).scan_eq
  refine ⟨⟨spec.kind, 0, 0 + Text.bytes ((c :: t).take (max 1 n))⟩, ?_, rfl, ?_⟩
  · rw [hscan, move_of_choose h]
    rfl
  · have hslice := Text.slice_append [] ((c :: t).take (max 1 n)) ((c :: t).drop (max 1 n))
    rwa [List.nil_append, List.take_append_drop] at hslice

theorem kind_of_mem_head? {st : Stack} {c : Char} {t : Text} {spec : Spec} {n : Nat}
    (h : choose st.top (c :: t) = some (spec, n)) {token : Scanner.Token Kind}
    (htoken : token ∈ (scan (c :: t) (some st)).tokens.head?) : token.kind = spec.kind := by
  obtain ⟨token', htoken', hkind, -⟩ := firstToken_of_choose h
  rw [← hkind, Option.mem_unique htoken htoken']

end Workbench.Riff
