import Workbench.Proofs.Riff.Comments
import Workbench.Proofs.Riff.Lexemes

/-!
# Divisions and regular expressions

Behind a value a slash divides, elsewhere it opens a regular expression.  Whether a value stands to
the left is read off the tokens by `valueBefore`, and the scanner's stack says the same at every
boundary: `Sound` is what one move keeps (`sound_move`) and so a run (`sound_run`).

A stack of a scan from a fresh stack is the position in code with the comments that are open in
front of it, or the inside of one literal.

* `slash_of_tokens`   what becomes of a slash, for every cut between the moves of a scan;
* `slash_of_scan`     the same for every cut between its tokens, and what they show of the text.
-/

namespace Workbench.Riff

open Workbench.Pattern (CharSet Regex)
open Scanner (Action Move RuleTable StateStack Token)

/-! ## what the tokens say -/

/-- whether a value ends where a token does, if it is known whether one ends in front of the token;
`blank` and `closer` say what the lexeme of the token is -/
def leads (value blank closer : Bool) : Kind → Bool
  | .comment => value
  | .plain => if blank then value else closer
  | .string | .char | .regex => true
  | .number | .builtin | .atom | .identifier => closer || !value
  | .operator | .keyword | .attribute => closer

def valueAfter (value : Bool) (k : Kind) (x : Text) : Bool :=
  leads value (x.all Text.isBlank) (isCloser x) k

/-- whether a value ends where a list of tokens does, given by their kinds and lexemes -/
def valueFrom (value : Bool) (tokens : List (Kind × Text)) : Bool :=
  tokens.foldl (fun v p => valueAfter v p.1 p.2) value

/-- the same at the start of a text, where no value is -/
def valueBefore (tokens : List (Kind × Text)) : Bool := valueFrom false tokens

@[simp] theorem valueBefore_nil : valueBefore [] = false := rfl

@[simp] theorem valueBefore_concat (tokens : List (Kind × Text)) (k : Kind) (x : Text) :
    valueBefore (tokens ++ [(k, x)]) = valueAfter (valueBefore tokens) k x := by
  rw [valueBefore, valueFrom, List.foldl_append]
  rfl

/-- only for plain text it matters whether it is blank -/
theorem leads_congr {k : Kind} {blank blank' : Bool} (h : k = .plain → blank = blank')
    (value closer : Bool) : leads value blank closer k = leads value blank' closer k := by
  cases k with
  | plain => rw [h rfl]
  | _ => rfl

/-! ## what the stack says -/

def literals : List State := [.string, .char, .regex]

/-- what the stacks of a scan from a fresh stack are, with what the tokens say there -/
inductive Sound : Stack → Bool → Prop
  | code (value : Bool) (comments : Nat) : Sound (deeper ⟨position value, []⟩ comments) value
  | literal {s : State} (hs : s ∈ literals) (value : Bool) : Sound ⟨s, []⟩ value

theorem sound_fresh : Sound .fresh false := .code false 0

/-- outside comments and literals the stack is the position that the tokens give -/
theorem Sound.stack_eq {st : Stack} {value : Bool} (h : Sound st value)
    (htop : st.top ∈ [State.start, .afterValue]) : st = ⟨position value, []⟩ := by
  cases h with
  | code _ comments =>
    cases comments with
    | zero => rfl
    | succ n =>
      have hc : State.comment ∈ [State.start, .afterValue] := htop
      exact absurd hc (by decide)
  | @literal s hs _ =>
    have hs' : s ∈ [State.start, .afterValue] := htop
    cases s <;> first | exact absurd hs (by decide) | exact absurd hs' (by decide)

/-! ## what a rule does -/

/-- whether an action keeps a position in code sound -/
def settles (value value' : Bool) : Action State → Bool
  | .stay => value' == value
  | .goto s => s == position value' || literals.contains s
  | .push s => s == .comment && value' == value
  | .pop => false

theorem sound_of_settles {value value' : Bool} {a : Action State}
    (h : settles value value' a = true) :
    Sound (StateStack.apply ⟨position value, []⟩ a) value' := by
  cases a with
  | stay =>
    rw [settles, beq_iff_eq] at h
    rw [h]
    exact .code value 0
  | goto s =>
    rw [settles, Bool.or_eq_true, beq_iff_eq, List.contains_iff_mem] at h
    rcases h with rfl | h
    · exact .code value' 0
    · exact .literal h value'
  | push s =>
    rw [settles, Bool.and_eq_true, beq_iff_eq, beq_iff_eq] at h
    obtain ⟨rfl, rfl⟩ := h
    exact .code value' 1
  | pop => cases h

/-- each rule of code does what its kind says, if its lexeme is what its pattern promises -/
theorem settles_rules : ∀ value, ∀ spec ∈ rulesOf (position value),
    settles value (leads value (spec.pattern != Pattern.anything)
      (spec.pattern == Pattern.closer) spec.kind) spec.action = true := by
  decide +kernel

theorem comment_rules : ∀ spec ∈ commentRules,
    spec.kind = .comment ∧ spec.action ∈ [.stay, .pop, .push .comment] := by
  decide +kernel

theorem literal_rules : ∀ s ∈ literals, ∀ spec ∈ rulesOf s,
    spec.action = .stay
      ∨ spec.action = .goto .afterValue ∧ spec.kind ∈ [.string, .char, .regex] := by
  decide +kernel

/-! ## moves and runs -/

/-- a move keeps the stack and the tokens together -/
theorem sound_move {st : Stack} {value : Bool} (h : Sound st value) (c : Char) (t : Text) :
    Sound (table.move st c t).after
      (valueAfter value (table.move st c t).kind (table.move st c t).lexeme) := by
  obtain ⟨spec, n, hchoose, hmove⟩ := exists_move st c t
  obtain ⟨hmem, -⟩ := mem_of_choose hchoose
  rw [hmove]
  show Sound (st.apply spec.action) (valueAfter value spec.kind ((c :: t).take (max 1 n)))
  cases h with
  | code _ comments =>
    cases comments with
    | zero =>
      have hchoose : choose (position value) (c :: t) = some (spec, n) := hchoose
      have hsettles := settles_rules value spec hmem
      rw [valueAfter, isCloser_of_choose hchoose,
        leads_congr (isBlank_of_choose hchoose) value _]
      exact sound_of_settles hsettles
    | succ comments =>
      have hmem : spec ∈ commentRules := hmem
      obtain ⟨hkind, haction⟩ := comment_rules spec hmem
      rw [hkind]
      simp only [List.mem_cons, List.not_mem_nil, or_false] at haction
      rcases haction with ha | ha | ha
      · rw [ha]; exact .code value (comments + 1)
      · rw [ha]; exact .code value comments
      · rw [ha]; exact .code value (comments + 2)
  | @literal s hs _ =>
    have hmem : spec ∈ rulesOf s := hmem
    rcases literal_rules s hs spec hmem with ha | ⟨ha, hkind⟩
    · rw [ha]; exact .literal hs _
    · have hvalue : ∀ x, valueAfter value spec.kind x = true := by
        intro x
        simp only [List.mem_cons, List.not_mem_nil, or_false] at hkind
        rcases hkind with hk | hk | hk <;> (rw [hk]; rfl)
      rw [ha, hvalue]
      exact .code true 0

theorem sound_run {st st' : Stack} {value : Bool} {t t' : Text} {ms : List (Move State Kind)}
    (h : Sound st value) (run : table.Run st t ms st' t') :
    Sound st' (valueFrom value (ms.map Move.piece)) := by
  induction run generalizing value with
  | done => exact h
  | @move st st' c t rest t' m ms hm _ _ ih =>
    have hstep := sound_move h c t
    rw [hm] at hstep
    exact ih hstep

/-! ## slashes -/

/-- code has no rule for a slash before the rules of its position -/
theorem firstOf_trivia_eq {u : Text} (hslash : u.head? ≠ some '/') (hstar : u.head? ≠ some '*')
    (rest : List Spec) : firstOf (trivia ++ rest) ('/' :: u) = firstOf rest ('/' :: u) := by
  rw [firstOf_trivia_slash hslash,
    firstOf_cons_of_none (endOf?_text_eq_none rfl (isPrefixOf_pair_eq_false fun _ => hstar))]

/-- where an operand is expected a slash begins a regular expression -/
theorem choose_start_slash {u : Text} (hslash : u.head? ≠ some '/') (hstar : u.head? ≠ some '*') :
    ∃ spec n, choose .start ('/' :: u) = some (spec, n) ∧ spec.kind = .regex := by
  have hopen : ∃ n, endOf? ⟨Pattern.regexOpen, .regex, .goto .regex⟩ ('/' :: u) = some n :=
    Regex.exists_firstEnd?_seq_text (Regex.ends_rep_ne_nil Form.regexItem) ['/'] u
  rw [choose, rulesOf, startRules, List.append_assoc,
    firstOf_trivia_eq hslash hstar, List.cons_append]
  cases hwhole : endOf? ⟨Pattern.regexWhole, .regex, .goto .afterValue⟩ ('/' :: u) with
  | some n => exact ⟨_, n, firstOf_cons_of_some hwhole _, rfl⟩
  | none =>
    obtain ⟨n, hn⟩ := hopen
    rw [firstOf_cons_of_none hwhole, List.cons_append]
    exact ⟨_, n, firstOf_cons_of_some hn _, rfl⟩

/-- behind a value a slash is an operator, alone or with an equals sign -/
theorem choose_afterValue_slash {u : Text} (hslash : u.head? ≠ some '/')
    (hstar : u.head? ≠ some '*') :
    ∃ spec n, choose .afterValue ('/' :: u) = some (spec, n) ∧ spec.kind = .operator
      ∧ (('/' :: u).take (max 1 n) = ['/'] ∨ ('/' :: u).take (max 1 n) = ['/', '=']) := by
  rw [choose, rulesOf, afterValueRules, List.append_assoc,
    firstOf_trivia_eq hslash hstar, List.cons_append]
  by_cases heq : u.head? = some '='
  · obtain ⟨v, rfl⟩ : ∃ v, u = '=' :: v := ⟨u.tail, (List.cons_head?_tail heq).symm⟩
    exact ⟨_, 2, firstOf_cons_of_some (endOf?_text_append ['/', '='] rfl v) _, rfl, .inr rfl⟩
  · rw [firstOf_cons_of_none (endOf?_text_eq_none rfl (isPrefixOf_pair_eq_false fun _ => heq)),
      List.cons_append]
    exact ⟨_, 1, firstOf_cons_of_some (endOf?_text_append ['/'] rfl u) _, rfl, .inl rfl⟩

/-- what becomes of a slash that opens no comment: an operator behind a value, elsewhere a regular
expression, which it begins -/
def SlashPiece (value : Bool) (k : Kind) (x : Text) : Prop :=
  if value then k = .operator ∧ (x = ['/'] ∨ x = ['/', '=']) else k = .regex ∧ x.head? = some '/'

def SlashMove (value : Bool) (m : Move State Kind) : Prop := SlashPiece value m.kind m.lexeme

theorem slashMove_move (value : Bool) {u : Text} (hslash : u.head? ≠ some '/')
    (hstar : u.head? ≠ some '*') : SlashMove value (table.move ⟨position value, []⟩ '/' u) := by
  cases value with
  | true =>
    obtain ⟨spec, n, hchoose, hkind, hlexeme⟩ := choose_afterValue_slash hslash hstar
    have hmove : table.move ⟨.afterValue, []⟩ '/' u = _ := move_of_choose hchoose
    rw [SlashMove, SlashPiece, if_pos rfl, position, if_pos rfl, hmove]
    exact ⟨hkind, hlexeme⟩
  | false =>
    obtain ⟨spec, n, hchoose, hkind⟩ := choose_start_slash hslash hstar
    have hmove : table.move ⟨.start, []⟩ '/' u = _ := move_of_choose hchoose
    rw [SlashMove, SlashPiece, if_neg Bool.false_ne_true, position, if_neg Bool.false_ne_true,
      hmove]
    refine ⟨hkind, ?_⟩
    show (('/' :: u).take (max 1 n)).head? = some '/'
    rw [List.head?_take, if_neg (by omega)]
    rfl

/-- behind a run from the fresh stack that ends in code the state and the pieces say the same of a
value, and it decides what becomes of a slash -/
theorem slash_of_run {t t' : Text} {ms : List (Move State Kind)} {st : Stack}
    (run : table.Run .fresh t ms st t') (htop : st.top ∈ [State.start, .afterValue]) :
    (st.top = .afterValue ↔ valueBefore (ms.map Move.piece) = true)
      ∧ ∀ u, u.head? ≠ some '/' → u.head? ≠ some '*' →
        SlashMove (valueBefore (ms.map Move.piece)) (table.move st '/' u) := by
  have hsound : Sound st (valueBefore (ms.map Move.piece)) := sound_run sound_fresh run
  have hstack := hsound.stack_eq htop
  constructor
  · rw [hstack]
    cases valueBefore (ms.map Move.piece) <;> decide
  · intro u hslash hstar
    rw [hstack]
    exact slashMove_move _ hslash hstar

/-- The moves on a text from a fresh stack make the tokens of its scan.  At every boundary between
them that lies in code, the state and the tokens to the left say the same of a value, and it decides
what becomes of a slash. -/
theorem slash_of_tokens {t : Text} {before after : List (Move State Kind)}
    (h : table.moves .fresh t = before ++ after)
    (htop : (RuleTable.finalStack .fresh before).top ∈ [State.start, .afterValue]) :
    ((RuleTable.finalStack .fresh before).top = .afterValue
        ↔ valueBefore (before.map Move.piece) = true)
      ∧ ∀ u, t = (before.map Move.lexeme).flatten ++ '/' :: u →
        u.head? ≠ some '/' → u.head? ≠ some '*' →
          ∃ m rest, after = m :: rest ∧ SlashMove (valueBefore (before.map Move.piece)) m := by
  obtain ⟨t', run, hafter⟩ := table.exists_run_of_moves_eq h
  obtain ⟨hvalue, hnext⟩ := slash_of_run run htop
  refine ⟨hvalue, fun u ht hslash hstar => ?_⟩
  have ht' : t' = '/' :: u := List.append_cancel_left (run.lexemes.trans ht)
  rw [ht', RuleTable.moves_cons] at hafter
  exact ⟨_, _, hafter.symm, hnext u hslash hstar⟩

theorem move_digit : table.move .fresh '1' ['/']
    = ⟨.fresh, .matched, .number, ['1'], .goto .afterValue⟩ := by
  have hchoose : choose .start ['1', '/']
      = some (⟨Pattern.decimalFloat, .number, .goto .afterValue⟩, 1) := by
    decide +kernel
  have hmove := @move_of_choose .fresh _ _ _ _ hchoose
  rw [hmove]
  rfl

theorem slash_behind_number : ∃ before m rest,
    table.moves .fresh ['1', '/'] = before ++ m :: rest
      ∧ valueBefore (before.map Move.piece) = true ∧ SlashMove true m := by
  have hmoves : table.moves .fresh ['1', '/']
      = [⟨.fresh, .matched, .number, ['1'], .goto .afterValue⟩]
        ++ table.moves ⟨.afterValue, []⟩ ['/'] := by
    rw [RuleTable.moves_cons, move_digit]
    rfl
  have hslash := (slash_of_tokens hmoves (by decide)).2 [] rfl (by decide) (by decide)
  obtain ⟨m, rest, hrest, hm⟩ := hslash
  exact ⟨_, m, rest, hrest ▸ hmoves, by decide, hm⟩

/-- The same of the tokens of a scan.  Wherever they are cut in two, at a place in code, the kinds
and texts of those to the left say of a value what the state there says, and if a slash follows that
opens no comment, the next token begins with it and has the kind that they decide. -/
theorem slash_of_scan {t : Text} {before after : List (Token Kind)}
    (h : (scan t none).tokens = before ++ after)
    (htop : (table.stackAt .fresh t before.length).top ∈ [State.start, .afterValue]) :
    ∃ pieces, before.map (·.piece? t) = pieces.map some
      ∧ ((table.stackAt .fresh t before.length).top = .afterValue ↔ valueBefore pieces = true)
      ∧ ∀ u, t = (pieces.map Prod.snd).flatten ++ '/' :: u →
        u.head? ≠ some '/' → u.head? ≠ some '*' →
          ∃ next rest x, after = next :: rest ∧ next.text? t = some x
            ∧ SlashPiece (valueBefore pieces) next.kind x := by
  obtain ⟨ms, t', run, hbefore, hafter⟩ := table.exists_run_of_tokens_eq h
  obtain ⟨hvalue, hnext⟩ := slash_of_run run htop
  refine ⟨ms.map Move.piece, hbefore, hvalue, fun u ht hslash hstar => ?_⟩
  rw [RuleTable.flatten_pieces_eq_lexemes] at ht
  have ht' : t' = '/' :: u := List.append_cancel_left (run.lexemes.trans ht)
  rw [ht', RuleTable.moves_cons, List.map_cons, List.map_cons] at hafter
  obtain ⟨next, rest, rfl, hpiece, -⟩ := List.map_eq_cons_iff.1 hafter
  obtain ⟨x, hx, heq⟩ := Option.map_eq_some_iff.1 hpiece
  obtain ⟨hkind, hlexeme⟩ := Prod.mk.inj heq
  have hmove := hnext u hslash hstar
  rw [SlashMove, ← hkind, ← hlexeme] at hmove
  exact ⟨next, rest, x, rfl, hx, hmove⟩

end Workbench.Riff
