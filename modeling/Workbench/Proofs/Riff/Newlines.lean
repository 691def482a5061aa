import Workbench.Proofs.Riff.Alphabet
import Workbench.Proofs.Riff.Lines
import Workbench.Proofs.Scanner.Tiling

/-!
# Newlines in Riff

Wherever a newline stands it is a token of its own, in code, in comments and in literals that go on
over lines.  No pattern but the newline's own has a word with a newline in it, and none but the last
of a state, which matches everywhere, has the empty word.  So a move takes a newline with nothing
else (`setsApart_move`), and takes a character without a match of it at a newline only: in code and in
regular expressions the rule for newlines comes first, and the other states have none.
-/

namespace Workbench.Riff

open Workbench.Pattern (Regex)
open Scanner (Move RuleTable)

/-! ## the rules -/

theorem nullable_rules : ∀ s ∈ State.all, ∀ spec ∈ rulesOf s,
    (form spec.pattern).nullable = true → spec.pattern = Pattern.anything := by
  decide +kernel

/-- a state has a rule for newlines in front of its last one, or its last one changes nothing -/
theorem newline_rules : ∀ s ∈ State.all,
    (∃ spec ∈ (rulesOf s).dropLast, spec.pattern = Pattern.newline)
      ∨ s ∈ [State.comment, .string, .char]
        ∧ ∀ spec ∈ rulesOf s, spec.pattern = Pattern.anything → spec.action = .stay := by
  decide

variable {s : State} {c : Char} {t : Text} {spec : Spec} {n : Nat}

/-- where nothing is matched, the last rule has met a newline -/
theorem newline_of_choose_zero (h : choose s (c :: t) = some (spec, 0)) :
    c = '\n' ∧ spec.pattern = Pattern.anything := by
  obtain ⟨hmem, hend⟩ := mem_of_choose h
  have hspells : (form spec.pattern).Spells [] := (Regex.spells_of_firstEnd? hend).2
  have hany : spec.pattern = Pattern.anything :=
    nullable_rules s (List.mem_of_getElem? s.all_index) spec hmem (Regex.nullable_of_spells hspells)
  have hoptional := Regex.firstEnd?_optional_set Form.notNewline c t
  rw [endOf?, hany, form_anything, Form.anything, Form.optional, hoptional] at hend
  refine ⟨?_, hany⟩
  by_contra hc
  rw [if_pos ((contains_notNewline c).2 hc)] at hend
  cases hend

/-- that happens in comments, strings and characters, and it changes nothing there -/
theorem stays_of_choose_zero (h : choose s (c :: t) = some (spec, 0)) :
    s ∈ [State.comment, .string, .char] ∧ spec.action = .stay := by
  obtain ⟨hc, hany⟩ := newline_of_choose_zero h
  rcases newline_rules s (List.mem_of_getElem? s.all_index) with ⟨x, hx, hnewline⟩ | ⟨hs, hstay⟩
  · -- the rule for newlines would have been chosen
    have hform : form x.pattern = .text ['\n'] := hnewline ▸ rfl
    have hsome : endOf? x ('\n' :: t) = some 1 := endOf?_text_append ['\n'] hform t
    have hnone : endOf? x ('\n' :: t) = none := hc ▸ others_fail h hany x hx
    rw [hnone] at hsome
    cases hsome
  · exact ⟨hs, hstay spec (mem_of_choose h).1 hany⟩

/-- a newline in a word of a chosen rule is the whole word -/
theorem eq_newline_of_mem_take (h : choose s t = some (spec, n)) (hn : '\n' ∈ t.take n) :
    t.take n = ['\n'] := by
  obtain ⟨hmem, hend⟩ := mem_of_choose h
  have hspells : (form spec.pattern).Spells (t.take n) := (Regex.spells_of_firstEnd? hend).2
  rcases forms_avoid_newline _ (form_mem hmem) with hform | havoids
  · have hform : form spec.pattern = .text ['\n'] := hform
    rw [hform] at hspells
    exact hspells
  · exact absurd hn (Regex.not_mem_of_spells havoids hspells)

/-! ## moves -/

/-- a move that finds a rule, that takes a newline with nothing else, and that takes a character
without a match of it only if that is a newline in a comment, a string or a character, where it
changes nothing -/
structure SetsApart (m : Move State Kind) : Prop where
  ruled : m.how ≠ .unmatched
  alone : '\n' ∉ m.lexeme ∨ m.lexeme = ['\n']
  forced : m.how = .forced →
    m.lexeme = ['\n'] ∧ m.stack.top ∈ [State.comment, .string, .char] ∧ m.after = m.stack

theorem setsApart_move (st : Stack) (c : Char) (t : Text) : SetsApart (table.move st c t) := by
  obtain ⟨spec, n, hchoose, hmove⟩ := exists_move st c t
  rw [hmove]
  cases n with
  | zero =>
    obtain ⟨rfl, -⟩ := newline_of_choose_zero hchoose
    obtain ⟨htop, hstay⟩ := stays_of_choose_zero hchoose
    exact
      { ruled := nofun
        alone := .inr rfl
        forced := fun _ => ⟨rfl, htop, congrArg st.apply hstay⟩ }
  | succ n =>
    have hmax : max 1 (n + 1) = n + 1 := by omega
    refine { ruled := nofun, alone := ?_, forced := nofun }
    show '\n' ∉ (c :: t).take (max 1 (n + 1)) ∨ (c :: t).take (max 1 (n + 1)) = ['\n']
    rw [hmax]
    by_cases hn : '\n' ∈ (c :: t).take (n + 1)
    · exact .inr (eq_newline_of_mem_take hchoose hn)
    · exact .inl hn

/-! ## scans -/

/-- Whatever the stack is, each token of a scan is free of newlines or a newline and nothing else;
there is always a rule, and a character is taken without a match of it only if it is a newline in a
comment, a string or a character, where the stack stays as it is. -/
theorem scan_newlines (t : Text) (initial : Option Stack) :
    (∀ token ∈ (scan t initial).tokens,
        ∃ x, token.text? t = some x ∧ ('\n' ∉ x ∨ x = ['\n']))
      ∧ ∀ m ∈ table.moves (initial.getD .fresh) t, SetsApart m := by
  have hmoves : ∀ m ∈ table.moves (initial.getD .fresh) t, SetsApart m :=
    (table.run_moves _ t).forall_moves setsApart_move
  refine ⟨fun token htoken => ?_, hmoves⟩
  have htext : token.text? t ∈ (scan t initial).tokens.map (·.text? t) :=
    List.mem_map_of_mem htoken
  rw [scan, RuleTable.texts_scan] at htext
  obtain ⟨m, hm, hlexeme⟩ := List.mem_map.1 htext
  exact ⟨m.lexeme, hlexeme.symm, (hmoves m hm).alone⟩

theorem choose_comment_newline : choose .comment ['\n']
    = some (⟨Pattern.anything, .comment, .stay⟩, 0) := by
  decide +kernel

/-- the newline of an open comment, which is taken without a match of it -/
theorem scan_newlines_open_comment :
    (∃ token ∈ (scan ['\n'] (some ⟨.comment, [.comment, .start]⟩)).tokens,
        ∃ x, token.text? ['\n'] = some x ∧ ('\n' ∉ x ∨ x = ['\n']))
      ∧ ∃ m ∈ table.moves ⟨.comment, [.comment, .start]⟩ ['\n'], m.how = .forced
        ∧ m.lexeme = ['\n'] ∧ m.after = m.stack := by
  obtain ⟨htokens, hmoves⟩ := scan_newlines ['\n'] (some ⟨.comment, [.comment, .start]⟩)
  obtain ⟨token, htoken, -, -⟩ :=
    @firstToken_of_choose ⟨.comment, [.comment, .start]⟩ _ _ _ _ choose_comment_newline
  have hmem : table.move ⟨.comment, [.comment, .start]⟩ '\n' []
      ∈ table.moves ⟨.comment, [.comment, .start]⟩ ['\n'] := by
    rw [RuleTable.moves_cons]
    exact List.mem_cons_self
  have hforced : (table.move ⟨.comment, [.comment, .start]⟩ '\n' []).how = .forced := by
    rw [@move_of_choose ⟨.comment, [.comment, .start]⟩ _ _ _ _ choose_comment_newline]
    rfl
  obtain ⟨hlexeme, -, hafter⟩ := (hmoves _ hmem).forced hforced
  exact ⟨⟨token, List.mem_of_head? htoken, htokens token (List.mem_of_head? htoken)⟩,
    _, hmem, hforced, hlexeme, hafter⟩

end Workbench.Riff
