import Workbench.Highlight
import Workbench.Proofs.Riff.Comments
import Workbench.Proofs.Riff.Lines
import Workbench.Proofs.Scanner.Cutting
import Workbench.Proofs.Scanner.Joined
import Workbench.Proofs.Scanner.Resumption

/-!
# What an editor shows

An editor highlights line by line and keeps the stack of each line.

* `scanLines_resume`       behind an edit it has to draw lines only until the stack is one that it
                           kept: from there on the lines are the old ones, further up or down.  This
                           holds of every table.
* `Highlight.lines_eq_cut` what it shows is what highlighting of the whole shows, cut at the ends of
                           the lines.
-/

namespace Workbench

open Scanner (Covers CoversLines LineScan RuleTable ScannerKind ScannerState StateStack Token)

/-! ## lines behind an edit -/

namespace Scanner.RuleTable

/-- Behind two texts that end in newlines and leave the same stack, the same text has the same
lines, those of a scan from that stack, counted on from each of the two.  The lines in front of it
are those of each text alone. -/
theorem scanLines_resume {S K : Type} [ScannerState S] [ScannerKind K] (table : RuleTable S K)
    {st₁ st₂ st : StateStack S} {a₁ a₂ : Text} (ended₁ : a₁.Ended) (ended₂ : a₂.Ended)
    (h₁ : table.endStack st₁ a₁ = st) (h₂ : table.endStack st₂ a₂ = st) (b : Text) :
    table.scanLines st₁ (a₁ ++ b)
        = table.scanLines st₁ a₁ ++ (table.scanLines st b).map (·.shift (a₁.count '\n') a₁.bytes)
      ∧ table.scanLines st₂ (a₂ ++ b)
        = table.scanLines st₂ a₂
          ++ (table.scanLines st b).map (·.shift (a₂.count '\n') a₂.bytes) :=
  ⟨h₁ ▸ table.scanLines_append st₁ ended₁ b, h₂ ▸ table.scanLines_append st₂ ended₂ b⟩

theorem endStack_closed_comment :
    Riff.table.endStack ⟨.comment, [.start]⟩ ['*', '/', '\n'] = .fresh := by
  obtain ⟨ms, -, run⟩ := Riff.run_comment .fresh 0 ['*', '/', '\n']
  have hread : Riff.nesting 1 ['*', '/', '\n'] = .closed 2 := by decide
  have hnewline : Riff.choose (.fresh : Riff.Stack).top ['\n']
      = some (⟨Riff.Pattern.newline, .plain, .stay⟩, 1) := by decide +kernel
  rw [hread] at run
  have hrun := run.trans (Riff.run_of_choose hnewline)
  rw [Riff.lineLocal_table.endStack_eq]
  exact congrArg Scan.stack (scan_of_run hrun)

theorem scanLines_resume_closed_comment :
    Riff.table.endStack ⟨.comment, [.start]⟩ ['*', '/', '\n'] = .fresh
      ∧ Riff.table.endStack .fresh [] = .fresh
      ∧ Riff.table.scanLines ⟨.comment, [.start]⟩ ['*', '/', '\n', 'x', '\n', '/']
        = Riff.table.scanLines ⟨.comment, [.start]⟩ ['*', '/', '\n']
          ++ (Riff.table.scanLines .fresh ['x', '\n', '/']).map (·.shift 1 3) := by
  have hended : Text.Ended ['*', '/', '\n'] := Text.ended_append_newline ['*', '/']
  have hnil : Riff.table.endStack .fresh [] = .fresh := rfl
  obtain ⟨hlines, -⟩ := Riff.table.scanLines_resume hended Text.ended_nil endStack_closed_comment
    hnil ['x', '\n', '/']
  exact ⟨endStack_closed_comment, hnil, hlines⟩

end Scanner.RuleTable

/-! ## lines of a highlighted text -/

theorem Registry.eq_riff_of_named? {name : String} {m : Mode}
    (h : Registry.standard.named? name = some m) : m = .riff :=
  List.mem_singleton.1 (List.mem_of_find?_eq_some h)

/-- there is one mode that is always there -/
theorem Registry.eq_riff_of_find {key : String} {m : Mode}
    (h : Registry.standard.find key = .ok m) : m = .riff := by
  unfold find at h
  split at h
  · next m' hm =>
    injection h with h
    exact h ▸ eq_riff_of_named? hm
  · split at h
    · next m' hm =>
      injection h with h
      obtain ⟨name, -, hname⟩ := Option.bind_eq_some_iff.1 hm
      exact h ▸ eq_riff_of_named? hname
    · cases h

namespace Highlight

theorem eq_riff_of_findMode {settings : LexerSettings} {m : Mode}
    (h : findMode settings = .ok m) : m = .riff := by
  unfold findMode at h
  cases hfind : Registry.standard.find settings.mode with
  | error e => rw [hfind] at h; cases h
  | ok m' =>
    rw [hfind] at h
    injection h with h
    exact h ▸ Registry.eq_riff_of_find hfind

/-- joined or not, tokens cover the same -/
theorem covers_arrange (settings : LexerSettings) {t part : Text} {a b : Nat}
    {tokens : List (Token Riff.Kind)} (h : Covers t a part b tokens) :
    Covers t a part b (arrange settings tokens) := by
  unfold arrange
  split
  · exact h.coalesce
  · exact h

theorem coversLines_arrange (settings : LexerSettings) {t : Text} {parts : List Text}
    {ls : List (LineScan Riff.State Riff.Kind)} (h : CoversLines t ls parts) :
    CoversLines t (ls.map fun l => { l with tokens := arrange settings l.tokens }) parts :=
  h.map_tokens (covers_arrange settings)

/-- the tokens of a line, as the settings want them, are those of the whole that lie in it -/
theorem arrange_line (settings : LexerSettings) (st : Riff.Stack) (t : Text) :
    ∀ l ∈ Riff.table.scanLines st t, arrange settings l.tokens
      = if settings.coalesce
        then Scanner.cut l.span (arrange settings (Riff.table.scan st t).tokens)
        else Scanner.within l.span (arrange settings (Riff.table.scan st t).tokens) := by
  intro l hl
  unfold arrange
  split
  · exact (Riff.lineLocal_table.cut_scanLines st t l hl).symm
  · exact (Riff.lineLocal_table.within_scanLines st t l hl).symm

/-- The lines of a highlighted text are those of the text.  Each of them has the tokens of the whole
that lie in it, or if neighbours are joined, the runs of the whole cut at its ends.  The last line
leaves the stack of the whole. -/
theorem lines_eq_cut {settings : LexerSettings} {mode : Mode} (h : findMode settings = .ok mode)
    (t : Text) :
    ∃ whole ls, ofText settings none t = .ok whole ∧ lines settings t = .ok ls
      ∧ CoversLines t ls t.pieces
      ∧ (∀ l ∈ ls, l.tokens = if settings.coalesce then Scanner.cut l.span whole.tokens
          else Scanner.within l.span whole.tokens)
      ∧ (ls.getLast?.map LineScan.stack).getD .fresh = whole.stack := by
  obtain rfl := eq_riff_of_findMode h
  have hscan : Mode.riff.scan t none = Riff.table.scan .fresh t := by
    simp only [Mode.scan, Mode.riff, Option.getD_none]
  have hlines : Mode.riff.scanLines t none = Riff.table.scanLines .fresh t := by
    simp only [Mode.scanLines, Mode.riff, Option.getD_none]
  rw [ofText, lines, h]
  refine ⟨_, _, rfl, rfl, ?_, ?_, ?_⟩
  · rw [hlines]
    exact coversLines_arrange settings (Riff.table.coversLines_scanLines .fresh t)
  · rw [hscan, hlines]
    intro l hl
    obtain ⟨l', hl', rfl⟩ := List.mem_map.1 hl
    exact arrange_line settings .fresh t l' hl'
  · rw [hscan, hlines, List.getLast?_map, Option.map_map]
    exact Riff.lineLocal_table.endStack_eq .fresh t

theorem lines_eq_cut_joined :
    findMode { coalesce := true } = .ok .riff
      ∧ ∃ whole ls, ofText { coalesce := true } none "/* a\nb */ 1".toList = .ok whole
        ∧ lines { coalesce := true } "/* a\nb */ 1".toList = .ok ls
        ∧ ∀ l ∈ ls, l.tokens = Scanner.cut l.span whole.tokens := by
  have hmode : findMode { coalesce := true } = .ok .riff := rfl
  obtain ⟨whole, ls, hwhole, hls, -, htokens, -⟩ := lines_eq_cut hmode "/* a\nb */ 1".toList
  exact ⟨hmode, whole, ls, hwhole, hls, htokens⟩

end Highlight

end Workbench
