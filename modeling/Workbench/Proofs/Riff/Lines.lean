import Workbench.Proofs.Riff.Moves
import Workbench.Proofs.Scanner.Lines
import Workbench.Proofs.Scanner.Tiling

/-!
# Riff line by line

No match of a rule of Riff depends on what follows the next newline: the words of every pattern but
the newline's own are free of newlines, and that one stops at the first (`lineLocal_table`).  So a
scan by lines has the tokens of a scan of the whole, and hands on the stacks that the whole has at
the ends of its lines.
-/

namespace Workbench.Riff

open Workbench.Pattern (Regex)
open Scanner (CoversLines LineScan)

/-- no word of a pattern but the newline's own holds a newline -/
theorem forms_avoid_newline :
    ∀ e ∈ forms, e.2 = .text ['\n'] ∨ e.2.avoids '\n' = true := by
  decide +kernel

/-- where a pattern of the table matches does not depend on what follows a newline -/
theorem firstEnd?_append_newline {s : State} {spec : Spec} (h : spec ∈ rulesOf s) {a : Text}
    (ha : '\n' ∈ a) (b : Text) :
    (form spec.pattern).firstEnd? (a ++ b) = (form spec.pattern).firstEnd? a := by
  rcases forms_avoid_newline _ (form_mem h) with hf | hf
  · -- the newline's own pattern looks at one character, and `a` has one
    have hf : form spec.pattern = .text ['\n'] := hf
    obtain ⟨c, a, rfl⟩ := List.exists_cons_of_ne_nil (List.ne_nil_of_mem ha)
    rw [hf, Regex.firstEnd?_text, Regex.firstEnd?_text]
    rfl
  · exact Regex.firstEnd?_append hf ha b

theorem lineLocal_table : table.LineLocal := by
  intro s r hr a ha b
  have hspec := mem_rulesOf hr
  rw [matchEnd?_eq_firstEnd? hspec, matchEnd?_eq_firstEnd? hspec]
  exact firstEnd?_append_newline hspec ha b

/-- The lines are those of the text.  They have the tokens of the whole, and each line has the stack
of a scan of all the text up to its end. -/
theorem scanLines_eq_scan (t : Text) (initial : Option Stack) :
    CoversLines t (scanLines t initial) t.pieces
      ∧ (scanLines t initial).flatMap LineScan.tokens = (scan t initial).tokens
      ∧ (scanLines t initial).map (fun l =>
          (Text.slice t 0 l.span.stop).map fun a => (scan a initial).stack)
        = (scanLines t initial).map fun l => some l.stack := by
  refine ⟨?_, ?_, ?_⟩
  · exact table.coversLines_scanLines _ t
  · exact lineLocal_table.tokens_scanLines _ t
  · exact lineLocal_table.stacks_scanLines _ t

end Workbench.Riff
