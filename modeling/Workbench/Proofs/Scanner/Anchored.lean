import Workbench.Proofs.Pattern.Found
import Workbench.Proofs.Scanner.Declared
import Workbench.Riff.Vocabulary

/-!
# Rules match where they are tried

A rule reads its pattern between `^(?:` and `)`.  If the pattern is an expression by itself, the
whole denotes that expression, held at the start of the text (`regex_of_compile`), and the rule
matches where the pattern has a match that begins there, and as it does: `matchLength?_of_parse`.

A pattern that closes the group around it is none by itself, but can still compile.  What stands
behind its `)` is then not held at the start: `matchLength?_of_unopened`.
-/

namespace Workbench

open Pattern (Cursor Regex)

namespace Pattern.Regex

theorem anchored_concat_look (r : Regex) : (concat [.look .textStart, r]).anchored = true := by
  rw [concat_look]
  cases joinTexts r.items <;> rfl

end Pattern.Regex

namespace Scanner

variable {S K : Type} {spec : RuleSpec S K} {rule : Rule S K} {r : Regex}

/-- the expression of a rule whose pattern is one by itself -/
theorem regex_of_compile (hrule : spec.compile = .ok rule)
    (hr : Regex.parse spec.pattern.toList = .ok r) :
    rule.regex = .concat [.look .textStart, r] := by
  have hspec : rule.toRuleSpec = spec := RuleSpec.toRuleSpec_of_compile hrule
  rw [← hspec] at hr
  exact Regex.parse_anchor hr rule.parse_eq

/-- the rule searches for its pattern, but from the start of the text only -/
theorem matchEnd?_of_compile (hrule : spec.compile = .ok rule)
    (hr : Regex.parse spec.pattern.toList = .ok r) (t : Text) :
    rule.matchEnd? t = r.program.search true t := by
  rw [rule.matchEnd?_eq, regex_of_compile hrule hr,
    Regex.matchEnd?_of_anchored (Regex.anchored_concat_look r), Regex.search_concat_look]

/-- A rule matches where it is tried and nowhere else: it has a match if the pattern by itself has
one from the start of the text; that is the leftmost match of the pattern, and passes the given
bytes. -/
theorem matchLength?_of_parse (hrule : spec.compile = .ok rule)
    (hr : Regex.parse spec.pattern.toList = .ok r) (t : Text) :
    (rule.matchLength? t = none ↔ r.ends (Cursor.start t) = [])
      ∧ ∀ bytes, rule.matchLength? t = some bytes →
        ∃ n ≤ t.length, bytes = Text.bytes (t.take n) ∧ r.matchEnd? t = some n
          ∧ ∃ q ∈ r.ends (Cursor.start t), q.taken = n ∧ q.rest = t.drop n := by
  constructor
  · rw [Rule.matchLength?, Option.map_eq_none_iff, matchEnd?_of_compile hrule hr]
    exact r.search_eq_none_iff t
  intro bytes hlen
  obtain ⟨n, hn, hbytes⟩ := Option.map_eq_some_iff.1 hlen
  have hle : n ≤ t.length := rule.matchEnd?_le t n hn
  rw [matchEnd?_of_compile hrule hr] at hn
  obtain ⟨q, hq, htaken⟩ := Regex.exists_end_of_search hn
  obtain ⟨s, -, hrest, hs⟩ := r.spells_of_mem_ends _ q hq
  have hrest : t = s ++ q.rest := hrest
  have hs : n = s.length := htaken.symm.trans (hs.trans (Nat.zero_add _))
  refine ⟨n, hle, hbytes.symm, Regex.matchEnd?_of_search hn, q, hq, htaken, ?_⟩
  rw [hrest, hs, List.drop_left]

/-- Two `é` are two characters in four bytes.  The `b` behind an `x` is found by the pattern, but
not by the rule. -/
theorem matchLength?_of_parse_accented :
    ∃ (rule : Rule Riff.State Riff.Kind) (r : Regex),
      RuleSpec.compile ⟨"b|é+", .identifier, .stay⟩ = .ok rule
        ∧ Regex.parse "b|é+".toList = .ok r ∧ rule.matchLength? "ééb".toList = some 4
        ∧ r.matchEnd? "ééb".toList = some 2
        ∧ (∃ q ∈ r.ends (Cursor.start "ééb".toList), q.taken = 2 ∧ q.rest = ['b'])
        ∧ r.matchEnd? "xb".toList = some 2 ∧ rule.matchLength? "xb".toList = none := by
  have hparse : Regex.parse "b|é+".toList
      = .ok (.alt (.text ['b']) (.rep 1 none true (.text ['é']))) := by decide +kernel
  have hwhole : Regex.parse (anchor "b|é+") = .ok (.seq (.look .textStart)
      (.alt (.text ['b']) (.rep 1 none true (.text ['é'])))) := by decide +kernel
  obtain ⟨rule, hrule, hregex⟩ :=
    @RuleSpec.exists_compile Riff.State Riff.Kind ⟨"b|é+", .identifier, .stay⟩ _ hwhole
  have hlen : rule.matchLength? "ééb".toList = some 4 := by
    rw [Rule.matchLength?, rule.matchEnd?_eq, hregex]
    decide +kernel
  obtain ⟨n, -, -, hend, q, hq, htaken, hrest⟩ := (matchLength?_of_parse hrule hparse _).2 _ hlen
  have hn : n = 2 := by
    rw [show Regex.matchEnd? _ "ééb".toList = some 2 by decide +kernel] at hend
    exact (Option.some.inj hend).symm
  subst hn
  have hnone := (matchLength?_of_parse hrule hparse "xb".toList).1.2 (by decide +kernel)
  exact ⟨rule, _, hrule, hparse, hlen, hend, ⟨q, hq, htaken, hrest⟩, by decide +kernel, hnone⟩

/-- The pattern is none by itself: its `)` closes the group around it, and `^` holds only what is in
front of that.  The rule compiles and matches one character behind the place where it is tried, and
there it has no match. -/
theorem matchLength?_of_unopened :
    ∃ rule : Rule Riff.State Riff.Kind,
      RuleSpec.compile ⟨"a)|(?:b", .identifier, .stay⟩ = .ok rule
        ∧ Regex.parse "a)|(?:b".toList = .error .unopenedGroup
        ∧ rule.matchLength? "xb".toList = some 2
        ∧ rule.regex.ends (Cursor.start "xb".toList) = []
        ∧ rule.regex.ends ⟨1, some 'x', ['b']⟩ = [⟨2, some 'b', []⟩] := by
  have hwhole : Regex.parse (anchor "a)|(?:b")
      = .ok (.alt (.seq (.look .textStart) (.text ['a'])) (.text ['b'])) := by decide +kernel
  obtain ⟨rule, hrule, hregex⟩ :=
    @RuleSpec.exists_compile Riff.State Riff.Kind ⟨"a)|(?:b", .identifier, .stay⟩ _ hwhole
  refine ⟨rule, hrule, by decide +kernel, ?_, ?_, ?_⟩
  · rw [Rule.matchLength?, rule.matchEnd?_eq, hregex]
    decide +kernel
  · rw [hregex]
    decide +kernel
  · rw [hregex]
    decide +kernel

end Scanner

end Workbench
