import Workbench.Proofs.Pattern.AppendedTokens
import Workbench.Scanner.Rule

/-!
# Patterns within a group

The open groups of a pattern can stand in a further group (`OpenGroups.within`).  A token does to
them what it does without that group (`take_within`), so a pattern that can be read to its end is
read in the same way within it, up to the parenthesis that closes it: `read_within`.

For the group `^(?:` … `)` of a rule this gives the expression of the whole: `Regex.parse_anchor`.
-/

namespace Workbench.Pattern

theorem Group.index_of_repeatLast {g g' : Group} {least : Nat} {most : Option Nat} {greedy : Bool}
    (h : g.repeatLast least most greedy = .ok g') : g'.index = g.index := by
  rw [Group.repeatLast] at h
  split at h
  · cases h
    rfl
  · cases h

namespace OpenGroups

/-- the groups with one more around them -/
def within (groups : OpenGroups) (g : Group) : OpenGroups :=
  { groups with outer := groups.outer ++ [g] }

/-- the numbers of the open groups, the innermost first -/
def indices (groups : OpenGroups) : List (Option Nat) :=
  (groups.inner :: groups.outer).map Group.index

theorem take_within {groups groups' : OpenGroups} {token : Token} (g : Group)
    (h : groups.take token = .ok groups') :
    (groups.within g).take token = .ok (groups'.within g) := by
  cases token with
  | part | bar | setFlags =>
    cases h
    rfl
  | openGroup captured name changes =>
    rw [take, openGroup] at h ⊢
    split at h
    · cases h
    · next hname =>
      cases h
      exact if_neg hname
  | close =>
    rw [take] at h ⊢
    split at h
    · cases h
    · next parent outer houter =>
      cases h
      have houter' : (groups.within g).outer = parent :: (outer ++ [g]) := by
        rw [within, houter, List.cons_append]
      rw [houter']
      rfl
  | rep least most greedy =>
    rw [take] at h ⊢
    obtain ⟨inner, hinner, rfl⟩ := exists_of_map_eq_ok h
    have hinner' : (groups.within g).inner.repeatLast least most greedy = .ok inner := hinner
    rw [hinner']
    rfl

/-- the outermost group stays -/
theorem getLast?_indices_take {groups groups' : OpenGroups} {token : Token}
    (h : groups.take token = .ok groups') : groups'.indices.getLast? = groups.indices.getLast? := by
  cases token with
  | part | bar | setFlags =>
    cases h
    rfl
  | openGroup captured name changes =>
    rw [take, openGroup] at h
    split at h
    · cases h
    · cases h
      rfl
  | close =>
    rw [take] at h
    split at h
    · cases h
    · next parent outer houter =>
      cases h
      rw [indices, indices, houter]
      rfl
  | rep least most greedy =>
    rw [take] at h
    obtain ⟨inner, hinner, rfl⟩ := exists_of_map_eq_ok h
    have hindex : inner.index = groups.inner.index := Group.index_of_repeatLast hinner
    show (inner.index :: groups.outer.map Group.index).getLast? = _
    rw [hindex]
    rfl

theorem finish_eq_ok {groups : OpenGroups} {r : Regex} (h : groups.finish = .ok r) :
    groups.outer = [] ∧ r = groups.inner.body.1 := by
  rw [finish] at h
  split at h
  · cases h
  · next houter =>
    dsimp only at h
    split at h
    · cases h
    · split at h
      · exact ⟨houter, (Except.ok.inj h).symm⟩
      · cases h

theorem read_of_skip_nil {groups : OpenGroups} {t : Text} (h : groups.inner.flags.skip t = [])
    (fuel : Nat) : groups.read fuel t = groups.finish := by
  unfold read
  rw [h]

theorem read_of_skip_cons {groups : OpenGroups} {t rest : Text} {c : Char}
    (h : groups.inner.flags.skip t = c :: rest) (fuel : Nat) :
    groups.read (fuel + 1) t = match readToken groups.inner.flags c rest with
      | .error e => .error e
      | .ok (token, rest) =>
        match groups.take token with
        | .error e => .error e
        | .ok groups => groups.read fuel rest := by
  rw [read.eq_def]
  dsimp only
  generalize groups.inner.flags.skip t = left at h ⊢
  subst h
  rfl

/-- A closing parenthesis behind the last token makes what was read an item of the group around. -/
theorem read_close {groups : OpenGroups} {g : Group} {t : Text} {fuel : Nat} {w : Regex}
    (houter : groups.outer = []) (hindex : groups.inner.index = none)
    (hskip : groups.inner.flags.skip t = [')'])
    (hw : (groups.within g).read (fuel + 1) t = .ok w) :
    ∃ depth, w = (g.push groups.inner.body.1 depth).body.1 := by
  rw [@read_of_skip_cons (groups.within g) _ _ _ hskip] at hw
  have hclose : (groups.within g).take .close = .ok { groups with
      inner := g.push groups.inner.regex (groups.inner.body.2 + 1), outer := [] } := by
    rw [take, within, houter]
    rfl
  have htoken : readToken (groups.within g).inner.flags ')' [] = .ok (.close, []) := rfl
  rw [htoken] at hw
  simp only [hclose] at hw
  rw [read_of_skip_nil (by rw [Flags.skip]; split <;> rfl)] at hw
  obtain ⟨-, rfl⟩ := finish_eq_ok hw
  refine ⟨groups.inner.body.2 + 1, ?_⟩
  rw [Group.regex, hindex]

/-- At the end of the pattern the closing parenthesis is read, unless it belongs to a comment: then
the group is left open. -/
theorem read_within_of_skip_nil {groups : OpenGroups} {g : Group} {t t' : Text} {fuel fuel' : Nat}
    {r w : Regex} (hcl : Closes t t') (hindex : groups.indices.getLast? = some none)
    (hskip : groups.inner.flags.skip t = []) (hr : groups.read fuel t = .ok r)
    (hw : (groups.within g).read (fuel' + 1) t' = .ok w) :
    ∃ depth, w = (g.push r depth).body.1 := by
  rw [read_of_skip_nil hskip] at hr
  obtain ⟨houter, rfl⟩ := finish_eq_ok hr
  rcases hcl.skip groups.inner.flags with hclose | ⟨-, hnil⟩
  · rw [hskip, List.nil_append] at hclose
    rw [indices, houter] at hindex
    exact read_close houter (Option.some.inj hindex) hclose hw
  · rw [@read_of_skip_nil (groups.within g) _ hnil] at hw
    obtain ⟨houter', -⟩ := finish_eq_ok hw
    exact absurd houter' (List.append_ne_nil_of_right_ne_nil _ (List.cons_ne_nil _ _))

/-- A pattern that can be read to its end is read in the same way within a group. -/
theorem read_within {fuel fuel' : Nat} {groups : OpenGroups} {g : Group} {t t' : Text}
    {r w : Regex} (hfuel : t.length ≤ fuel) (hfuel' : fuel ≤ fuel') (hcl : Closes t t')
    (hindex : groups.indices.getLast? = some none) (hr : groups.read fuel t = .ok r)
    (hw : (groups.within g).read (fuel' + 1) t' = .ok w) :
    ∃ depth, w = (g.push r depth).body.1 := by
  induction fuel generalizing fuel' groups t t' with
  | zero =>
    have hskip := Nat.le_trans (length_skip_le groups.inner.flags t) hfuel
    exact read_within_of_skip_nil hcl hindex (List.length_eq_zero_iff.1 (Nat.le_zero.1 hskip)) hr hw
  | succ fuel ih =>
    obtain ⟨fuel', rfl⟩ : ∃ n, fuel' = n + 1 := ⟨fuel' - 1, by omega⟩
    cases hrest : groups.inner.flags.skip t with
    | nil => exact read_within_of_skip_nil hcl hindex hrest hr hw
    | cons c rest =>
      have hle := length_skip_le groups.inner.flags t
      rw [hrest, List.length_cons] at hle
      rw [read_of_skip_cons hrest] at hr
      rw [@read_of_skip_cons (groups.within g) _ _ _ ((hcl.skip _).cons hrest)] at hw
      split at hr
      · cases hr
      · next token rest htoken =>
        obtain ⟨hlen, rest', htoken', hcl'⟩ :=
          carries_readToken groups.inner.flags c (closes_append _) htoken
        have htoken'' : readToken (groups.within g).inner.flags c _ = .ok (token, rest') := htoken'
        rw [htoken''] at hw
        split at hr
        · cases hr
        · next groups' htake =>
          simp only [take_within g htake] at hw
          exact ih (by omega) (by omega) hcl' ((getLast?_indices_take htake).trans hindex) hr hw

end OpenGroups

namespace Regex

theorem concat_look (l : Look) (r : Regex) :
    concat [.look l, r] = chain (.look l :: joinTexts r.items) := by
  show chain (joinTexts (.look l :: (r.items ++ []))) = _
  rw [List.append_nil]
  rfl

theorem oneOf_concat_look (l : Look) (r : Regex) :
    oneOf [concat [.look l, r]] = concat [.look l, r] := by
  rw [concat_look]
  cases joinTexts r.items <;> rfl

/-- the expression of a pattern, held at the start of the text -/
theorem parse_anchor {p : String} {r w : Regex} (hr : Regex.parse p.toList = .ok r)
    (hw : Regex.parse (Scanner.anchor p) = .ok w) : w = .concat [.look .textStart, r] := by
  have hlen : (Scanner.anchor p).length = p.toList.length + 2 + 1 + 1 + 1 := by
    show (p.toList ++ [')']).length + 1 + 1 + 1 + 1 = _
    rw [List.length_append, List.length_singleton]
  rw [parse, hlen] at hw
  -- the outermost group holds `^` when the group of the pattern is opened
  have hw : (OpenGroups.start.within ((Group.empty {} none).push (.look .textStart) 0)).read
      (p.toList.length + 2 + 1) (p.toList ++ [')']) = .ok w := hw
  obtain ⟨depth, rfl⟩ :=
    OpenGroups.read_within (Nat.le_refl _) (by omega) (closes_append _) rfl hr hw
  exact oneOf_concat_look .textStart r

end Regex

end Workbench.Pattern
