import Workbench.Proofs.Pattern.Preferred
import Workbench.Proofs.Riff.Alphabet

/-!
# Words of Riff

A word of code is never split: the first token of a text that begins with one is the whole run of
letters, digits and underscores.  It is reserved if it is listed, and if nothing follows that would
make a longer word of it.  Letters beyond ASCII are no part of the run, but they do follow it in this
sense, since a boundary knows all letters and an identifier only those of ASCII.
-/

namespace Workbench.Riff

open Text (AllOf runLength)
open Workbench.Pattern (CharSet Cursor Regex wordAt)
open Workbench.Pattern.Regex (atEnd)

/-! ## the reserved words -/

def builtinWords : List String :=
  ["abs", "atan", "ceil", "cos", "exp", "int", "log", "sin", "sqrt", "tan", "rand", "srand", "byte",
    "char", "fmt", "hex", "lower", "num", "split", "type", "upper"]

def keywordWords : List String :=
  ["break", "continue", "exit", "fn", "local", "print", "return", "elif", "else", "if", "do", "for",
    "loop", "while", "in"]

/-- one of the words, and then a boundary -/
def wholeWord (ws : List String) : Regex := .seq (Form.word ws) Form.boundary

theorem form_builtins : form Pattern.builtins = wholeWord builtinWords := rfl
theorem form_nullWord : form Pattern.nullWord = wholeWord ["null"] := rfl
theorem form_keywords : form Pattern.keywords = wholeWord keywordWords := rfl

def texts (ws : List String) : List Text := ws.map String.toList

/-- the kind of a word that stands alone -/
def wordKind (w : Text) : Kind :=
  if w ∈ texts builtinWords then .builtin
  else if w ∈ texts ["null"] then .atom
  else if w ∈ texts keywordWords then .keyword
  else .identifier

/-! ## the word at the front of a text -/

/-- the longest run of characters of names -/
def frontWord (t : Text) : Text := t.takeWhile isNameChar

/-- whether a character of words, which need not be one of names, follows that run -/
def goesOn (t : Text) : Bool := wordAt true (t.dropWhile isNameChar).head?

theorem frontWord_append_of_stop {w u : Text} (hw : AllOf isNameChar w)
    (hu : wordAt true u.head? = false) : frontWord (w ++ u) = w ∧ goesOn (w ++ u) = false := by
  have hstop : u.takeWhile isNameChar = [] := by
    cases u with
    | nil => rfl
    | cons c u =>
      refine List.takeWhile_cons_of_neg fun hc => ?_
      have hword : Text.isWord c = false := hu
      rw [isWord_of_isNameChar hc] at hword
      cases hword
  have hdrop : (w ++ u).dropWhile isNameChar = u := by
    have hparts := List.takeWhile_append_dropWhile (p := isNameChar) (l := w ++ u)
    rw [List.takeWhile_append_of_pos hw, hstop, List.append_nil] at hparts
    exact List.append_cancel_left hparts
  refine ⟨?_, ?_⟩
  · rw [frontWord, List.takeWhile_append_of_pos hw, hstop, List.append_nil]
  · rw [goesOn, hdrop, hu]

/-- a word at the front with a boundary behind it is the longest run, and no other -/
theorem prefix_and_stop_iff {w t : Text} (hw : AllOf isNameChar w) :
    w <+: t ∧ wordAt true (t.drop w.length).head? = false ↔ w = frontWord t ∧ goesOn t = false := by
  constructor
  · rintro ⟨⟨u, rfl⟩, hstop⟩
    rw [List.drop_left] at hstop
    obtain ⟨hfront, hgoes⟩ := frontWord_append_of_stop hw hstop
    exact ⟨hfront.symm, hgoes⟩
  · rintro ⟨rfl, hstop⟩
    refine ⟨List.takeWhile_prefix _, ?_⟩
    have hdrop : t.drop (frontWord t).length = t.dropWhile isNameChar := by
      conv => lhs; arg 2; rw [← List.takeWhile_append_dropWhile (p := isNameChar) (l := t)]
      exact List.drop_left
    rw [hdrop]
    exact hstop

/-! ## whole words -/

theorem run_boundary_of_word {w t : Text} (hne : w ≠ []) (hw : AllOf isNameChar w) (hwt : w <+: t) :
    Form.boundary.run atEnd ((Cursor.start t).skip w.length)
      = if wordAt true (t.drop w.length).head? = false then some w.length else none := by
  -- the boundary looks back at the last character of the word
  have hbefore : ((Cursor.start t).skip w.length).before = some (w.getLast hne) := by
    obtain ⟨u, rfl⟩ := hwt
    have hlen : w.length ≠ 0 := fun h => hne (List.length_eq_zero_iff.1 h)
    show (if w.length = 0 then none else (w ++ u)[w.length - 1]?) = _
    rw [if_neg hlen, List.getElem?_append_left (by omega), ← List.getLast?_eq_getElem?,
      List.getLast?_eq_some_getLast hne]
  have hlast : wordAt true (some (w.getLast hne)) = true :=
    isWord_of_isNameChar (hw _ (List.getLast_mem hne))
  show (if (wordAt true ((Cursor.start t).skip w.length).before
      != wordAt true (t.drop w.length).head?) = true then some (0 + w.length) else none) = _
  rw [hbefore, hlast, Bool.true_bne, Nat.zero_add]
  exact if_congr (iff_of_eq (Bool.not_eq_true' _)) rfl rfl

theorem run_word {w : Text} (hne : w ≠ []) (hw : AllOf isNameChar w) (t : Text) :
    (Regex.text w).run (Form.boundary.run atEnd) (Cursor.start t)
      = if w = frontWord t ∧ goesOn t = false then some w.length else none := by
  have hrest : (Cursor.start t).rest = t := rfl
  rw [Regex.run_text, hrest]
  by_cases hwt : w <+: t
  · rw [if_pos (List.isPrefixOf_iff_prefix.2 hwt), run_boundary_of_word hne hw hwt]
    refine if_congr ?_ rfl rfl
    rw [← prefix_and_stop_iff hw]
    exact (and_iff_right hwt).symm
  · have hfront : ¬ (w = frontWord t ∧ goesOn t = false) :=
      fun h => hwt ((prefix_and_stop_iff hw).2 h).1
    rw [if_neg (fun h => hwt (List.isPrefixOf_iff_prefix.1 h)), if_neg hfront]

/-- among words that are tried in order, only the one at the front of the text matters -/
theorem firstEnd?_wholeWord {ws : List String}
    (hws : ∀ w ∈ ws, w.toList ≠ [] ∧ AllOf isNameChar w.toList) (t : Text) :
    (wholeWord ws).firstEnd? t
      = if frontWord t ∈ texts ws ∧ goesOn t = false then some (frontWord t).length else none := by
  rw [Regex.firstEnd?_eq_run, wholeWord, Regex.run_seq, Form.word, Regex.run_fork,
    List.findSome?_map]
  induction ws with
  | nil => rfl
  | cons w ws ih =>
    obtain ⟨⟨hne, hw⟩, hws⟩ := List.forall_mem_cons.1 hws
    have hmem : frontWord t ∈ texts (w :: ws) ↔ frontWord t = w.toList ∨ frontWord t ∈ texts ws :=
      List.mem_cons
    rw [List.findSome?_cons, Function.comp_apply, run_word hne hw, ih hws]
    by_cases hfront : w.toList = frontWord t ∧ goesOn t = false
    · rw [if_pos hfront, hfront.1]
      exact (if_pos ⟨hmem.2 (.inl hfront.1.symm), hfront.2⟩).symm
    · rw [if_neg hfront]
      refine if_congr (and_congr_left fun hgoes => ?_) rfl rfl
      rw [hmem]
      exact (or_iff_right fun h => hfront ⟨h.symm, hgoes⟩).symm

/-! ## the choice among words -/

theorem frontWord_cons {c : Char} (hc : isNameStart c = true) (t : Text) :
    (frontWord (c :: t)).length = 1 + runLength isNameChar t := by
  rw [frontWord, List.takeWhile_cons_of_pos (isNameChar_of_isNameStart hc), List.length_cons,
    Nat.add_comm]
  rfl

theorem firstEnd?_identifier {c : Char} (hc : isNameStart c = true) (t : Text) :
    Form.identifier.firstEnd? (c :: t) = some (frontWord (c :: t)).length := by
  have hstart : (Cursor.start (c :: t)).rest = c :: t := rfl
  have hstar : (Form.star Form.wordChar).run atEnd ((Cursor.start (c :: t)).skip 1)
      = some (0 + 1 + runLength Form.wordChar.contains t) := Regex.run_star_atEnd _ _
  rw [Regex.firstEnd?_eq_run, Form.identifier, Regex.run_seq, Regex.run_set_of_cons _ hstart,
    contains_letterOrScore, if_pos hc, hstar, contains_wordChar, frontWord_cons hc, Nat.zero_add]

/-- the characters with which a word can begin -/
def nameStarts : Text := "ABCDEFGHIJKLMNOPQRSTUVWXYZabcdefghijklmnopqrstuvwxyz_".toList

theorem mem_nameStarts {c : Char} (h : isNameStart c = true) : c ∈ nameStarts := by
  have hletters : ∀ n < 26, Char.ofNat (0x41 + n) ∈ nameStarts
      ∧ Char.ofNat (0x61 + n) ∈ nameStarts := by decide
  rw [isNameStart, Bool.or_eq_true, isAsciiLetter_iff, beq_iff_eq] at h
  rcases h with (hc | hc) | rfl
  · have hmem := (hletters (c.toNat - 0x41) (by omega)).1
    rwa [Nat.add_sub_cancel' hc.1, Char.ofNat_toNat] at hmem
  · have hmem := (hletters (c.toNat - 0x61) (by omega)).2
    rwa [Nat.add_sub_cancel' hc.1, Char.ofNat_toNat] at hmem
  · decide

/-- the rules for words, where `value` follows a value and `other` a keyword -/
def wordRules (value other : Scanner.Action State) : List Spec :=
  [⟨Pattern.builtins, .builtin, value⟩, ⟨Pattern.nullWord, .atom, value⟩,
    ⟨Pattern.keywords, .keyword, other⟩, ⟨Pattern.identifier, .identifier, value⟩]

theorem rulesOf_words (value : Bool) : ∃ before value' other after,
    rulesOf (position value) = before ++ (wordRules value' other ++ after)
      ∧ before.all (misses nameStarts) = true := by
  cases value
  · exact ⟨startRules.take 15, .goto .afterValue, .stay, startRules.drop 19, rfl, by decide +kernel⟩
  · exact ⟨afterValueRules.take 15, .goto .start, .goto .start, afterValueRules.drop 19, rfl,
      by decide +kernel⟩

theorem firstOf_wholeWord {pattern : String} {ws : List String}
    (hform : form pattern = wholeWord ws) (hws : ∀ w ∈ ws, w.toList ≠ [] ∧ AllOf isNameChar w.toList)
    (k : Kind) (action : Scanner.Action State) (specs : List Spec) (t : Text) :
    firstOf (⟨pattern, k, action⟩ :: specs) t
      = if frontWord t ∈ texts ws ∧ goesOn t = false then
          some (⟨pattern, k, action⟩, (frontWord t).length)
        else firstOf specs t := by
  have hend : endOf? ⟨pattern, k, action⟩ t = _ := (congrArg (Regex.firstEnd? · t) hform).trans
    (firstEnd?_wholeWord hws t)
  split
  · next h => exact firstOf_cons_of_some (hend.trans (if_pos h)) specs
  · next h => exact firstOf_cons_of_none (hend.trans (if_neg h)) specs

/-- the first rule for words that matches takes the whole word, and its kind is that of the word -/
theorem firstOf_words {c : Char} (hc : isNameStart c = true) (t : Text)
    (value other : Scanner.Action State) (after : List Spec) :
    ∃ spec, firstOf (wordRules value other ++ after) (c :: t)
        = some (spec, (frontWord (c :: t)).length)
      ∧ spec.kind = if goesOn (c :: t) then .identifier else wordKind (frontWord (c :: t)) := by
  have hidentifier : endOf? ⟨Pattern.identifier, .identifier, value⟩ (c :: t) = _ :=
    firstEnd?_identifier hc t
  rw [wordRules, List.cons_append, List.cons_append, List.cons_append, List.cons_append,
    firstOf_wholeWord form_builtins (by decide), firstOf_wholeWord form_nullWord (by decide),
    firstOf_wholeWord form_keywords (by decide), firstOf_cons_of_some hidentifier, wordKind]
  cases goesOn (c :: t) with
  | true =>
    simp only [Bool.true_eq_false, and_false, if_false, if_true]
    exact ⟨_, rfl, rfl⟩
  | false =>
    simp only [and_true, Bool.false_eq_true, if_false]
    split_ifs <;> exact ⟨_, rfl, rfl⟩

/-- In code the first token of a text that begins with a word is the whole word.  It is reserved if
the word is listed and no character of words follows, and an identifier otherwise. -/
theorem firstToken_word {st : Stack} (h : st.top ∈ [State.start, .afterValue]) {c : Char}
    (hc : isNameStart c = true) (t : Text) :
    FirstToken st (c :: t)
      (if goesOn (c :: t) then .identifier else wordKind (frontWord (c :: t)))
      (frontWord (c :: t)) := by
  obtain ⟨value, hvalue⟩ := exists_position h
  obtain ⟨before, value', other, after, hrules, hbefore⟩ := rulesOf_words value
  obtain ⟨spec, hspec, hkind⟩ := firstOf_words hc t value' other after
  have hchoose : choose st.top (c :: t) = some (spec, (frontWord (c :: t)).length) := by
    rw [hvalue, choose, hrules, firstOf_append_of_misses hbefore (mem_nameStarts hc), hspec]
  have hfirst := firstToken_of_choose hchoose
  have hmax : max 1 (frontWord (c :: t)).length = (frontWord (c :: t)).length := by
    rw [frontWord_cons hc]
    omega
  have htake : (c :: t).take (frontWord (c :: t)).length = frontWord (c :: t) :=
    (List.prefix_iff_eq_take.1 (List.takeWhile_prefix _)).symm
  rw [hmax, htake, hkind] at hfirst
  exact hfirst

/-- a letter beyond ASCII is no part of the word, but keeps it from being reserved -/
theorem firstToken_word_before_sharp_s :
    FirstToken .fresh "intß".toList .identifier "int".toList := by
  have h := @firstToken_word .fresh (by decide) 'i' (by decide) "ntß".toList
  have hgoes : goesOn "intß".toList = true := by decide
  have hword : frontWord "intß".toList = "int".toList := by decide
  have htext : 'i' :: "ntß".toList = "intß".toList := rfl
  rwa [htext, hgoes, if_pos rfl, hword] at h

end Workbench.Riff
