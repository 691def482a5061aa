import Workbench.Proofs.Highlight
import Workbench.Proofs.Report
import Workbench.Proofs.Scanner.Joined
import Workbench.Proofs.Text.Quoted
import Workbench.TokenDump

/-!
# Token dumps show their source

The tokens of a highlighted text cover it, joined or not, so each of them has a row, and the texts
of the rows make up the source (`Row.exists_ofTokens`).  In plain text a row takes one line, since
neither its front nor its quoted text has a newline in it (`Row.newline_not_mem_format`).  Its front
has no quote in it either, so what stands behind the first quote is the text of the row, and it does
not begin with a dash as the lines of stacks do.  Hence the source can be read off its plain dump,
whatever the source looks like: `shownSource_plain`, `shownSource_plainReports`.
-/

namespace Workbench

open Scanner (Covers Token)

/-! ## rows -/

theorem exists_mapM_map {α β γ : Type} {f : α → Option β} {g : β → γ} {xs : List α} {zs : List γ}
    (h : List.Forall₂ (fun x z => ∃ y, f x = some y ∧ g y = z) xs zs) :
    ∃ ys, xs.mapM f = some ys ∧ ys.map g = zs := by
  obtain ⟨ys, hys, hall⟩ := exists_mapM_of_forall₂ h
  rw [← List.forall₂_map_left_iff, List.forall₂_eq_eq_eq] at hall
  exact ⟨ys, hys, hall⟩

namespace Row

theorem exists_ofToken {t x : Text} {u : Token Riff.Kind} (h : u.text? t = some x) :
    ∃ row, ofToken? t (LineIndex.ofText t) u = some row ∧ row.text = x := by
  obtain ⟨before, behind, ht, hbytes⟩ := Text.boundary_of_slice h
  have hposition := LineIndex.position?_bytes before behind
  rw [← ht, hbytes] at hposition
  let p := Position.start.walk before
  refine ⟨⟨u.kind, u.span.start, u.span.stop, p.line, p.column, p.utf16Column, x⟩, ?_, rfl⟩
  rw [ofToken?, hposition, h]

/-- tokens that cover a part of a text have rows, whose texts make up the part -/
theorem exists_ofTokens {t part : Text} {a b : Nat} {tokens : List (Token Riff.Kind)}
    (h : Covers t a part b tokens) :
    ∃ rows, ofTokens? t (LineIndex.ofText t) tokens = some rows
      ∧ rows.flatMap Row.text = part := by
  obtain ⟨-, lexemes, htexts, rfl⟩ := h
  rw [← List.forall₂_eq_eq_eq, List.forall₂_map_left_iff, List.forall₂_map_right_iff] at htexts
  obtain ⟨rows, hrows, hlexemes⟩ := exists_mapM_map (htexts.imp fun _ _ => exists_ofToken)
  exact ⟨rows, hrows, congrArg List.flatten hlexemes⟩

end Row

/-! ## how a row is written -/

theorem isDigit_of_mem_toString {n : Nat} {c : Char} (h : c ∈ (toString n).toList) : c.isDigit := by
  rw [Nat.toString_eq_repr, Nat.toList_repr] at h
  exact Nat.isDigit_of_mem_toDigits (by decide) (by decide) h

namespace Row

/-- what stands in front of the quoted text of a row -/
def front (r : Row) : Text :=
  (toString r.line ++ ":" ++ toString r.column ++ " " ++ r.kind.name ++ " ").toList

/-- digits, small letters, underscores, colons and blanks -/
def isFront (c : Char) : Bool := c.isDigit || c.isLower || c == '_' || c == ':' || c == ' '

theorem toList_format (r : Row) : r.format.toList = r.front ++ Text.quote r.text := by
  rw [format, String.toList_append, String.toList_ofList]
  rfl

theorem isFront_of_mem (r : Row) : ∀ c ∈ r.front, isFront c = true := by
  have hdigit (n : Nat) : ∀ c ∈ (toString n).toList, isFront c = true := fun c hc => by
    simp [isFront, isDigit_of_mem_toString hc]
  have hname : r.kind.name.toList.all isFront = true := by
    cases r.kind <;> decide
  have hmark : ∀ s ∈ [":", " "], s.toList.all isFront = true := by decide
  simp only [List.forall_mem_cons, List.all_eq_true] at hname hmark
  obtain ⟨hcolon, hblank, -⟩ := hmark
  simp only [front, String.toList_append, List.forall_mem_append]
  exact ⟨⟨⟨⟨⟨hdigit r.line, hcolon⟩, hdigit r.column⟩, hblank⟩, hname⟩, hblank⟩

theorem not_mem_front (r : Row) {c : Char} (hc : isFront c = false) : c ∉ r.front := fun hmem =>
  Bool.false_ne_true (hc.symm.trans (r.isFront_of_mem c hmem))

/-- a row is written on one line -/
theorem newline_not_mem_format (r : Row) : '\n' ∉ r.format.toList := by
  rw [toList_format, List.mem_append, not_or]
  exact ⟨r.not_mem_front (by decide), Text.newline_not_mem_quote r.text⟩

theorem exists_front_cons (r : Row) : ∃ c rest, r.front = c :: rest ∧ c ≠ '-' := by
  cases hfront : r.front with
  | nil =>
    rw [front, String.toList_append] at hfront
    exact absurd (List.append_eq_nil_iff.1 hfront).2 (by decide)
  | cons c rest =>
    refine ⟨c, rest, rfl, ?_⟩
    rintro rfl
    exact r.not_mem_front (by decide) (hfront ▸ List.mem_cons_self)

end Row

/-! ## stacks -/

theorem not_mem_intercalate {c : Char} {sep : Text} (hsep : c ∉ sep) {ts : List Text}
    (h : ∀ t ∈ ts, c ∉ t) : c ∉ sep.intercalate ts := by
  induction ts with
  | nil => exact List.not_mem_nil
  | cons t ts ih =>
    obtain ⟨ht, hts⟩ := List.forall_mem_cons.1 h
    cases ts with
    | nil => rwa [List.intercalate_singleton]
    | cons u us =>
      rw [List.intercalate_cons_cons, List.mem_append, List.mem_append, not_or, not_or]
      exact ⟨⟨ht, hsep⟩, ih hts⟩

theorem newline_not_mem_formatStack (st : Riff.Stack) : '\n' ∉ (formatStack st).toList := by
  have hnames : ∀ name ∈ (st.toList.map Riff.State.name).map String.toList, '\n' ∉ name := by
    rw [List.map_map]
    intro name hname
    obtain ⟨s, -, rfl⟩ := List.mem_map.1 hname
    cases s <;> decide
  rw [formatStack, Scanner.bracketed, String.toList_append, String.toList_append,
    String.toList_intercalate, List.mem_append, List.mem_append, not_or, not_or]
  exact ⟨⟨by decide, not_mem_intercalate (by decide) hnames⟩, by decide⟩

namespace TokenDump

/-! ## the lines of a dump -/

/-- rows, each as a line, and the line of the stack behind them -/
def blockLines (rows : List Row) (stackLine : String) : List String :=
  rows.map Row.format ++ [stackLine]

/-- the lines of a plain dump -/
def plainLines (rows : List Row) (stack : Riff.Stack) : List String :=
  blockLines rows ("-- stack " ++ formatStack stack)

/-- the lines that a plain dump by lines has for a line -/
def reportLines (r : LineReport) : List String :=
  blockLines r.rows ("-- line " ++ toString r.line ++ " stack " ++ formatStack r.stack)

theorem flatMap_blockLines (rows : List Row) (l : String) :
    (blockLines rows l).flatMap outputLine = plainRows rows ++ outputLine l := by
  rw [blockLines, List.flatMap_append, List.flatMap_map, List.flatMap_singleton]
  rfl

theorem plainReports_eq (rs : List LineReport) :
    plainReports rs = (rs.flatMap reportLines).flatMap outputLine := by
  rw [plainReports, List.flatMap_assoc]
  exact List.flatMap_congr fun r _ => (flatMap_blockLines r.rows _).symm

/-- lines without newlines of their own are the lines of what is put out -/
theorem pieces_flatMap_outputLine {ls : List String} (h : ∀ l ∈ ls, '\n' ∉ l.toList) :
    Text.pieces (ls.flatMap outputLine) = ls.map outputLine := by
  induction ls with
  | nil => rfl
  | cons l ls ih =>
    obtain ⟨hl, hls⟩ := List.forall_mem_cons.1 h
    rw [List.flatMap_cons, outputLine, List.append_assoc, List.singleton_append,
      Text.pieces_append_newline hl, ih hls]
    rfl

/-- what tells the line of a stack from that of a row -/
structure IsStackLine (l : String) : Prop where
  dash : l.toList.head? = some '-'
  newline : '\n' ∉ l.toList

theorem isStackLine_plain (stack : Riff.Stack) :
    IsStackLine ("-- stack " ++ formatStack stack) := by
  refine ⟨by rw [String.toList_append]; rfl, ?_⟩
  rw [String.toList_append, List.mem_append, not_or]
  exact ⟨by decide, newline_not_mem_formatStack stack⟩

theorem isStackLine_report (line : Nat) (stack : Riff.Stack) :
    IsStackLine ("-- line " ++ toString line ++ " stack " ++ formatStack stack) := by
  have hline : '\n' ∉ (toString line).toList := fun hmem =>
    absurd (isDigit_of_mem_toString hmem) (by decide)
  refine ⟨by simp only [String.toList_append]; rfl, ?_⟩
  simp only [String.toList_append, List.mem_append, not_or]
  exact ⟨⟨⟨by decide, hline⟩, by decide⟩, newline_not_mem_formatStack stack⟩

theorem IsStackLine.newline_not_mem {l : String} (h : IsStackLine l) (rows : List Row) :
    ∀ s ∈ blockLines rows l, '\n' ∉ s.toList :=
  List.forall_mem_append.2 ⟨List.forall_mem_map.2 fun r _ => r.newline_not_mem_format,
    List.forall_mem_singleton.2 h.newline⟩

theorem pieces_plain (rows : List Row) (stack : Riff.Stack) :
    (plain rows stack).pieces = (plainLines rows stack).map outputLine := by
  rw [plain, ← flatMap_blockLines,
    pieces_flatMap_outputLine ((isStackLine_plain stack).newline_not_mem rows)]
  rfl

theorem pieces_plainReports (rs : List LineReport) :
    (plainReports rs).pieces = (rs.flatMap reportLines).map outputLine := by
  rw [plainReports_eq, pieces_flatMap_outputLine]
  intro l hl
  obtain ⟨r, -, hl⟩ := List.mem_flatMap.1 hl
  exact (isStackLine_report r.line r.stack).newline_not_mem r.rows l hl

/-! ## the source of a dump -/

/-- the text that a line of a plain dump shows; the line of a stack, which begins with a dash, shows
none -/
def shownText (line : Text) : Text :=
  if line.head? = some '-' then [] else Text.unquote (line.dropWhile (· ≠ '"')).tail

/-- the source that a plain dump shows -/
def shownSource (out : Text) : Text := out.pieces.flatMap shownText

theorem shownText_row (r : Row) : shownText (outputLine r.format) = r.text := by
  obtain ⟨c, rest, hfront, hc⟩ := r.exists_front_cons
  have hline : outputLine r.format = r.front ++ (Text.quote r.text ++ ['\n']) := by
    rw [outputLine, Row.toList_format, List.append_assoc]
  have hhead : (outputLine r.format).head? ≠ some '-' := by
    rw [hline, hfront]
    exact fun h => hc (Option.some.inj h)
  have hnoquote : ∀ d ∈ r.front, decide (d ≠ '"') = true := fun d hd =>
    decide_eq_true fun h => r.not_mem_front (by decide) (h ▸ hd)
  have hquote : (Text.quote r.text ++ ['\n']).dropWhile (· ≠ '"') = Text.quote r.text ++ ['\n'] :=
    List.dropWhile_cons_of_neg (by decide)
  rw [shownText, if_neg hhead, hline, List.dropWhile_append_of_pos hnoquote, hquote,
    Text.unquote_quote]

theorem IsStackLine.shownText {l : String} (h : IsStackLine l) : shownText (outputLine l) = [] := by
  have hhead : (outputLine l).head? = some '-' := by
    rw [outputLine, List.head?_append, h.dash]
    rfl
  rw [TokenDump.shownText, if_pos hhead]

theorem IsStackLine.flatMap_shownText {l : String} (h : IsStackLine l) (rows : List Row) :
    (blockLines rows l).flatMap (fun s => TokenDump.shownText (outputLine s))
      = rows.flatMap Row.text := by
  rw [blockLines, List.flatMap_append, List.flatMap_map, List.flatMap_singleton, h.shownText,
    List.append_nil]
  exact List.flatMap_congr fun r _ => shownText_row r

theorem shownSource_plain (rows : List Row) (stack : Riff.Stack) :
    shownSource (plain rows stack) = rows.flatMap Row.text := by
  rw [shownSource, pieces_plain, List.flatMap_map]
  exact (isStackLine_plain stack).flatMap_shownText rows

theorem shownSource_plainReports (rs : List LineReport) :
    shownSource (plainReports rs) = (rs.flatMap LineReport.rows).flatMap Row.text := by
  rw [shownSource, pieces_plainReports, List.flatMap_map, List.flatMap_assoc, List.flatMap_assoc]
  exact List.flatMap_congr fun r _ => (isStackLine_report r.line r.stack).flatMap_shownText r.rows

/-! ## dumps of highlighted texts -/

section
variable {settings : LexerSettings} {mode : Mode} (h : Highlight.findMode settings = .ok mode)
include h

theorem exists_plain (t : Text) : ∃ whole rows, Highlight.ofText settings none t = .ok whole
    ∧ Row.ofTokens? t (LineIndex.ofText t) whole.tokens = some rows
    ∧ rows.flatMap Row.text = t
    ∧ ofText {} settings t = .ok (some (plain rows whole.stack)) := by
  have hcovers := mode.table.covers_scan .fresh t
  obtain ⟨rows, hrows, htext⟩ := Row.exists_ofTokens (Highlight.covers_arrange settings hcovers)
  have hwhole : Highlight.ofText settings none t = .ok ⟨mode.name,
      Highlight.arrange settings (mode.table.scan .fresh t).tokens,
      (mode.table.scan .fresh t).stack⟩ := by
    rw [Highlight.ofText, h]
    rfl
  refine ⟨_, rows, hwhole, hrows, htext, ?_⟩
  rw [ofText, if_neg Bool.false_ne_true, hwhole]
  show Except.ok (ofHighlight {} t _) = _
  rw [ofHighlight, hrows]
  rfl

theorem exists_plainReports (t : Text) : ∃ ls reports, Highlight.lines settings t = .ok ls
    ∧ LineReport.ofLines? t (LineIndex.ofText t) ls = some reports
    ∧ (reports.flatMap LineReport.rows).flatMap Row.text = t
    ∧ ofText { byLine := true } settings t = .ok (some (plainReports reports)) := by
  let ls := (mode.table.scanLines .fresh t).map fun l =>
    { l with tokens := Highlight.arrange settings l.tokens }
  have hls : Highlight.lines settings t = .ok ls := by
    rw [Highlight.lines, h]
    rfl
  have hlines := Highlight.coversLines_arrange settings (mode.table.coversLines_scanLines .fresh t)
  have hreports : List.Forall₂ (fun l part => ∃ r,
      LineReport.ofLine? t (LineIndex.ofText t) l = some r ∧ r.rows.flatMap Row.text = part)
      ls t.pieces := by
    refine hlines.covered.imp fun l part hl => ?_
    obtain ⟨rows, hrows, htext⟩ := Row.exists_ofTokens hl.tokens
    exact ⟨⟨l.line + 1, rows, l.stack⟩, by rw [LineReport.ofLine?, hrows]; rfl, htext⟩
  obtain ⟨reports, hmap, hparts⟩ := exists_mapM_map hreports
  refine ⟨ls, reports, hls, hmap, ?_, ?_⟩
  · rw [List.flatMap_assoc, ← hlines.text, ← hparts]
    rfl
  · rw [ofText, if_pos rfl, hls]
    show Except.ok (ofLines { byLine := true } t ls) = _
    rw [ofLines, LineReport.ofLines?, hmap]
    rfl

/-- a plain dump shows its source -/
theorem exists_shownSource (byLine : Bool) (t : Text) :
    ∃ out, ofText { byLine } settings t = .ok (some out) ∧ shownSource out = t := by
  cases byLine with
  | false =>
    obtain ⟨whole, rows, -, -, htext, hout⟩ := exists_plain h t
    exact ⟨_, hout, by rw [shownSource_plain, htext]⟩
  | true =>
    obtain ⟨ls, reports, -, -, htext, hout⟩ := exists_plainReports h t
    exact ⟨_, hout, by rw [shownSource_plainReports, htext]⟩

/-- Every source has rows, as a whole and by lines, and joined or not, their texts make up the
source.  In a plain dump each row is a line of its own, and so is each stack; and no other source
has the same plain dump. -/
theorem plain_shows_source (t : Text) :
    (∃ whole rows out, Highlight.ofText settings none t = .ok whole
        ∧ Row.ofTokens? t (LineIndex.ofText t) whole.tokens = some rows
        ∧ rows.flatMap Row.text = t
        ∧ ofText {} settings t = .ok (some out)
        ∧ out.pieces = (plainLines rows whole.stack).map outputLine)
      ∧ (∃ ls reports out, Highlight.lines settings t = .ok ls
        ∧ LineReport.ofLines? t (LineIndex.ofText t) ls = some reports
        ∧ (reports.flatMap LineReport.rows).flatMap Row.text = t
        ∧ ofText { byLine := true } settings t = .ok (some out)
        ∧ out.pieces = (reports.flatMap reportLines).map outputLine)
      ∧ ∀ byLine t', ofText { byLine } settings t' = ofText { byLine } settings t → t' = t := by
  refine ⟨?_, ?_, fun byLine t' heq => ?_⟩
  · obtain ⟨whole, rows, hwhole, hrows, htext, hout⟩ := exists_plain h t
    exact ⟨whole, rows, _, hwhole, hrows, htext, hout, pieces_plain rows whole.stack⟩
  · obtain ⟨ls, reports, hls, hreports, htext, hout⟩ := exists_plainReports h t
    exact ⟨ls, reports, _, hls, hreports, htext, hout, pieces_plainReports reports⟩
  · obtain ⟨out, hout, hshown⟩ := exists_shownSource h byLine t
    obtain ⟨out', hout', hshown'⟩ := exists_shownSource h byLine t'
    rw [hout, hout'] at heq
    cases heq
    exact hshown'.symm.trans hshown

end

/-- a comment over two lines, with text in it that looks like a row and like the line of a stack -/
theorem plain_shows_source_rowlike :
    Highlight.findMode { coalesce := true } = .ok .riff
      ∧ ∃ (rows : List Row) (out : Text),
        rows.flatMap Row.text = "/*1:1 atom \"x\\\n-- stack [start]*/".toList
        ∧ ofText {} { coalesce := true } "/*1:1 atom \"x\\\n-- stack [start]*/".toList
          = .ok (some out)
        ∧ out.pieces.length = rows.length + 1 := by
  have hmode : Highlight.findMode { coalesce := true } = .ok .riff := rfl
  obtain ⟨⟨whole, rows, out, -, -, htext, hout, hpieces⟩, -⟩ :=
    plain_shows_source hmode "/*1:1 atom \"x\\\n-- stack [start]*/".toList
  refine ⟨hmode, rows, out, htext, hout, ?_⟩
  rw [hpieces, List.length_map, plainLines, blockLines, List.length_append, List.length_map]
  rfl

end TokenDump

end Workbench
