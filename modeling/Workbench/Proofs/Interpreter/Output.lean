import Workbench.Interpreter.External
import Workbench.Proofs.Text.Lines
import Workbench.Proofs.Text.Utf8

/-!
# Lines before and after decoding

One channel of an interpreter is cut into lines and each line is decoded by itself, the other is
decoded as a whole and then cut.  A newline is a byte of its own, in bytes as in text, so decoding
goes line by line (`map_decodeLossy_bytePieces`); and so is a carriage return, so what ends a line
may be dropped before the line is decoded or afterwards (`decodeLossy_stripEndBytes`).  Both
channels therefore print the same lines for the same bytes: `lineTexts_eq_lines`.
-/

namespace Workbench

open Text (Bytes asciiByte_newline asciiByte_return decodeLossy pieces stripEnd)

/-! ## lines -/

theorem bytePieces_append_newline {l : Bytes} (h : 10 ∉ l) (rest : Bytes) :
    bytePieces (l ++ 10 :: rest) = (l ++ [10]) :: bytePieces rest := by
  induction l with
  | nil => exact if_pos rfl
  | cons b l ih =>
    obtain ⟨hb, hl⟩ := not_or.1 (List.mem_cons.not.1 h)
    rw [List.cons_append, bytePieces, if_neg (Ne.symm hb), ih hl]
    rfl

theorem bytePieces_of_not_mem {l : Bytes} (h : 10 ∉ l) (hne : l ≠ []) : bytePieces l = [l] := by
  induction l with
  | nil => exact absurd rfl hne
  | cons b l ih =>
    obtain ⟨hb, hl⟩ := not_or.1 (List.mem_cons.not.1 h)
    rw [bytePieces, if_neg (Ne.symm hb)]
    cases l with
    | nil => rfl
    | cons c l => rw [ih hl (List.cons_ne_nil c l)]

/-- decoding goes line by line -/
theorem map_decodeLossy_bytePieces (bs : Bytes) :
    (bytePieces bs).map decodeLossy = pieces (decodeLossy bs) := by
  induction h : bs.length using Nat.strongRecOn generalizing bs with
  | _ n ih =>
    by_cases hmem : 10 ∈ bs
    · obtain ⟨l, rest, rfl, hl⟩ := List.eq_append_cons_of_mem hmem
      have hrest : rest.length < n := by
        rw [← h, List.length_append, List.length_cons]
        omega
      have hnewline : '\n' ∉ decodeLossy l := asciiByte_newline.not_mem_decodeLossy hl
      rw [bytePieces_append_newline hl, List.map_cons, ih _ hrest rest rfl,
        asciiByte_newline.decodeLossy_append_cons, asciiByte_newline.decodeLossy_append_cons,
        Text.decodeLossy_nil, Text.pieces_append_newline hnewline]
    · by_cases hbs : bs = []
      · rw [hbs, Text.decodeLossy_nil]
        rfl
      · have hnewline : '\n' ∉ decodeLossy bs := asciiByte_newline.not_mem_decodeLossy hmem
        rw [bytePieces_of_not_mem hmem hbs,
          Text.pieces_line (Text.decodeLossy_ne_nil hbs) fun h =>
            hnewline (List.dropLast_subset _ h)]
        rfl

/-! ## what ends a line -/

/-- a line of bytes has a carriage return and a newline at its end, or a newline, or neither -/
theorem stripEndBytes_cases (p : Bytes) :
    (∃ l, p = l ++ [13, 10] ∧ stripEndBytes p = l)
      ∨ (∃ l, p = l ++ [10] ∧ l.getLast? ≠ some 13 ∧ stripEndBytes p = l)
      ∨ p.getLast? ≠ some 10 ∧ stripEndBytes p = p := by
  have hp : p = p.reverse.reverse := p.reverse_reverse.symm
  unfold stripEndBytes
  split
  · next r hr =>
    rw [hr, List.reverse_cons, List.reverse_cons, List.append_assoc] at hp
    exact .inl ⟨r.reverse, hp, rfl⟩
  · next r hne hr =>
    rw [hr, List.reverse_cons] at hp
    refine .inr (.inl ⟨r.reverse, hp, fun h => ?_, rfl⟩)
    rw [List.getLast?_reverse] at h
    obtain ⟨r', hr'⟩ := List.head?_eq_some_iff.1 h
    exact hne r' hr'
  · next hne =>
    refine .inr (.inr ⟨fun h => ?_, rfl⟩)
    rw [← List.head?_reverse] at h
    obtain ⟨r, hr⟩ := List.head?_eq_some_iff.1 h
    exact hne r hr

/-- what ends a line may be dropped before the line is decoded or afterwards -/
theorem decodeLossy_stripEndBytes (p : Bytes) :
    decodeLossy (stripEndBytes p) = stripEnd (decodeLossy p) := by
  have hnewline (l : Bytes) : decodeLossy (l ++ [10]) = decodeLossy l ++ ['\n'] := by
    rw [asciiByte_newline.decodeLossy_append_cons, Text.decodeLossy_nil]
  have hreturn (l : Bytes) : decodeLossy (l ++ [13, 10]) = decodeLossy l ++ ['\r', '\n'] := by
    have hend : decodeLossy [10] = ['\n'] := by
      simpa only [Text.decodeLossy_nil, List.nil_append] using hnewline []
    rw [asciiByte_return.decodeLossy_append_cons, hend]
  rcases stripEndBytes_cases p with ⟨l, hp, hstrip⟩ | ⟨l, hp, hlast, hstrip⟩ | ⟨hlast, hstrip⟩
  · rw [hstrip, hp, hreturn, Text.stripEnd_return_newline]
  · rw [hstrip, hp, hnewline,
      Text.stripEnd_newline (asciiByte_return.getLast?_decodeLossy_ne hlast)]
  · rw [hstrip, Text.stripEnd_open (asciiByte_newline.getLast?_decodeLossy_ne hlast)]

/-! ## the two channels -/

theorem map_snd_printedLines (o : Outcome) :
    (Interpreter.printedLines o).map Prod.snd
      = lineTexts o.out ++ Text.lines (decodeLossy o.err) := by
  have hsnd (c : Channel) (ls : List Text) : (ls.map (c, ·)).map Prod.snd = ls := by
    rw [List.map_map]
    exact List.map_id ls
  rw [Interpreter.printedLines, List.map_append, hsnd, hsnd]

/-- The lines of bytes, each decoded by itself, are the lines of the decoded bytes, whatever the
bytes are; so a program prints the same on either of its channels. -/
theorem lineTexts_eq_lines (bs : Bytes) :
    lineTexts bs = Text.lines (decodeLossy bs)
      ∧ (Interpreter.printedLines { out := bs }).map Prod.snd
        = (Interpreter.printedLines { err := bs }).map Prod.snd := by
  have hlines : lineTexts bs = Text.lines (decodeLossy bs) := by
    unfold lineTexts Text.lines
    rw [← map_decodeLossy_bytePieces, List.map_map]
    exact List.map_congr_left fun p _ => decodeLossy_stripEndBytes p
  refine ⟨hlines, ?_⟩
  have hnil : Text.lines (decodeLossy []) = [] := by
    rw [Text.decodeLossy_nil]
    rfl
  rw [map_snd_printedLines, map_snd_printedLines, hlines, hnil, List.append_nil]
  rfl

end Workbench
