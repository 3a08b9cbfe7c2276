import StyledCode.Numbering.Lines
import StyledCode.Proofs.Run.Cells
import StyledCode.Proofs.Text.Numeral
import StyledCode.Proofs.Text.Search

/-!
# Numbered lines

* `Run.lines_eq` : the lines of runs are the parts that lie between the line breaks of their joined text
* `Numbering.number_lines` : numbering puts a number, a separator and a line break around each line, and changes
  nothing else
-/

namespace StyledCode

open Text

/-- The characters between the line breaks of runs. -/
def Run.linePieces (lineBreak : String) (runs : List Run) : List (List Char) :=
  (splitAround Cell.glyph lineBreak.toList (Run.cells runs)).map (·.map Cell.glyph)

theorem Run.splits_linePieces {lineBreak : String} (h : lineBreak ≠ "") (runs : List Run) :
    Splits lineBreak.toList (Run.plainText runs).toList (Run.linePieces lineBreak runs) := by
  have hne : lineBreak.toList ≠ [] := fun hnil => h (String.toList_eq_nil_iff.1 hnil)
  rw [← Run.glyphs_cells]
  exact splits_splitAround hne _

/-- The lines show the pieces of the joined text. -/
theorem Run.texts_lines (lineBreak : String) (runs : List Run) :
    (Run.lines lineBreak runs).map (fun line => (Run.plainText line).toList) = linePieces lineBreak runs := by
  rw [Run.lines, List.map_map]
  exact List.map_congr_left fun cells _ => Run.plainText_ofCells cells

/-- The lines of runs are the parts that lie between the line breaks. -/
theorem Run.lines_eq {lineBreak : String} (h : lineBreak ≠ "") (runs : List Run) :
    Run.lines lineBreak runs =
      (spans lineBreak.length 0 (linePieces lineBreak runs)).map fun span => Run.between span.1 span.2 runs := by
  have hne : lineBreak.toList ≠ [] := fun hnil => h (String.toList_eq_nil_iff.1 hnil)
  rw [Run.lines, splitAround_eq_spans hne, List.map_map, String.length_toList]
  exact List.map_congr_left fun span _ => Run.ofCells_between span.1 span.2 runs

private theorem Run.toList_plainText_flatMap (last : Run) (lines : List (List Run)) :
    (Run.plainText (lines.flatMap fun line => line ++ [last])).toList =
      lines.flatMap fun line => (Run.plainText line).toList ++ last.text.toList := by
  induction lines with
  | nil => simp [Run.plainText]
  | cons line lines ih =>
    rw [List.flatMap_cons, List.flatMap_cons, ← ih]
    simp [Run.plainText, String.join_append, String.join_cons]

namespace Numbering

/-- The joined text is split at the leftmost line breaks, in one way.  Each of its pieces becomes a line: the numeral of
its number at the width, the separator, the parts of the runs that lie in the piece, and a line break.  The lines show
the pieces, and without the numbers and the separators the joined text, with a line break behind it. -/
theorem number_lines (numbering : Numbering) (runs : List Run) :
    ∃ pieces lines, ∃ numeral : Nat → String,
      Splits numbering.lineBreak.toList (Run.plainText runs).toList pieces ∧
      (∀ others, Splits numbering.lineBreak.toList (Run.plainText runs).toList others → others = pieces) ∧
      pieces ≠ [] ∧
      lines = (spans numbering.lineBreak.length 0 pieces).map (fun span => Run.between span.1 span.2 runs) ∧
      (∀ index text, IsPadded (numbering.digitWidth (UInt64.ofNat pieces.length)).toNat
        (numbering.start.toNat + index) text ↔ text = numeral index) ∧
      numbering.number runs = lines.zipIdx.flatMap (fun (line, index) =>
        [⟨numeral index, numbering.style⟩, ⟨numbering.separator, numbering.style⟩] ++ line ++
          [⟨numbering.lineBreak, numbering.style⟩]) ∧
      lines.map (fun line => (Run.plainText line).toList) = pieces ∧
      (∀ line ∈ lines, ∀ run ∈ line, run.text ≠ "") ∧
      Run.plainText (lines.flatMap fun line => line ++ [⟨numbering.lineBreak, numbering.style⟩]) =
        Run.plainText runs ++ numbering.lineBreak := by
  have hsplits := Run.splits_linePieces numbering.lineBreak_ne runs
  have hlines := Run.lines_eq numbering.lineBreak_ne runs
  have htexts := Run.texts_lines numbering.lineBreak runs
  let width := numbering.digitWidth (UInt64.ofNat (Run.linePieces numbering.lineBreak runs).length)
  refine ⟨_, _, numbering.label width, hsplits, fun others hothers => hothers.unique hsplits, hsplits.ne_nil, hlines,
    fun index text => isPadded_iff, ?_, htexts, ?_, ?_⟩
  · have hlength := congrArg List.length htexts
    rw [List.length_map] at hlength
    rw [number, hlength]
    rfl
  · intro line hline run hrun
    rw [hlines] at hline
    obtain ⟨span, -, rfl⟩ := List.mem_map.1 hline
    exact Run.text_ne_of_mem_between hrun
  · rw [← String.toList_inj, Run.toList_plainText_flatMap, String.toList_append, ← hsplits.flatMap_append, ← htexts,
      List.flatMap_map]

/-- The second line has the first number that needs three digits, and a run for either part of its text. -/
example :
    let numbering := standard.withStart 99
    let plain : Style := ⟨⟨"mono", .regular, 12⟩, none, none⟩
    ((numbering.number [⟨"a\nb", plain⟩, ⟨"c", plain⟩]).map Run.text) =
      ["099", "  ", "a", "\n", "100", "  ", "b", "c", "\n"] := by
  decide +kernel

end Numbering

end StyledCode
