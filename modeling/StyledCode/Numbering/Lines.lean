import StyledCode.Numbering.Basic
import StyledCode.Run
import StyledCode.Text.Numeral
import StyledCode.Text.Search

/-!
# Numbered lines

* `Run.lines` : runs split at the line breaks of their joined text
* `Numbering.label` : the number in front of a line
* `Numbering.number` : runs with every line numbered
-/

namespace StyledCode

open Text

/-- Runs split into lines at a line break, which may lie across several runs. -/
def Run.lines (lineBreak : String) (runs : List Run) : List (List Run) :=
  (splitAround Cell.glyph lineBreak.toList (Run.cells runs)).map Run.ofCells

namespace Numbering

/-- The number in front of the line with an index. -/
def label (numbering : Numbering) (width : UInt64) (index : Nat) : String :=
  padded width.toNat (numbering.start.toNat + index)

/-- A line with its number and separator in front and a line break behind. -/
def numberLine (numbering : Numbering) (width : UInt64) (line : List Run) (index : Nat) : List Run :=
  ⟨numbering.label width index, numbering.style⟩ :: ⟨numbering.separator, numbering.style⟩ ::
    line ++ [⟨numbering.lineBreak, numbering.style⟩]

/-- Runs with every line numbered.  A text that ends in a line break gets a last line that is empty. -/
def number (numbering : Numbering) (runs : List Run) : List Run :=
  let lines := Run.lines numbering.lineBreak runs
  let width := numbering.digitWidth (UInt64.ofNat lines.length)
  lines.zipIdx.flatMap fun (line, index) => numbering.numberLine width line index

end Numbering

end StyledCode
