import StyledCode.Terminal.Width.Marks
import StyledCode.Terminal.Width.Wide

/-!
# Columns of a character

* `columns` : the number of columns a character takes in a terminal
-/

namespace StyledCode.Terminal

/-- Whether a code lies in one of some ranges. -/
def within (ranges : List (Nat × Nat)) (code : Nat) : Bool :=
  ranges.any fun (first, last) => first ≤ code && code ≤ last

/-- Whether a code is that of a mark, which takes no column. -/
def isMark (code : Nat) : Bool :=
  if code < 0x1000 then within lowMarks code
  else if code < 0x10000 then within middleMarks code
  else within highMarks code

/-- The number of columns a character takes.  Control characters and marks take none, wide characters two.  The
Khmer independent vowel qaa stands for two letters and the sign beyyal for three. -/
def columns (c : Char) : Nat :=
  let code := c.toNat
  if code < 0x20 || (0x7f ≤ code && code < 0xa0) then 0
  else if code < 0xad then 1
  else if isMark code then 0
  else if within wideRanges code then 2
  else if code == 0x17a4 then 2
  else if code == 0x17d8 then 3
  else 1

end StyledCode.Terminal
