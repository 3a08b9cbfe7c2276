import StyledCode.Theme.Overlay

/-!
# How lines are numbered

* `Numbering` : the first number, the least width, the texts around a line and the look of the numbers
* `Numbering.withStart` and its like : a numbering with one setting changed, moved to the nearest one that makes sense
* `Numbering.digitWidth` : the width of the numbers of so many lines
* `Numbering.style` : the style of the numbers
-/

namespace StyledCode

/-- How lines are numbered. -/
structure Numbering where
  /-- The number of the first line. -/
  start : UInt64 := 1
  /-- The least number of digits. -/
  minWidth : UInt64 := 2
  /-- What stands between a number and its line. -/
  separator : String := "  "
  /-- What ends a line. -/
  lineBreak : String := "\n"
  /-- Whether the code stands on a dark background. -/
  dark : Bool := false
  /-- The size of the numbers. -/
  fontSize : Float32 := 16
  one_le_start : 1 ≤ start := by decide
  start_lt : start.toNat < 0x8000000000000000 := by decide
  two_le_minWidth : 2 ≤ minWidth := by decide
  separator_ne : separator ≠ "" := by decide
  lineBreak_ne : lineBreak ≠ "" := by decide
  deriving DecidableEq, Repr

namespace Numbering

/-- The numbering that is used when nothing else is asked for. -/
def standard : Numbering := {}

/-- A text, or another one in place of the empty text. -/
private def orElse (text default : String) : String := if text = "" then default else text

private theorem orElse_ne {text default : String} (h : default ≠ "") : orElse text default ≠ "" := by
  unfold orElse
  split <;> assumption

private theorem ofNat_toNatClampNeg (n : Int64) : (UInt64.ofNat n.toNatClampNeg).toNat < 0x8000000000000000 := by
  have := n.toNatClampNeg_lt
  simp only [UInt64.toNat_ofNat']
  omega

/-- A numbering with another first number, at least 1. -/
def withStart (numbering : Numbering) (n : Int64) : Numbering :=
  let value := UInt64.ofNat n.toNatClampNeg
  if h : 1 ≤ value then
    { numbering with start := value, one_le_start := h, start_lt := ofNat_toNatClampNeg n }
  else { numbering with start := 1, one_le_start := by decide, start_lt := by decide }

/-- A numbering with another least width, at least 2. -/
def withMinWidth (numbering : Numbering) (width : UInt64) : Numbering :=
  if h : 2 ≤ width then { numbering with minWidth := width, two_le_minWidth := h }
  else { numbering with minWidth := 2, two_le_minWidth := by decide }

/-- A numbering with another separator, two spaces in place of none. -/
def withSeparator (numbering : Numbering) (separator : String) : Numbering :=
  { numbering with separator := orElse separator "  ", separator_ne := orElse_ne (by decide) }

/-- A numbering with another line break, a line feed in place of none. -/
def withLineBreak (numbering : Numbering) (lineBreak : String) : Numbering :=
  { numbering with lineBreak := orElse lineBreak "\n", lineBreak_ne := orElse_ne (by decide) }

def withDark (numbering : Numbering) (dark : Bool) : Numbering := { numbering with dark }

def withFontSize (numbering : Numbering) (fontSize : Float32) : Numbering := { numbering with fontSize }

theorem div_hundred_lt {total : UInt64} (h : ¬total ≤ 99) : (total / 100).toNat < total.toNat := by
  rw [UInt64.le_iff_toNat_le] at h
  simp only [UInt64.toNat_div, UInt64.reduceToNat] at h ⊢
  omega

/-- A width that grows by 1 whenever a total above 99 is divided by 100. -/
def widen (width total : UInt64) : UInt64 :=
  if h : total ≤ 99 then width
  else
    have := div_hundred_lt h
    widen (width + 1) (total / 100)
termination_by total.toNat

/-- The width of the numbers of so many lines. -/
def digitWidth (numbering : Numbering) (lines : UInt64) : UInt64 :=
  widen numbering.minWidth (lines + (numbering.start - 1))

/-- The gray of the numbers. -/
def color (numbering : Numbering) : Color :=
  let gray := if numbering.dark then Color.rgb 0.667 0.667 0.667 else Color.rgb 0.333 0.333 0.333
  gray.withAlpha 0.2

/-- The style of numbers, separators and the line breaks put after the lines. -/
def style (numbering : Numbering) : Style where
  font := ⟨monospaceFamily, .ultraLight, numbering.fontSize⟩
  foreground := some numbering.color

end Numbering

end StyledCode
