import StyledCode.Text.Blank

/-!
# Class lists before a block

The selectors that matter are lists of dotted classes such as `.a, .b .c`, and of whatever stands before a block
only the longest such list at its end counts.

* `Selector.trailing` : the longest class list at the end of a text
* `Selector.classNames` : the classes of a list, without their dots
-/

namespace StyledCode.Selector

open Text

/-- A character of a class name: a letter or digit of ASCII, `-` or `_`. -/
def isNameChar (c : Char) : Bool := c.isAlphanum || c == '-' || c == '_'

/-- A character between two classes: a comma or white space of ASCII. -/
def isSeparator (c : Char) : Bool := c == ',' || isSpace c

private theorem length_dropWhile_le (p : Char → Bool) (text : List Char) :
    (text.dropWhile p).length ≤ text.length :=
  (List.dropWhile_sublist p).length_le

/-- The longest class list at the end of a text, the text given in reverse, put before the part of the list already
found; `gap` holds the separators between the two. -/
def trailingFrom (found gap reversed : List Char) : List Char :=
  let name := reversed.takeWhile isNameChar
  match h : reversed.dropWhile isNameChar with
  | [] => found
  | dot :: rest =>
    if name.isEmpty || dot != '.' then found
    else
      let found := '.' :: (name.reverse ++ (gap ++ found))
      let separators := rest.takeWhile isSeparator
      if separators.isEmpty then found
      else
        have : (rest.dropWhile isSeparator).length < reversed.length := by
          have h₁ := length_dropWhile_le isNameChar reversed
          have h₂ := length_dropWhile_le isSeparator rest
          rw [h] at h₁
          simp only [List.length_cons] at h₁
          omega
        trailingFrom found separators.reverse (rest.dropWhile isSeparator)
termination_by reversed.length

/-- The longest class list at the end of a text, once white space of ASCII at its end is dropped; empty if there is
none. -/
def trailing (text : List Char) : List Char :=
  trailingFrom [] [] (text.reverse.dropWhile isSpace)

/-- The classes of a list, without their dots. -/
def classNames (selectors : List Char) : List String :=
  ((selectors.splitOnP isSeparator).filter fun item => !item.isEmpty).map fun item =>
    String.ofList (item.dropWhile (· == '.'))

end StyledCode.Selector
