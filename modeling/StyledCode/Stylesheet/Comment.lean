import StyledCode.Text.Search

/-!
# Comments in stylesheets

A comment is worth one space.  The search for the next one goes on behind the one just removed, so what stands on
its two sides never joins to a new comment.

* `Stylesheet.withoutComments` : a stylesheet with a space in place of every comment
-/

namespace StyledCode.Stylesheet

open Text

/-- The text with a space in place of every comment; a comment that is not closed reaches to the end. -/
def withoutComments (text : List Char) : List Char :=
  match h : cut? id ['/', '*'] text with
  | none => text
  | some (before, inside) =>
    match h' : cut? id ['*', '/'] inside with
    | none => before ++ [' ']
    | some (_, after) =>
      have : after.length < text.length :=
        Nat.lt_trans (length_lt_of_cut? id h' (by simp)) (length_lt_of_cut? id h (by simp))
      before ++ ' ' :: withoutComments after
termination_by text.length

end StyledCode.Stylesheet
