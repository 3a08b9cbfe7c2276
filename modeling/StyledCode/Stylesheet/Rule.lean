import StyledCode.Stylesheet.Declaration
import StyledCode.Stylesheet.Selector

/-!
# Rules

A rule gives a list of classes a list of declarations.  A brace without a class list before it does not consume
its block, so rules nested in another block are found as well.

* `Rule` : classes and their declarations
* `Rule.scan` : the rules of a text without comments
-/

namespace StyledCode

/-- Classes and the declarations they share. -/
structure Rule where
  classes : List String
  declarations : List Declaration
  deriving DecidableEq, Repr

namespace Rule

private theorem length_lt_of_dropWhile {p : Char → Bool} {text rest : List Char} {c : Char}
    (h : text.dropWhile p = c :: rest) : rest.length < text.length := by
  have := (List.dropWhile_sublist (l := text) p).length_le
  rw [h, List.length_cons] at this
  omega

/-- The rules of a text without comments, in order.  A block ends at the first closing brace, and one that never
ends stops the scan. -/
def scan (text : List Char) : List Rule :=
  match h : text.dropWhile (· != '\x7b') with
  | [] => []
  | _ :: block =>
    have := length_lt_of_dropWhile h
    match Selector.trailing (text.takeWhile (· != '\x7b')) with
    | [] => scan block
    | selectors =>
      match h' : block.dropWhile (· != '\x7d') with
      | [] => []
      | _ :: after =>
        have := length_lt_of_dropWhile h'
        ⟨Selector.classNames selectors, Declaration.list (block.takeWhile (· != '\x7d'))⟩ :: scan after
termination_by text.length

end Rule

end StyledCode
