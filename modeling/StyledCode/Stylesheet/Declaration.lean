import StyledCode.Text.Blank

/-!
# Declarations

* `Declaration` : a property with its value
* `Declaration.ofText?` : the declaration written by a text
* `Declaration.list` : the declarations of a block
-/

namespace StyledCode

/-- A property with its value. -/
structure Declaration where
  property : String
  value : String
  deriving DecidableEq, Repr

namespace Declaration

open Text

/-- The declaration written by a text: exactly one colon, and a property before it. -/
def ofText? (text : List Char) : Option Declaration :=
  match text.splitOn ':' with
  | [property, value] =>
    let property := trim property
    if property.isEmpty then none
    else some ⟨String.ofList property, String.ofList (trim value)⟩
  | _ => none

/-- The declarations of a block; pieces that are none are skipped. -/
def list (block : List Char) : List Declaration :=
  (block.splitOn ';').filterMap ofText?

end Declaration

end StyledCode
