import StyledCode.Reference.Basic
import StyledCode.Run

/-!
# References in runs

References are found in the joined text, so one that lies across several runs is found too; the character it stands
for takes the style of the run in which it begins.

* `Piece` : a character that is kept, or a reference with its character
* `pieces` : a text in pieces
* `expand` : runs with their references replaced
-/

namespace StyledCode.Reference

/-- A character that is kept, or a reference with the character it stands for. -/
inductive Piece (α : Type)
  | kept (a : α)
  | replaced (reference : List α) (character : Char)
  deriving Repr

namespace Piece

variable {α : Type}

/-- Whether a piece is a reference that is replaced. -/
def isReplaced : Piece α → Bool
  | kept _ => false
  | replaced _ _ => true

/-- What a piece covers of the text. -/
def source : Piece α → List α
  | kept a => [a]
  | replaced reference _ => reference

/-- What stands in the text for a piece: the first cell of a reference takes its character. -/
def cells : Piece Cell → List Cell
  | kept a => [a]
  | replaced [] _ => []
  | replaced (first :: _) c => [{ first with glyph := c }]

end Piece

variable {α : Type} (glyph : α → Char)

/-- The pieces of a text, put before those already found in reverse.  Behind a reference the search goes on after
its end; behind an `&` that begins none, at the next character. -/
def piecesFrom (done : List (Piece α)) (text : List α) : List (Piece α) :=
  match text with
  | [] => done.reverse
  | a :: rest =>
    match h : take? glyph (a :: rest) with
    | none => piecesFrom (.kept a :: done) rest
    | some (reference, after) =>
      have : after.length < rest.length + 1 := length_lt_of_take? glyph h
      match decode? (reference.map glyph) with
      | some c => piecesFrom (.replaced reference c :: done) after
      | none => piecesFrom ((reference.map .kept).reverse ++ done) after
termination_by text.length

/-- A text in pieces. -/
def pieces (text : List α) : List (Piece α) := piecesFrom glyph [] text

/-- Runs with their references replaced.  A run that ends up empty is dropped; if there is nothing to replace, the
runs stay as they are. -/
def expand (runs : List Run) : List Run :=
  let pieces := pieces Cell.glyph (Run.cells runs)
  if pieces.any Piece.isReplaced then Run.ofCells (pieces.flatMap Piece.cells) else runs

end StyledCode.Reference
