import StyledCode.Theme.Overlay

/-!
# Runs

A run is a piece of text in one style.  To look at the joined text of many runs without losing their styles, the
runs are taken apart into cells, one for each character, and put together again.

* `Run` : a text and its style
* `plainText` : the joined text of runs
* `cells` : the characters of runs, each with its style and the number of its run
* `ofCells` : cells put together, neighbours of the same run in one run
-/

namespace StyledCode

/-- A piece of text in one style. -/
structure Run where
  text : String
  style : Style
  deriving DecidableEq, Repr

/-- A character of a run. -/
structure Cell where
  glyph : Char
  /-- The number of the run the character belongs to. -/
  run : Nat
  style : Style
  deriving DecidableEq, Repr

namespace Run

/-- The joined text of runs. -/
def plainText (runs : List Run) : String := String.join (runs.map (·.text))

/-- The first run with exactly this text. -/
def findText? (runs : List Run) (text : String) : Option Run := runs.find? (·.text == text)

/-- The cells of one run. -/
def toCells (run : Run) (number : Nat) : List Cell := run.text.toList.map (⟨·, number, run.style⟩)

/-- The characters of runs, numbered by run. -/
def cells (runs : List Run) : List Cell := runs.zipIdx.flatMap fun (run, number) => run.toCells number

/-- The run of some neighbouring cells, in the style of the first. -/
def ofGroup? : List Cell → Option Run
  | [] => none
  | first :: rest => some ⟨String.ofList ((first :: rest).map (·.glyph)), first.style⟩

/-- Cells put together, neighbours of the same run in one run. -/
def ofCells (cells : List Cell) : List Run :=
  (cells.splitBy fun a b => a.run == b.run).filterMap ofGroup?

end Run

end StyledCode
