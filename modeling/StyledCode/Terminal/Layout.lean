import StyledCode.Run
import StyledCode.Terminal.Command
import StyledCode.Terminal.Width

/-!
# Runs in a terminal

The text is laid out character by character, and all that the layout remembers is the column.  The number of columns
a character takes is a parameter.

* `Layout` : where lines end and what stands beside them
* `Layout.place` : the commands for one character, and the column after it
* `commands` : the commands for runs
* `render` : runs as a terminal reads them
-/

namespace StyledCode.Terminal

/-- Where lines end and what stands beside them. -/
structure Layout where
  /-- The number of columns of a line, without which lines are as long as they are. -/
  width : Option Nat := none
  /-- Whether lines are filled up with blanks to the width. -/
  filled : Bool := false
  /-- The distance of tab stops. -/
  tabWidth : Nat := 4
  /-- The number of blanks in front of every line. -/
  margin : Nat := 0
  deriving DecidableEq, Repr

/-- A layout and the background it is painted on. -/
structure Options extends Layout where
  background : Option Color := none
  deriving DecidableEq, Repr

/-- The least number of columns of a line. -/
def leastWidth : Nat := 10

namespace Layout

/-- The number of columns of a line, no less than the least. -/
def columnLimit? (layout : Layout) : Option Nat := layout.width.map (max · leastWidth)

/-- The number of columns from a column to the next tab stop. -/
def toTabStop (layout : Layout) (column : Nat) : Nat :=
  let distance := max layout.tabWidth 1
  (column / distance + 1) * distance - column

/-- The number of columns a character takes at a column. -/
def advance (measure : Char → Nat) (layout : Layout) (column : Nat) (c : Char) : Nat :=
  if c = '\t' then layout.toTabStop column else measure c

/-- Whether something of a width at a column has to move to the next line: it would end behind the limit, and the
line has more than its margin. -/
def overflows (layout : Layout) (column width : Nat) : Bool :=
  layout.columnLimit?.any fun limit => 0 < width && limit < column + width && layout.margin < column

/-- Blanks on the bare background. -/
def blanks (paper : List Attribute) (count : Nat) : List Command :=
  .select [.reset] :: .select paper :: List.replicate count .blank

/-- The margin in front of a line, and the style of the text again. -/
def openLine (layout : Layout) (paper ink : List Attribute) : List Command :=
  if layout.margin = 0 then [] else blanks paper layout.margin ++ [.select ink]

/-- The blanks that fill a line up from a column. -/
def fill (layout : Layout) (paper : List Attribute) (column : Nat) : List Command :=
  match layout.columnLimit? with
  | some limit => if layout.filled && column < limit then blanks paper (limit - column) else []
  | none => []

/-- The end of a line, in the terminal's own state. -/
def closeLine (layout : Layout) (paper : List Attribute) (column : Nat) : List Command :=
  layout.fill paper column ++ [.select [.reset]]

/-- The end of a line and the style of the text again. -/
def breakLine (layout : Layout) (paper ink : List Attribute) (column : Nat) : List Command :=
  layout.closeLine paper column ++ [.lineFeed, .select ink]

/-- What a character shows, at a column where it fits, and the column after it. -/
def draw (measure : Char → Nat) (layout : Layout) (column : Nat) (c : Char) : List Command × Nat :=
  let width := layout.advance measure column c
  (if c = '\t' then List.replicate width (.glyph ' ') else [.glyph c], column + width)

/-- The commands for a character behind an open margin, and the column after it.  A line feed ends the line, a
carriage return is dropped, and a character that does not fit moves to the next line. -/
def placeInLine (measure : Char → Nat) (layout : Layout) (paper ink : List Attribute) (column : Nat) (c : Char) :
    List Command × Nat :=
  if c = '\n' then (layout.breakLine paper ink column, 0)
  else if c = '\r' then ([], column)
  else if layout.overflows column (layout.advance measure column c) then
    let (shown, next) := layout.draw measure layout.margin c
    (layout.breakLine paper ink column ++ layout.openLine paper ink ++ shown, next)
  else layout.draw measure column c

/-- The commands for a character, and the column after it; in the first column the margin comes first. -/
def place (measure : Char → Nat) (layout : Layout) (paper ink : List Attribute) (column : Nat) (c : Char) :
    List Command × Nat :=
  if column = 0 then
    let (shown, next) := layout.placeInLine measure paper ink layout.margin c
    (layout.openLine paper ink ++ shown, next)
  else layout.placeInLine measure paper ink column c

end Layout

/-- Commands sent so far, in reverse, and the column after them. -/
structure Sent where
  reversed : List Command := []
  column : Nat := 0

/-- More commands are sent, which lead to a column. -/
def Sent.send (sent : Sent) (commands : List Command) (column : Nat) : Sent :=
  ⟨commands.reverseAux sent.reversed, column⟩

/-- The attributes of the bare background. -/
def Options.paper (options : Options) : List Attribute :=
  (options.background.map Color.asBackground).toList

/-- A character is sent. -/
def Sent.character (measure : Char → Nat) (options : Options) (ink : List Attribute) (sent : Sent) (c : Char) :
    Sent :=
  let (commands, column) := options.toLayout.place measure options.paper ink sent.column c
  sent.send commands column

/-- A run is sent: its style is selected, its text laid out, and the state reset. -/
def Sent.run (measure : Char → Nat) (options : Options) (sent : Sent) (run : Run) : Sent :=
  let ink := run.style.attributes options.background
  let opened := sent.send [.select ink] sent.column
  let filled := run.text.toList.foldl (Sent.character measure options ink) opened
  filled.send [.select [.reset]] filled.column

/-- The commands for runs; a last line that is not empty is closed. -/
def commands (measure : Char → Nat) (options : Options) (runs : List Run) : List Command :=
  let sent := runs.foldl (Sent.run measure options) {}
  let closing := if sent.column = 0 then [] else options.toLayout.closeLine options.paper sent.column
  (sent.send closing 0).reversed.reverse

/-- Runs as a terminal reads them. -/
def render (options : Options) (runs : List Run) : String :=
  Command.written (commands columns options runs)

end StyledCode.Terminal
