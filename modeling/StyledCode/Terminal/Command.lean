import StyledCode.Color.Printer
import StyledCode.Theme.Overlay

/-!
# Terminal commands

What a program sends to a terminal: characters, line feeds and selections of a graphic state.  A selection lists
attributes; each of them changes the state, and `reset` takes it back to the terminal's own.

* `Attribute`, `Command` : an attribute, and one thing sent to a terminal
* `Command.written` : commands as the terminal reads them
* `Style.attributes` : the attributes of a style, painted on a background
-/

namespace StyledCode

namespace Terminal

/-- An attribute of a selection. -/
inductive Attribute
  | reset
  | bold
  | faint
  | italic
  | foreground (red green blue : UInt8)
  | background (red green blue : UInt8)
  deriving DecidableEq, Repr

/-- One thing that is sent to a terminal. -/
inductive Command
  /-- Attributes are selected; an empty list selects nothing. -/
  | select (attributes : List Attribute)
  /-- A character of the text; a tab is sent as the spaces it expands to. -/
  | glyph (c : Char)
  /-- A space beside the text. -/
  | blank
  /-- The end of a line. -/
  | lineFeed
  deriving DecidableEq, Repr

/-- Three channels, between semicolons. -/
private def channels (red green blue : UInt8) : String :=
  ";2;" ++ red.toNat.repr ++ ";" ++ green.toNat.repr ++ ";" ++ blue.toNat.repr

/-- An attribute as it stands in a selection. -/
def Attribute.written : Attribute → String
  | reset => "0"
  | bold => "1"
  | faint => "2"
  | italic => "3"
  | foreground red green blue => "38" ++ channels red green blue
  | background red green blue => "48" ++ channels red green blue

/-- Attributes as a terminal reads their selection. -/
def selection : List Attribute → String
  | [] => ""
  | attributes => "\x1b[" ++ ";".intercalate (attributes.map Attribute.written) ++ "m"

namespace Command

/-- The characters of a command. -/
def characters : Command → List Char
  | select attributes => (selection attributes).toList
  | glyph c => [c]
  | blank => [' ']
  | lineFeed => ['\n']

/-- Commands as a terminal reads them. -/
def written (commands : List Command) : String := String.ofList (commands.flatMap characters)

end Command

end Terminal

open Terminal

/-- The attributes of a face. -/
def Face.attributes : Face → List Attribute
  | bold => [.bold]
  | ultraLight => [.faint]
  | italic => [.italic]
  | oblique => [.italic]
  | regular => []

/-- The attribute that makes a colour the foreground. -/
def Color.asForeground (c : Color) : Attribute :=
  let (red, green, blue) := c.bytes
  .foreground red green blue

/-- The attribute that makes a colour the background. -/
def Color.asBackground (c : Color) : Attribute :=
  let (red, green, blue) := c.bytes
  .background red green blue

namespace Style

/-- The background of a style on a background: a translucent one is painted over that below it, and counts as
opaque where there is none below. -/
def backgroundOn (style : Style) (below : Option Color) : Option Color :=
  match style.background, below with
  | some front, some below => some (front.onto below)
  | some front, none => some (front.withAlpha 1)
  | none, below => below

/-- The foreground of a style on a background. -/
def foregroundOn (style : Style) (below : Option Color) : Option Color :=
  style.foreground.map fun front => (style.backgroundOn below).elim front front.onto

/-- The attributes of a style on a background. -/
def attributes (style : Style) (below : Option Color) : List Attribute :=
  style.font.face.attributes ++ ((style.foregroundOn below).map Color.asForeground).toList ++
    ((style.backgroundOn below).map Color.asBackground).toList

end Style

end StyledCode
