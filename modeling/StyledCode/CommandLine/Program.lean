import StyledCode.Color.Css
import StyledCode.CommandLine.Arguments
import StyledCode.Config.Load
import StyledCode.Highlighter.Basic
import StyledCode.Terminal.Layout

/-!
# The command line program

* `Host` : what the program reads
* `RenderRequest.configure` : a configuration with the flags of a call applied
* `RenderRequest.rendered` : markup as a terminal reads it
* `execute` : what the program prints
-/

namespace StyledCode.CommandLine

open Terminal

/-- What the program reads. -/
structure Host where
  /-- The text of the file at a path. -/
  readText : String → Except ReadError String
  /-- The text of the standard input. -/
  input : Except ReadError String
  /-- The themes in the directory at a path. -/
  themesIn : String → ThemeSource

/-- The host with the files of a workspace and the bytes of the standard input. -/
def Host.ofWorkspace (workspace : Workspace) (input : ByteArray) : Host where
  readText := workspace.readText
  input := textOf input
  themesIn := ThemeSource.atPath workspace

namespace RenderRequest

/-- Whether a flag asks for line numbers. -/
def wantsNumbers (request : RenderRequest) : Bool :=
  request.lineNumbers || request.start.isSome || request.minWidth.isSome || request.separator.isSome ||
    request.dark

/-- A numbering with the flags of a call applied. -/
def adjust (request : RenderRequest) (numbering : Numbering) : Numbering :=
  let numbering := request.start.elim numbering numbering.withStart
  let numbering := request.minWidth.elim numbering numbering.withMinWidth
  let numbering := request.separator.elim numbering numbering.withSeparator
  if request.dark then numbering.withDark true else numbering

/-- A configuration with the flags of a call applied; a terminal always decodes the markup here. -/
def configure (request : RenderRequest) (config : Config) : Config :=
  { config with
    fastRender := true
    theme := request.theme.getD config.theme
    numbering :=
      if request.wantsNumbers then some (request.adjust (config.numbering.getD .standard)) else config.numbering }

/-- The background on which a theme is painted. -/
def paper (request : RenderRequest) (theme : Theme) : Option Color :=
  if request.background then some theme.background else none

/-- Markup as a terminal reads it, under a configuration with the flags of a call applied. -/
def rendered (request : RenderRequest) (config : Config) (themes : ThemeSource) (options : Options)
    (html : String) : Except Error String := do
  let config := request.configure config
  let highlighter ← Highlighter.create .identity themes .generic config
  let runs ← (highlighter.highlight html none).1
  let numbered := config.numbering.elim runs (·.number runs)
  let background := request.paper highlighter.theme <|> options.background
  return render { options with background } numbered

end RenderRequest

/-- The themes of a call: those of its directory come before those that are always there. -/
def Arguments.themes (arguments : Arguments) (host : Host) : ThemeSource :=
  ThemeSource.layered ((arguments.themeDirectory.map host.themesIn).toList ++ [.builtin])

/-- The configuration of a call. -/
def Arguments.loadConfig (arguments : Arguments) (host : Host) : Except Error Config :=
  arguments.config.elim (.ok {}) fun path => Config.load (host.readText path)

/-- The text to be rendered. -/
def RenderRequest.readInput (request : RenderRequest) (host : Host) : Except Error String :=
  match request.input with
  | none => host.input.mapError .unreadable
  | some "-" => host.input.mapError .unreadable
  | some path => (host.readText path).mapError .unreadable

/-- The beginning of an escape sequence. -/
private def escapeMark (code : String) : String := "\x1b[" ++ code ++ "m"

/-- A line of the list of themes; the configured one stands out. -/
def themeLine (configured name : String) : String :=
  if name = configured then
    escapeMark "1" ++ name ++ escapeMark "0" ++ " " ++ escapeMark "2" ++ "(configured)" ++ escapeMark "0" ++ "\n"
  else name ++ "\n"

/-- A colour: a patch of it, its hexadecimal form and its channels. -/
def describeColor (value : String) : String :=
  let color := Color.ofCss value
  let channels := [color.red, color.green, color.blue, color.alpha].map Text.thousandths
  selection [color.asBackground] ++ "    " ++ escapeMark "49" ++ " " ++ color.toHex ++ " rgba(" ++
    ", ".intercalate channels ++ ")\n"

/-- What a call prints. -/
def execute (host : Host) (arguments : Arguments) : Except Error String := do
  let config ← arguments.loadConfig host
  match arguments.task with
  | .render request =>
    let html ← request.readInput host
    request.rendered config (arguments.themes host) {} html
  | .themes => return String.join ((arguments.themes host).names.map (themeLine config.theme))
  | .color value => return describeColor value

/-- What a failed call prints to the standard error. -/
def report (error : Error) : String :=
  escapeMark "1" ++ escapeMark "31" ++ "Error:" ++ escapeMark "39" ++ escapeMark "0" ++ " " ++ error.message

/-- What a request for the version prints. -/
def version : String := "hilite 0.3.0\n"

/-- What a request for help prints. -/
def help : String :=
  "Usage: hilite [--config FILE] [--theme-dir DIR] [-v] render|themes|color ...\n"

end StyledCode.CommandLine
