import StyledCode.Config.Basic
import StyledCode.Error
import StyledCode.Markup.Decode
import StyledCode.Numbering.Lines
import StyledCode.Theme.Source

/-!
# Highlighters

A highlighter turns code into runs, by way of its tokenizer and in the style of its current theme.  The theme is
built anew whenever its name or its font changes, and the observers are told.  Observers and collaborators see a
highlighter at work only through what it asks of them, so every operation returns these events beside its answer.

* `Highlighter`, `Highlighter.create` : a highlighter, and one for a configuration
* `Operation`, `Answer`, `Event` : what can be asked of a highlighter, what it answers, and what others see of it
* `Highlighter.perform` : an operation carried out
* `Highlighter.run` : several operations carried out one after the other
-/

namespace StyledCode

/-- How a host turns a document into runs, if it can. -/
abbrev Renderer := String → Option (List Run)

/-- A highlighter: its collaborators, what it is asked to do, and the theme in force. -/
structure Highlighter where
  tokenizer : Tokenizer
  themes : ThemeSource
  fonts : FontProvider
  /-- Whether the font provider answers at present. -/
  fontsOn : Bool := true
  renderer : Option Renderer := none
  config : Config
  theme : Theme
  /-- The number of observers, who count from 1. -/
  observers : Nat := 0

/-- What can be asked of a highlighter. -/
inductive Operation
  | setTheme (name : String)
  | setThemeWithFont (name : String) (font : FontRequest)
  | setFont (font : FontRequest)
  | setFastRender (on : Bool)
  | setIgnoreIllegals (on : Bool)
  | setNumbering (numbering : Option Numbering)
  | observe
  /-- The font provider stops answering, or answers again. -/
  | switchFonts (on : Bool)
  | install (renderer : Renderer)
  /-- Code is highlighted, with lines numbered as configured. -/
  | highlight (code : String) (language : Option String)
  /-- Code is highlighted, with lines numbered as given here. -/
  | highlightNumbered (code : String) (language : Option String) (numbering : Option Numbering)
  | listThemes
  | listLanguages

/-- What a highlighter answers. -/
inductive Answer
  | done
  | theme (theme : Theme)
  | runs (runs : List Run)
  | names (names : List String)
  | failure (error : Error)
  deriving DecidableEq, Repr

/-- What others see of a highlighter. -/
inductive Event
  /-- An observer is told the theme now in force. -/
  | observed (observer : Nat) (theme : Theme)
  /-- The tokenizer is asked. -/
  | tokenized (code : String) (language : Option String) (ignoreIllegals : Bool)
  /-- The renderer is given a document. -/
  | rendered (document : String)
  deriving DecidableEq, Repr

/-- An operation carried out: the answer, the events in their order, and the highlighter after it. -/
structure Step where
  answer : Answer
  events : List Event
  after : Highlighter

/-- The theme of a name in the fonts of a request. -/
def ThemeSource.build (themes : ThemeSource) (fonts : FontProvider) (name : String) (font : Option FontRequest) :
    Except Error Theme :=
  match themes.load? name with
  | none => .error (.unknownTheme name)
  | some source => (Theme.build name source font fonts).mapError .fontUnavailable

namespace Highlighter

/-- A highlighter for a configuration. -/
def create (tokenizer : Tokenizer) (themes : ThemeSource) (fonts : FontProvider) (config : Config) :
    Except Error Highlighter := do
  let theme ← themes.build fonts config.theme config.font
  return { tokenizer, themes, fonts, config, theme }

/-- The font provider as it answers at present. -/
def provider (h : Highlighter) : FontProvider := if h.fontsOn then h.fonts else .none

/-- Every observer is told the theme in force. -/
def announce (h : Highlighter) : List Event :=
  (List.range h.observers).map fun n => .observed (n + 1) h.theme

/-- A theme put in force with the configuration that asks for it, if it could be built. -/
def adopt (h : Highlighter) (config : Config) : Except Error Theme → Step
  | .error e => ⟨.failure e, [], h⟩
  | .ok theme =>
    let after := { h with config, theme }
    ⟨.theme theme, after.announce, after⟩

/-- A theme of another name, in the fonts of a request. -/
def changeTheme (h : Highlighter) (name : String) (font : Option FontRequest) : Step :=
  h.adopt { h.config with theme := name, font } (h.themes.build h.provider name font)

/-- The theme in force, in the fonts of a request. -/
def changeFont (h : Highlighter) (font : FontRequest) : Step :=
  h.adopt { h.config with font := some font }
    ((h.theme.withFont (some font) h.provider).mapError .fontUnavailable)

/-- The runs of a tokenizer's output, and the events on the way. -/
def decode (h : Highlighter) (html : String) : Except Error (List Run) × List Event :=
  if h.config.fastRender then (.ok (Markup.decode h.theme html), [])
  else
    match h.renderer with
    | none => (.error .rendererUnavailable, [])
    | some render =>
      let document := Markup.document h.theme html
      ((render document).elim (.error .renderFailed) .ok, [.rendered document])

/-- The runs of code without numbers, and the events on the way. -/
def highlight (h : Highlighter) (code : String) (language : Option String) :
    Except Error (List Run) × List Event :=
  let call := Event.tokenized code language h.config.ignoreIllegals
  match h.tokenizer.checked code language h.config.ignoreIllegals with
  | .error e => (.error (.ofTokenize language e), [call])
  | .ok html =>
    let (result, events) := h.decode html
    (result, call :: events)

/-- Code highlighted, with lines numbered as given. -/
def highlightNumbered (h : Highlighter) (code : String) (language : Option String)
    (numbering : Option Numbering) : Step :=
  let (result, events) := h.highlight code language
  match result with
  | .error e => ⟨.failure e, events, h⟩
  | .ok runs => ⟨.runs (numbering.elim runs (·.number runs)), events, h⟩

/-- An operation that only changes the state. -/
def quiet (after : Highlighter) : Step := ⟨.done, [], after⟩

/-- An operation carried out. -/
def perform (h : Highlighter) : Operation → Step
  | .setTheme name => h.changeTheme name h.config.font
  | .setThemeWithFont name font => h.changeTheme name (some font)
  | .setFont font => h.changeFont font
  | .setFastRender on => quiet { h with config := { h.config with fastRender := on } }
  | .setIgnoreIllegals on => quiet { h with config := { h.config with ignoreIllegals := on } }
  | .setNumbering numbering => quiet { h with config := { h.config with numbering } }
  | .observe => quiet { h with observers := h.observers + 1 }
  | .switchFonts on => quiet { h with fontsOn := on }
  | .install renderer => quiet { h with renderer := some renderer }
  | .highlight code language => h.highlightNumbered code language h.config.numbering
  | .highlightNumbered code language numbering => h.highlightNumbered code language numbering
  | .listThemes => ⟨.names h.themes.names, [], h⟩
  | .listLanguages => ⟨.names h.tokenizer.languages, [], h⟩

/-- Several operations carried out one after the other. -/
def run (h : Highlighter) : List Operation → List Step
  | [] => []
  | operation :: operations =>
    let step := h.perform operation
    step :: run step.after operations

/-- The highlighter after several operations. -/
def after (h : Highlighter) (operations : List Operation) : Highlighter :=
  operations.foldl (fun h operation => (h.perform operation).after) h

end Highlighter

end StyledCode
