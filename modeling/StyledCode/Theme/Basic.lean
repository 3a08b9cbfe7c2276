import StyledCode.Stylesheet.Printer
import StyledCode.Theme.Overlay

/-!
# Themes

A theme is built once from a stylesheet and a font request; another font gives another theme.

* `Theme.ofStylesheet`, `Theme.build` : the theme of a stylesheet
* `Theme.withFont` : the same theme with other fonts
* `Theme.styleFor` : the style of a list of classes, outermost first
-/

namespace StyledCode

/-- A theme: its fonts, the background of the code block, what its classes set, and its stylesheet as text. -/
structure Theme where
  name : String
  fonts : CodeFonts
  background : Color
  classes : List (String × Overlay)
  css : String
  deriving DecidableEq, Repr

namespace Theme

/-- The theme of a stylesheet with given fonts.  Classes that set nothing are left out, and without a background the
code block is white. -/
def ofStylesheet (name : String) (sheet : Stylesheet) (fonts : CodeFonts) : Theme where
  name := name
  fonts := fonts
  background := sheet.baseBackground?.elim Color.white Color.ofCss
  classes := sheet.classes.filterMap fun (name, declarations) =>
    let overlay := Overlay.ofDeclarations declarations
    if overlay.isEmpty then none else some (name, overlay)
  css := sheet.toCss

/-- The theme written by a text; it fails only when no font can be found. -/
def build (name source : String) (request : Option FontRequest) (provider : FontProvider) :
    Except FontUnavailable Theme := do
  let fonts ← CodeFonts.resolve provider request
  return ofStylesheet name (Stylesheet.ofText source) fonts

/-- The same theme with the fonts of another request. -/
def withFont (theme : Theme) (request : Option FontRequest) (provider : FontProvider) :
    Except FontUnavailable Theme := do
  let fonts ← CodeFonts.resolve provider request
  return { theme with fonts }

private theorem of_resolve {request : Option FontRequest} {provider : FontProvider} {make : CodeFonts → Theme}
    {theme : Theme} :
    (do return make (← CodeFonts.resolve provider request)) = Except.ok theme ↔
      ∃ fonts, CodeFonts.resolve provider request = .ok fonts ∧ make fonts = theme := by
  cases hfonts : CodeFonts.resolve provider request with
  | error e => exact ⟨fun h => by contradiction, fun ⟨_, h, _⟩ => by contradiction⟩
  | ok fonts =>
    exact ⟨fun h => ⟨fonts, rfl, Except.ok.inj h⟩, fun ⟨_, h, htheme⟩ => Except.ok.inj h ▸ congrArg Except.ok htheme⟩

/-- A theme is built wherever fonts are found. -/
theorem build_eq_ok_iff {name source : String} {request : Option FontRequest} {provider : FontProvider}
    {theme : Theme} :
    build name source request provider = .ok theme ↔
      ∃ fonts, CodeFonts.resolve provider request = .ok fonts ∧
        ofStylesheet name (Stylesheet.ofText source) fonts = theme :=
  of_resolve

/-- A theme gets other fonts wherever these are found. -/
theorem withFont_eq_ok_iff {theme changed : Theme} {request : Option FontRequest} {provider : FontProvider} :
    theme.withFont request provider = .ok changed ↔
      ∃ fonts, CodeFonts.resolve provider request = .ok fonts ∧ { theme with fonts } = changed :=
  of_resolve

/-- What a class sets, if the theme knows it. -/
def overlay? (theme : Theme) (name : String) : Option Overlay := theme.classes.lookup name

/-- The style of text outside all classes. -/
def baseStyle (theme : Theme) : Style := { font := theme.fonts.base }

/-- A style inside one more class; a class the theme does not know changes nothing. -/
def applyClass (theme : Theme) (style : Style) (name : String) : Style :=
  (theme.overlay? name).elim style fun overlay => overlay.apply theme.fonts style

/-- The style of a list of classes, outermost first. -/
def styleFor (theme : Theme) (classes : List String) : Style :=
  classes.foldl theme.applyClass theme.baseStyle

end Theme

end StyledCode
