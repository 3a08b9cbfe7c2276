import StyledCode.Color.Css
import StyledCode.Font
import StyledCode.Stylesheet.Basic

/-!
# Styles and overlays

* `Style` : the font and the colours of a piece of text
* `Overlay` : the attributes that a class sets, the others left open
* `Overlay.ofDeclarations` : the overlay that declarations describe
* `Overlay.apply` : a style with an overlay laid over it
-/

namespace StyledCode

/-- The font and the colours of a piece of text. -/
structure Style where
  font : Font
  foreground : Option Color := none
  background : Option Color := none
  deriving DecidableEq, Repr

/-- The variant that a `font-weight` or a `font-style` asks for. -/
def Variant.ofCss (value : String) : Variant :=
  match String.ofList (Text.trim value.toList) with
  | "bold" | "bolder" | "600" | "700" | "800" | "900" => .bold
  | "italic" | "oblique" => .italic
  | _ => .base

/-- The attributes that a class sets. -/
structure Overlay where
  foreground : Option Color := none
  background : Option Color := none
  variant : Option Variant := none
  deriving DecidableEq, Repr

namespace Overlay

/-- The overlay after one more declaration; properties other than four are ignored. -/
def declare (overlay : Overlay) (d : Declaration) : Overlay :=
  match d.property with
  | "color" => { overlay with foreground := some (Color.ofCss d.value) }
  | "background-color" => { overlay with background := some (Color.ofCss d.value) }
  | "font-weight" | "font-style" => { overlay with variant := some (Variant.ofCss d.value) }
  | _ => overlay

/-- The overlay that declarations describe: of two that set the same attribute the later one counts. -/
def ofDeclarations (declarations : List Declaration) : Overlay :=
  declarations.foldl declare {}

/-- Whether an overlay sets nothing. -/
def isEmpty (overlay : Overlay) : Bool :=
  overlay.foreground.isNone && overlay.background.isNone && overlay.variant.isNone

/-- A style with an overlay laid over it: what the overlay leaves open stays. -/
def apply (overlay : Overlay) (fonts : CodeFonts) (style : Style) : Style where
  font := overlay.variant.elim style.font fonts.get
  foreground := overlay.foreground <|> style.foreground
  background := overlay.background <|> style.background

end Overlay

end StyledCode
