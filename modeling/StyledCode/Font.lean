/-!
# Fonts

Looking up a family is the host's business; a theme only asks for it through `FontProvider`.

* `Font` : a family, a face and a size
* `FontProvider` : what a host answers when it is asked for a font
* `Variant` : which of a theme's fonts a class selects
* `CodeFonts` : the base font of a theme and its bold and italic variants
-/

namespace StyledCode

/-- A face within a family. -/
inductive Face
  | regular
  | bold
  | italic
  | oblique
  | ultraLight
  deriving DecidableEq, Repr

/-- A font that can be drawn. -/
structure Font where
  family : String
  face : Face
  size : Float32
  deriving DecidableEq, Repr

/-- Whether a font is heavier than regular. -/
def Font.isBold (font : Font) : Bool := font.face == .bold

/-- Whether a font is slanted. -/
def Font.isSlanted (font : Font) : Bool := font.face == .italic || font.face == .oblique

/-- The family used when none is asked for. -/
def defaultFamily : String := "courier"

/-- The size used when none is asked for. -/
def defaultSize : Float32 := 14

/-- The generic family of fixed width. -/
def monospaceFamily : String := "monospace"

/-- The code font that a user asks for. -/
structure FontRequest where
  family : String := defaultFamily
  size : Float32 := defaultSize
  deriving DecidableEq, Repr

/-- What a host answers when it is asked for a font. -/
structure FontProvider where
  /-- The font for a family, a face and a size, if the face is installed; its family may be another one. -/
  find? : String → Face → Float32 → Option Font
  /-- The font to use where nothing else is found. -/
  fallback? : Float32 → Option Font

namespace FontProvider

/-- The provider that has every font, for hosts that draw faces themselves. -/
def generic : FontProvider where
  find? family face size := some ⟨family, face, size⟩
  fallback? size := some ⟨monospaceFamily, .regular, size⟩

/-- The provider that has no font at all. -/
def none : FontProvider where
  find? _ _ _ := Option.none
  fallback? _ := Option.none

/-- The provider with a list of installed faces, each with the family it answers with, and perhaps a fallback
family. -/
def installed (faces : List ((String × Face) × String)) (fallback : Option String) : FontProvider where
  find? family face size := (faces.lookup (family, face)).map fun answered => ⟨answered, face, size⟩
  fallback? size := fallback.map fun family => ⟨family, .regular, size⟩

end FontProvider

/-- No font could be found for a request. -/
structure FontUnavailable where
  family : String
  deriving DecidableEq, Repr

def FontUnavailable.message (e : FontUnavailable) : String :=
  "no usable code font: `" ++ e.family ++ "` could not be resolved and there is no system default"

/-- Which of a theme's fonts a class selects. -/
inductive Variant
  | base
  | bold
  | italic
  deriving DecidableEq, Repr

/-- The base code font and its variants. -/
structure CodeFonts where
  base : Font
  bold : Font
  italic : Font
  deriving DecidableEq, Repr

namespace CodeFonts

/-- The base font with the variants that the provider has of it.  Bold falls back to the base font; italic falls
back to the oblique face when the italic one is missing or of another family, and then to the base font. -/
def ofBase (provider : FontProvider) (base : Font) : CodeFonts where
  base := base
  bold := (provider.find? base.family .bold base.size).getD base
  italic :=
    ((provider.find? base.family .italic base.size).filter (·.family == base.family) <|>
      provider.find? base.family .oblique base.size).getD base

/-- The base font for a request: the family asked for, else the default family, else the fallback. -/
def base? (provider : FontProvider) (request : Option FontRequest) : Option Font :=
  let size := request.elim defaultSize (·.size)
  request.bind (fun r => provider.find? r.family .regular r.size) <|>
    provider.find? defaultFamily .regular size <|> provider.fallback? size

/-- The fonts for a request. -/
def resolve (provider : FontProvider) (request : Option FontRequest) : Except FontUnavailable CodeFonts :=
  match base? provider request with
  | some base => .ok (ofBase provider base)
  | none => .error ⟨request.elim defaultFamily (·.family)⟩

/-- The font of a variant. -/
def get (fonts : CodeFonts) : Variant → Font
  | .base => fonts.base
  | .bold => fonts.bold
  | .italic => fonts.italic

end CodeFonts

end StyledCode
