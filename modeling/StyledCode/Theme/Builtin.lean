import StyledCode.Stylesheet.Printer

/-!
# Themes that are always there

* `Theme.builtin` : the `default` and the `dark` theme, laid out for reading
* `Theme.plain` : two small themes with one class for each attribute, without space
-/

namespace StyledCode.Theme

private def rule (classes : List String) (declarations : List (String × String)) : Rule :=
  ⟨classes.map fun name => if name.isEmpty then baseClass else baseClass ++ "-" ++ name,
    declarations.map fun (property, value) => ⟨property, value⟩⟩

/-- A stylesheet as text: the lines of a comment, then the rules. -/
private def sheet (comment : List String) (rules : List Rule) : String :=
  "/*\n" ++ String.join (comment.map fun line => " * " ++ line ++ "\n") ++ " */\n\n" ++
    "\n".intercalate (rules.map Rule.pretty)

private def block (background color : String) : Rule :=
  rule [""] [("display", "block"), ("overflow-x", "auto"), ("padding", "0.5em"), ("background", background),
    ("color", color)]

/-- The light theme that is used by default. -/
def light : String :=
  sheet ["hilite default: a light theme using the highlight.js class vocabulary."]
    [block "#f3f3f3" "#333333",
      rule ["comment", "quote"] [("color", "#8a8a80"), ("font-style", "italic")],
      rule ["keyword", "selector-tag", "literal", "doctag"] [("color", "#1d4f91"), ("font-weight", "bold")],
      rule ["string", "regexp", "addition"] [("color", "#2e7d32")],
      rule ["number", "symbol", "bullet"] [("color", "#b04a00")],
      rule ["title", "section", "selector-id"] [("color", "#6a1b9a"), ("font-weight", "600")],
      rule ["type", "built_in", "class"] [("color", "#00695c")],
      rule ["attr", "attribute", "variable", "template-variable"] [("color", "#0b6e99")],
      rule ["meta"] [("color", "#7c7c7c")],
      rule ["deletion"] [("color", "#b71c1c"), ("background-color", "#fde0e0")],
      rule ["addition"] [("background-color", "#e3f6e3")],
      rule ["emphasis"] [("font-style", "italic")],
      rule ["strong"] [("font-weight", "bold")],
      rule ["link"] [("color", "#1565c0"), ("text-decoration", "underline")]]

/-- The theme for dark surroundings. -/
def dark : String :=
  sheet ["hilite dark: a low-contrast dark theme using the highlight.js class", "vocabulary."]
    [block "#1e2127" "#c5cad3",
      rule ["comment", "quote"] [("color", "#6b7280"), ("font-style", "italic")],
      rule ["keyword", "selector-tag", "literal"] [("color", "#c792ea")],
      rule ["doctag", "formula"] [("color", "#c792ea"), ("font-style", "italic")],
      rule ["string", "regexp", "addition"] [("color", "#a5d6a7")],
      rule ["number", "symbol", "bullet"] [("color", "#f7a26c")],
      rule ["title", "section"] [("color", "#82aaff"), ("font-weight", "bold")],
      rule ["type", "built_in", "selector-class"] [("color", "#ffcb6b")],
      rule ["attr", "attribute", "variable", "template-variable"] [("color", "#f07178")],
      rule ["meta"] [("color", "#89ddff")],
      rule ["deletion"] [("color", "#ff8a80"), ("background-color", "#3b1f22")],
      rule ["emphasis"] [("font-style", "italic")],
      rule ["strong"] [("font-weight", "800")],
      rule ["link"] [("color", "#80cbc4"), ("text-decoration", "underline")]]

/-- The themes that are always there, by name. -/
def builtin : List (String × String) := [("default", light), ("dark", dark)]

private def compact (rules : List Rule) : String := "".intercalate (rules.map Rule.compact)

/-- A light theme with one class for each attribute. -/
def plainLight : String :=
  compact [rule [""] [("background", "#ffffff"), ("color", "#000000")],
    rule ["keyword"] [("color", "#0000ff"), ("font-weight", "bold")],
    rule ["string"] [("color", "#ff0000")],
    rule ["comment"] [("color", "#808080"), ("font-style", "italic")],
    rule ["subst"] [("background-color", "#eeeeee")]]

/-- A dark theme with most of the classes of `plainLight`. -/
def plainDark : String :=
  compact [rule [""] [("background-color", "#000000"), ("color", "#ffffff")],
    rule ["keyword"] [("color", "#8888ff"), ("font-weight", "700")],
    rule ["string"] [("color", "#ff8888")],
    rule ["comment"] [("color", "#888888"), ("font-style", "oblique")]]

/-- The small themes, by name. -/
def plain : List (String × String) := [("default", plainLight), ("light", plainLight), ("dark", plainDark)]

end StyledCode.Theme
