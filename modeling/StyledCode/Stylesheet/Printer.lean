import StyledCode.Stylesheet.Basic

/-!
# Written stylesheets

* `Stylesheet.toCss` : the stylesheet without space, and without the background of the base class
* `Rule.pretty`, `Rule.compact` : a rule laid out one declaration to a line, or without space
-/

namespace StyledCode

/-- A declaration as `property:value;`. -/
def Declaration.toCss (d : Declaration) : String := d.property ++ ":" ++ d.value ++ ";"

namespace Stylesheet

/-- Whether a property is a background, in either case of its letters. -/
def isBackground (property : String) : Bool :=
  let name := property.toLower
  name == "background" || name == "background-color"

/-- Whether a declaration of a class is written: the background of the base class is left to the host. -/
def isWritten (name : String) (d : Declaration) : Bool :=
  !(name == baseClass && isBackground d.property)

/-- The stylesheet without space, and without the background of the base class. -/
def toCss (sheet : Stylesheet) : String :=
  String.join (sheet.classes.map fun (name, declarations) =>
    "." ++ name ++ "\x7b" ++ String.join ((declarations.filter (isWritten name)).map Declaration.toCss) ++ "\x7d")

end Stylesheet

namespace Rule

/-- A rule with one class to a line and one declaration to a line. -/
def pretty (rule : Rule) : String :=
  ",\n".intercalate (rule.classes.map ("." ++ ·)) ++ " \x7b\n" ++
    String.join (rule.declarations.map fun d => "  " ++ d.property ++ ": " ++ d.value ++ ";\n") ++ "\x7d\n"

/-- A rule without space. -/
def compact (rule : Rule) : String :=
  ",".intercalate (rule.classes.map ("." ++ ·)) ++ "\x7b" ++
    ";".intercalate (rule.declarations.map fun d => d.property ++ ":" ++ d.value) ++ "\x7d"

end Rule

end StyledCode
