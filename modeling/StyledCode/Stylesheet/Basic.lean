import StyledCode.Stylesheet.Comment
import StyledCode.Stylesheet.Rule

/-!
# Stylesheets

A stylesheet keeps its classes in the order in which they first appear, and the declarations of a class in the order
in which they were last made.

* `Stylesheet.add` : a stylesheet with one more rule
* `Stylesheet.ofText` : the rules of a text, added in order
* `Stylesheet.baseBackground?` : the background of the base class
-/

namespace StyledCode

/-- The class of all code. -/
def baseClass : String := "hljs"

/-- Classes and their declarations. -/
structure Stylesheet where
  classes : List (String × List Declaration)
  deriving DecidableEq, Repr

namespace Stylesheet

def empty : Stylesheet := ⟨[]⟩

/-- The declarations after one more: an earlier one of the same property is dropped. -/
def declare (declarations : List Declaration) (d : Declaration) : List Declaration :=
  declarations.filter (·.property != d.property) ++ [d]

/-- The classes after a change of the declarations of one, which is put last if it is new. -/
def update (change : List Declaration → List Declaration) (name : String) :
    List (String × List Declaration) → List (String × List Declaration)
  | [] => [(name, change [])]
  | (other, declarations) :: rest =>
    if other = name then (other, change declarations) :: rest
    else (other, declarations) :: update change name rest

/-- The stylesheet with one more rule; a rule without declarations changes nothing. -/
def add (sheet : Stylesheet) (rule : Rule) : Stylesheet :=
  if rule.declarations.isEmpty then sheet
  else ⟨rule.classes.foldl (fun classes name => update (rule.declarations.foldl declare) name classes) sheet.classes⟩

/-- The stylesheet of a list of rules. -/
def ofRules (rules : List Rule) : Stylesheet := rules.foldl add empty

/-- The stylesheet written by a text. -/
def ofText (source : String) : Stylesheet :=
  ofRules (Rule.scan (withoutComments source.toList))

/-- The declarations of a class. -/
def find? (sheet : Stylesheet) (name : String) : Option (List Declaration) :=
  sheet.classes.lookup name

/-- The value a list of declarations gives a property. -/
def valueOf? (declarations : List Declaration) (property : String) : Option String :=
  (declarations.find? (·.property == property)).map (·.value)

/-- The background of the base class: its `background`, or else its `background-color`. -/
def baseBackground? (sheet : Stylesheet) : Option String := do
  let declarations ← sheet.find? baseClass
  valueOf? declarations "background" <|> valueOf? declarations "background-color"

end Stylesheet

end StyledCode
