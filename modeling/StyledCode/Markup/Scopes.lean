import StyledCode.Text.Blank
import StyledCode.Theme.Basic

/-!
# Open scopes

The tags that are open at some point of the markup, outermost first, decide the style there.  Each of them keeps the
style inside it, so the style never has to be put together again.

* `Scopes` : the base scope and the scopes opened in it
* `Scopes.push`, `Scopes.pop?` : a tag opened or closed
* `Scopes.style` : the style inside the innermost scope
-/

namespace StyledCode.Markup

open Text

/-- A scope: the class attribute of its tag, and the style inside it. -/
structure Scope where
  classes : String
  style : Style
  deriving DecidableEq, Repr

/-- The base scope, which is never closed, and the open scopes in it, innermost first. -/
structure Scopes where
  theme : Theme
  opened : List Scope
  deriving DecidableEq, Repr

namespace Scopes

/-- No tag is open. -/
def initial (theme : Theme) : Scopes := ⟨theme, []⟩

/-- The base scope has the base class. -/
def base (scopes : Scopes) : Scope :=
  ⟨baseClass, scopes.theme.applyClass scopes.theme.baseStyle baseClass⟩

/-- The innermost scope. -/
def top (scopes : Scopes) : Scope := scopes.opened.headD scopes.base

/-- The style inside the innermost scope. -/
def style (scopes : Scopes) : Style := scopes.top.style

/-- The number of open scopes, the base scope among them. -/
def depth (scopes : Scopes) : Nat := scopes.opened.length + 1

/-- The class attributes of the open scopes, outermost first. -/
def classes (scopes : Scopes) : List String :=
  scopes.base.classes :: scopes.opened.reverse.map (·.classes)

/-- The class names of a class attribute. -/
def classNames (classes : String) : List String := (words classes.toList).map String.ofList

/-- A tag with this class attribute is opened; its classes apply from left to right. -/
def push (scopes : Scopes) (classes : String) : Scopes :=
  let style := (classNames classes).foldl scopes.theme.applyClass scopes.style
  { scopes with opened := ⟨classes, style⟩ :: scopes.opened }

/-- The innermost scope is closed, unless only the base scope is open. -/
def pop? (scopes : Scopes) : Option Scopes :=
  match scopes.opened with
  | [] => none
  | _ :: opened => some { scopes with opened }

/-- A closing tag: without an open scope it changes nothing. -/
def pop (scopes : Scopes) : Scopes := scopes.pop?.getD scopes

end Scopes

end StyledCode.Markup
