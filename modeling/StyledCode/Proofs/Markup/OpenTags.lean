import StyledCode.Markup.Decode

/-!
# Open tags

Scopes keep the style inside each tag, so that it never has to be put together again.  Here they are taken back to
the class attributes they stand for.

* `Token.tagsAfter`, `openTags` : the tags that are open behind tokens, told without scopes
* `styleInside` : the style inside open tags, put together from all their classes
* `Scopes.ofTags` : the scopes inside open tags
* `Scopes.style_ofTags`, `Scopes.after_ofTags` : scopes keep the right style, and follow the tags token by token
-/

namespace StyledCode.Markup

/-- The class attributes of the open tags after one more token, innermost first: a closing tag closes the tag that
was opened last, if any tag is open. -/
def Token.tagsAfter (tags : List String) : Token → List String
  | .opening classes => String.ofList classes :: tags
  | .unfinished classes => String.ofList classes :: tags
  | .closing => tags.tail
  | .text _ => tags
  | .bracket => tags

/-- The class attributes of the tags that are open behind tokens, innermost first. -/
def openTags (tokens : List Token) : List String := tokens.foldl Token.tagsAfter []

theorem openTags_append (tokens tokens' : List Token) :
    openTags (tokens ++ tokens') = tokens'.foldl Token.tagsAfter (openTags tokens) := List.foldl_append

theorem openTags_append_singleton (tokens : List Token) (token : Token) :
    openTags (tokens ++ [token]) = token.tagsAfter (openTags tokens) := openTags_append tokens [token]

/-- The class names that apply inside open tags, outermost first. -/
def namesInside (tags : List String) : List String :=
  baseClass :: tags.reverse.flatMap Scopes.classNames

theorem namesInside_cons (classes : String) (tags : List String) :
    namesInside (classes :: tags) = namesInside tags ++ Scopes.classNames classes := by
  simp [namesInside]

/-- The style inside open tags. -/
def styleInside (theme : Theme) (tags : List String) : Style := theme.styleFor (namesInside tags)

theorem styleInside_cons (theme : Theme) (classes : String) (tags : List String) :
    styleInside theme (classes :: tags) =
      (Scopes.classNames classes).foldl theme.applyClass (styleInside theme tags) := by
  rw [styleInside, namesInside_cons, Theme.styleFor, List.foldl_append]
  rfl

namespace Scopes

theorem style_push (scopes : Scopes) (classes : String) :
    (scopes.push classes).style = (classNames classes).foldl scopes.theme.applyClass scopes.style := rfl

theorem pop_push (scopes : Scopes) (classes : String) : (scopes.push classes).pop = scopes := rfl

/-- The scopes inside open tags, given innermost first. -/
def ofTags (theme : Theme) : List String → Scopes
  | [] => initial theme
  | classes :: tags => (ofTags theme tags).push classes

theorem theme_ofTags (theme : Theme) (tags : List String) : (ofTags theme tags).theme = theme := by
  induction tags with
  | nil => rfl
  | cons classes tags ih => exact ih

/-- The style kept by the scopes is the style inside their tags. -/
theorem style_ofTags (theme : Theme) (tags : List String) :
    (ofTags theme tags).style = styleInside theme tags := by
  induction tags with
  | nil => rfl
  | cons classes tags ih => rw [ofTags, style_push, theme_ofTags, ih, styleInside_cons]

theorem pop_ofTags (theme : Theme) (tags : List String) : (ofTags theme tags).pop = ofTags theme tags.tail := by
  cases tags with
  | nil => rfl
  | cons classes tags => exact pop_push _ _

/-- Scopes follow the open tags from one token to the next. -/
theorem after_ofTags (theme : Theme) (tags : List String) (token : Token) :
    (ofTags theme tags).after token = ofTags theme (token.tagsAfter tags) := by
  cases token with
  | opening classes => rfl
  | unfinished classes => rfl
  | closing => exact pop_ofTags theme tags
  | text characters => rfl
  | bracket => rfl

end Scopes

end StyledCode.Markup
