import StyledCode.Config.Basic
import StyledCode.Toml.Reader

/-!
# Configurations as documents

* `Config.ofEntries?` : the configuration that a document describes
* `Config.ofText?` : the configuration that a text describes
-/

namespace StyledCode

open Toml

namespace Toml.Value

def toText? : Value → Option String
  | text content => some content
  | _ => none

def toBoolean? : Value → Option Bool
  | boolean b => some b
  | _ => none

def toInteger? : Value → Option Int64
  | integer n => some n
  | _ => none

/-- An integer that is not negative. -/
def toUnsigned? : Value → Option UInt64
  | integer n => if 0 ≤ n then some n.toUInt64 else none
  | _ => none

/-- A number in single precision, which may be written as an integer. -/
def toSingle? : Value → Option Float32
  | number x => some x.toFloat32
  | integer n => some n.toFloat32
  | _ => none

/-- The fields of a section: those of a table, or the values of an array given to the fields in their order.  Tables
that share a header count as such an array, and a moment as a table with one field that has no name. -/
def toSection? (fields : List String) : Value → Option Entries
  | table _ entries => some entries
  | array values => some (fields.zip values)
  | tables reversed => some (fields.zip (reversed.reverse.map (table .declared)))
  | moment => some [("", moment)]
  | _ => none

end Toml.Value

/-- A field, which has a default and must be of its type where it is given. -/
def Toml.Entries.field {α : Type} (entries : Entries) (read? : Value → Option α) (name : String) (default : α) :
    Option α :=
  match entries.find? name with
  | none => some default
  | some value => read? value

/-- Whether all names are among some fields. -/
def Toml.Entries.within (entries : Entries) (fields : List String) : Bool :=
  entries.all fun (name, _) => fields.contains name

/-- The fields of a font in their order. -/
def FontRequest.fields : List String := ["family", "size"]

/-- The font that a section describes; other fields are ignored. -/
def FontRequest.ofValue? (value : Value) : Option FontRequest := do
  let entries ← value.toSection? fields
  let family ← entries.field Value.toText? "family" defaultFamily
  let size ← entries.field Value.toSingle? "size" defaultSize
  return ⟨family, size⟩

/-- The fields of a numbering in their order. -/
def Numbering.fields : List String := ["start", "min_width", "separator", "line_break", "dark", "font_size"]

/-- The numbering that a section describes; other fields are refused. -/
def Numbering.ofValue? (value : Value) : Option Numbering := do
  let entries ← value.toSection? fields
  if entries.within fields then
    let start ← entries.field Value.toInteger? "start" 1
    let minWidth ← entries.field Value.toUnsigned? "min_width" standard.minWidth
    let separator ← entries.field Value.toText? "separator" standard.separator
    let lineBreak ← entries.field Value.toText? "line_break" standard.lineBreak
    let dark ← entries.field Value.toBoolean? "dark" standard.dark
    let fontSize ← entries.field Value.toSingle? "font_size" standard.fontSize
    return ((((((standard.withStart start).withMinWidth minWidth).withSeparator separator).withLineBreak
      lineBreak).withDark dark).withFontSize fontSize)
  else none

namespace Config

/-- The fields of a configuration in their order. -/
def fields : List String := ["theme", "fast_render", "ignore_illegals", "font", "line_numbers"]

/-- The configuration that a document describes; other fields are refused. -/
def ofEntries? (entries : Entries) : Option Config :=
  if entries.within fields then do
    let config : Config := {}
    let theme ← entries.field Value.toText? "theme" config.theme
    let fastRender ← entries.field Value.toBoolean? "fast_render" config.fastRender
    let ignoreIllegals ← entries.field Value.toBoolean? "ignore_illegals" config.ignoreIllegals
    let font ← entries.field (fun value => (FontRequest.ofValue? value).map some) "font" none
    let numbering ← entries.field (fun value => (Numbering.ofValue? value).map some) "line_numbers" none
    return ⟨theme, fastRender, ignoreIllegals, font, numbering⟩
  else none

/-- The configuration that a text describes. -/
def ofText? (text : String) : Option Config := do
  ofEntries? (← Document.read? text).entries

end Config

end StyledCode
