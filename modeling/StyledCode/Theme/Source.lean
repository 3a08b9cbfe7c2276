import StyledCode.Files
import StyledCode.Theme.Builtin

/-!
# Where themes come from

* `ThemeSource` : the names of themes, and the stylesheet of a name
* `ThemeSource.ofList`, `ThemeSource.ofDirectory` : themes in memory, and in a directory
* `ThemeSource.atPath` : the themes in the directory at a path
* `ThemeSource.layered` : several sources, of which the first with a theme counts
* `ThemeStack` : layers that may consist of layers
-/

namespace StyledCode

/-- The names of themes, and the stylesheet of a name. -/
structure ThemeSource where
  names : List String
  load? : String → Option String

namespace ThemeSource

/-- A list of named texts with one more, in the order of the names; a name that was there keeps the new text. -/
def insert (name text : String) : List (String × String) → List (String × String)
  | [] => [(name, text)]
  | (other, old) :: themes =>
    if name < other then (name, text) :: (other, old) :: themes
    else if name = other then (name, text) :: themes
    else (other, old) :: insert name text themes

/-- The themes of a list, where later entries replace earlier ones of the same name; the names are sorted. -/
def ofList (themes : List (String × String)) : ThemeSource :=
  let sorted := themes.foldl (fun sorted (name, text) => insert name text sorted) []
  ⟨sorted.map (·.1), fun name => sorted.lookup name⟩

/-- The themes that are always there. -/
def builtin : ThemeSource := ⟨Theme.builtin.map (·.1), fun name => Theme.builtin.lookup name⟩

/-- Whether a name can be that of a theme file: not empty, no way into another directory, and not hidden. -/
def isPlainName (name : String) : Bool :=
  name != "" && !name.toList.any (fun c => c == '/' || c == '\\') && name.toList.head? != some '.'

/-- The extension of theme files. -/
def extension : String := "css"

/-- The name of the theme in a file. -/
def themeName? (fileName : String) : Option String :=
  let (stem, found) := splitExtension fileName
  if found = some extension then some stem else none

/-- The themes among files: the names of the files with the right extension, and what is read from the file of a
theme. -/
def ofFiles (fileNames : List String) (read? : String → Option String) : ThemeSource where
  names := (fileNames.filterMap themeName?).mergeSort fun a b => !(b < a)
  load? name := if isPlainName name then read? (name ++ "." ++ extension) else none

/-- The themes in a directory: the names of its entries with the right extension, and the text of a file. -/
def ofDirectory (entries : List (String × FileTree)) : ThemeSource :=
  ofFiles (entries.map (·.1)) fun fileName => (entries.lookup fileName).bind fun tree => tree.text.toOption

/-- The themes in the directory at a path.  Each file is read at a path of its own, which can be too long although
that of the directory is not. -/
def atPath (workspace : Workspace) (path : String) : ThemeSource :=
  ofFiles ((workspace.entries path).map (·.1)) fun fileName =>
    (workspace.readText (entryPath path fileName)).toOption

/-- Several sources searched in order. -/
def layered (sources : List ThemeSource) : ThemeSource where
  names := (sources.flatMap (·.names)).eraseDups
  load? name := sources.findSome? (·.load? name)

end ThemeSource

/-- Layers that may consist of layers. -/
inductive ThemeStack
  | source (source : ThemeSource)
  | layers (inner : List ThemeStack)

namespace ThemeStack

mutual

/-- A stack as one source. -/
def flatten : ThemeStack → ThemeSource
  | source s => s
  | layers inner => ThemeSource.layered (flattenAll inner)

/-- Several stacks as sources. -/
def flattenAll : List ThemeStack → List ThemeSource
  | [] => []
  | stack :: rest => stack.flatten :: flattenAll rest

end

mutual

/-- The sources of a stack from left to right, whatever their nesting. -/
def leaves : ThemeStack → List ThemeSource
  | source s => [s]
  | layers inner => leavesAll inner

/-- The sources of stacks from left to right. -/
def leavesAll : List ThemeStack → List ThemeSource
  | [] => []
  | stack :: rest => stack.leaves ++ leavesAll rest

end

end ThemeStack

end StyledCode
