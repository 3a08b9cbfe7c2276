/-!
# Files

A tree of files and directories, as far as a program reads it.

* `ReadError` : why a text cannot be read
* `textOf` : bytes as text
* `FileTree` : a file or a directory
* `entryPath` : the path of an entry of a directory
* `Workspace` : the files that a program can reach, and the directory in which it runs
* `Workspace.write` : one more file or directory
* `Workspace.find`, `Workspace.readText` : what is found at a path, and the text of a file
-/

namespace StyledCode

/-- Why a text cannot be read. -/
inductive ReadError
  | notFound
  | notDirectory
  | isDirectory
  | nameTooLong
  | notText
  deriving DecidableEq, Repr

/-- The message of a system call that fails with a number. -/
private def systemMessage (text : String) (number : Nat) : String :=
  text ++ " (os error " ++ number.repr ++ ")"

def ReadError.message : ReadError → String
  | notFound => systemMessage "No such file or directory" 2
  | notDirectory => systemMessage "Not a directory" 20
  | isDirectory => systemMessage "Is a directory" 21
  | nameTooLong => systemMessage "File name too long" 36
  | notText => "stream did not contain valid UTF-8"

/-- Bytes as text. -/
def textOf (bytes : ByteArray) : Except ReadError String :=
  match String.fromUTF8? bytes with
  | some text => .ok text
  | none => .error .notText

/-- A file or a directory. -/
inductive FileTree
  | file (bytes : ByteArray)
  | directory (entries : List (String × FileTree))

namespace FileTree

/-- The directory without entries. -/
def empty : FileTree := directory []

/-- The entries of a directory; a file has none. -/
def entries : FileTree → List (String × FileTree)
  | file _ => []
  | directory entries => entries

/-- Entries with another one, in place of one of the same name. -/
private def replace (name : String) (tree : FileTree) (entries : List (String × FileTree)) :
    List (String × FileTree) :=
  entries.filter (·.1 != name) ++ [(name, tree)]

/-- A tree changed at the end of a path; directories on the way arise. -/
def alter (change : Option FileTree → FileTree) : List String → Option FileTree → FileTree
  | [], tree => change tree
  | name :: path, tree =>
    let entries := (tree.getD empty).entries
    directory (replace name (alter change path (entries.lookup name)) entries)

/-- A tree in which the place at the end of a path is a directory; what it held as a directory stays. -/
def makeDirectory (root : FileTree) (place : List String) : FileTree :=
  alter (fun old => directory (old.getD empty).entries) place (some root)

/-- The greatest number of bytes in the name of a file. -/
def nameLimit : Nat := 255

/-- What is found from a tree along the parts of a path.  An empty part or a dot stays in a directory, and two dots
go back to the directories passed before, of which the first has none above it. -/
def walk (above : List FileTree) : FileTree → List String → Except ReadError FileTree
  | tree, [] => .ok tree
  | file _, _ :: _ => .error .notDirectory
  | directory entries, part :: parts =>
    if part = "" ∨ part = "." then walk above (directory entries) parts
    else if part = ".." then
      match above with
      | [] => walk [] (directory entries) parts
      | tree :: above => walk above tree parts
    else if nameLimit < part.utf8ByteSize then .error .nameTooLong
    else
      match entries.lookup part with
      | none => .error .notFound
      | some tree => walk (directory entries :: above) tree parts

/-- The bytes of a file. -/
def bytes : FileTree → Except ReadError ByteArray
  | file bytes => .ok bytes
  | directory _ => .error .isDirectory

/-- The text of a file. -/
def text (tree : FileTree) : Except ReadError String := do textOf (← tree.bytes)

end FileTree

/-- The path of an entry of the directory at a path. -/
def entryPath (directory name : String) : String :=
  if directory = "" ∨ directory.endsWith "/" then directory ++ name else directory ++ "/" ++ name

/-- The files that a program can reach, and the directory in which it runs. -/
structure Workspace where
  root : FileTree
  directory : String

namespace Workspace

/-- The parts of a path from the root; a path that does not begin with a slash is read in the directory. -/
def parts (workspace : Workspace) (path : String) : List String :=
  let full := if path.startsWith "/" then path else workspace.directory ++ "/" ++ path
  (full.toList.splitOn '/').map String.ofList

/-- Where one part of a path leads from a place. -/
def step (place : List String) (part : String) : List String :=
  if part = "" ∨ part = "." then place
  else if part = ".." then place.dropLast
  else place ++ [part]

/-- Where the parts of a path lead from a place, one after the other. -/
def places (place : List String) : List String → List (List String)
  | [] => []
  | part :: parts => step place part :: places (step place part) parts

/-- A workspace with a file at a path, or with a directory where no bytes are given.  Every place that the path
passes becomes a directory, also one that it leaves again. -/
def write (workspace : Workspace) (path : String) (bytes : Option ByteArray) : Workspace :=
  let way := places [] (workspace.parts path)
  let root :=
    match bytes with
    | none => way.foldl FileTree.makeDirectory workspace.root
    | some bytes =>
      let root := way.dropLast.foldl FileTree.makeDirectory workspace.root
      FileTree.alter (fun _ => .file bytes) (way.getLastD []) (some root)
  { workspace with root }

/-- The number of bytes from which on a path is too long. -/
def pathLimit : Nat := 4096

/-- What is found at a path. -/
def find (workspace : Workspace) (path : String) : Except ReadError FileTree :=
  if path = "" then .error .notFound
  else if pathLimit ≤ path.utf8ByteSize then .error .nameTooLong
  else workspace.root.walk [] (workspace.parts path)

/-- The entries of the directory at a path; where there is none, there are none. -/
def entries (workspace : Workspace) (path : String) : List (String × FileTree) :=
  (workspace.find path).toOption.elim [] FileTree.entries

/-- The text of the file at a path. -/
def readText (workspace : Workspace) (path : String) : Except ReadError String := do
  (← workspace.find path).text

end Workspace

/-- A file name before and behind its last dot; a dot in front of the whole name does not count. -/
def splitExtension (name : String) : String × Option String :=
  let characters := name.toList
  let extension := (characters.reverse.takeWhile (· != '.')).reverse
  let stem := characters.take (characters.length - extension.length - 1)
  if stem.isEmpty then (name, none) else (String.ofList stem, some (String.ofList extension))

end StyledCode
