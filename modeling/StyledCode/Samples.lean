import StyledCode.Files
import StyledCode.Markup.Decode

/-!
# Samples of decoding

A directory `samples` holds markup in files with the extension `html`, and beside each of them the text that
decoding must give.

* `Samples.agree` : whether every sample gives its text, and there is one
-/

namespace StyledCode.Samples

/-- Whether markup decodes to a text, by runs that are not empty. -/
def decodesTo (theme : Theme) (html expected : String) : Bool :=
  let runs := Markup.decode theme html
  runs.all (fun run => run.text != "") && Run.plainText runs == expected

/-- The text that a sample must give.  A dot alone names no sample: without its extension, the name of the markup
would be two dots, which lead out of the directory. -/
def expected? (entries : List (String × FileTree)) (stem : String) : Option FileTree :=
  if stem = "." then none else entries.lookup (stem ++ ".txt")

/-- Whether the sample of a name gives its text. -/
def agrees (theme : Theme) (entries : List (String × FileTree)) (stem : String) (tree : FileTree) : Bool :=
  match tree.text, (expected? entries stem).map FileTree.text with
  | .ok html, some (.ok expected) => decodesTo theme html expected
  | _, _ => false

/-- The samples among the entries of a directory: the names without the extension, and the markup. -/
def list (entries : List (String × FileTree)) : List (String × FileTree) :=
  entries.filterMap fun (name, tree) =>
    let (stem, extension) := splitExtension name
    if extension = some "html" then some (stem, tree) else none

/-- Whether every sample of a workspace gives its text, and there is one. -/
def agree (theme : Theme) (workspace : Workspace) : Bool :=
  match workspace.find "samples" with
  | .ok (.directory entries) =>
    let samples := list entries
    !samples.isEmpty && samples.all fun (stem, tree) => agrees theme entries stem tree
  | _ => false

end StyledCode.Samples
