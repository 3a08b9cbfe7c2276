import StyledCode.CommandLine.Program

/-!
# The program

* `main` : reads what a call asks for from the disk and the standard input, and prints the answer
-/

namespace StyledCode.CommandLine

/-- The number of the error of a system call, which can be reported with either sign. -/
def systemNumber (code : UInt32) : Nat := min code.toNat (0 - code).toNat

/-- Why a file cannot be read. -/
def causeOf : IO.Error → ReadError
  | .inappropriateType _ code _ => if systemNumber code = 20 then .notDirectory else .isDirectory
  | .invalidArgument _ code _ => if systemNumber code = 36 then .nameTooLong else .notFound
  | _ => .notFound

/-- The text of a file on the disk. -/
def diskText (path : String) : IO (Except ReadError String) := do
  try
    return textOf (← IO.FS.readBinFile path)
  catch e =>
    return .error (causeOf e)

/-- The text of the standard input. -/
def inputText : IO (Except ReadError String) := do
  return textOf (← (← IO.getStdin).readBinToEnd)

/-- A file on the disk; what cannot be read counts as a directory. -/
def diskTree (path : String) : IO FileTree := do
  try
    return .file (← IO.FS.readBinFile path)
  catch _ =>
    return .empty

/-- The entries of a directory on the disk; what is no directory has none. -/
def diskEntries (path : String) : IO (List (String × FileTree)) := do
  try
    let found ← (IO.FS.DirEntry.root ⟨path, ""⟩).readDir
    found.toList.mapM fun entry => return (entry.fileName, ← diskTree (entryPath path entry.fileName))
  catch _ =>
    return []

/-- The host of a call: the file of its configuration, its input, and its directory of themes. -/
def diskHost (arguments : Arguments) : IO Host := do
  let config ← arguments.config.elim (pure (.error .notFound)) diskText
  let entries ← arguments.themeDirectory.elim (pure []) diskEntries
  let host : Host := ⟨fun _ => config, .error .notFound, fun _ => ThemeSource.ofDirectory entries⟩
  match arguments.task, arguments.loadConfig host with
  | .render request, .ok _ =>
    match request.input with
    | none => return { host with input := ← inputText }
    | some path =>
      if path = "-" then return { host with input := ← inputText }
      else
        let text ← diskText path
        return { host with readText := fun asked => if some asked = arguments.config then config else text }
  | _, _ => return host

/-- A call carried out. -/
def call (arguments : Arguments) : IO UInt32 := do
  match execute (← diskHost arguments) arguments with
  | .ok output =>
    IO.print output
    return 0
  | .error e =>
    IO.eprintln (report e)
    return 1

end StyledCode.CommandLine

open StyledCode.CommandLine in
/-- Renders highlighted markup in a terminal, lists themes, and describes colours. -/
def main (arguments : List String) : IO UInt32 := do
  match parse arguments with
  | .run arguments => call arguments
  | .version =>
    IO.print version
    return 0
  | .help =>
    IO.print help
    return 0
  | .usageError =>
    IO.eprint help
    return 2
