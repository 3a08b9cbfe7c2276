/-!
# Configuration documents

A TOML document is a table of named values, some of them tables again.  Whether a table may still grow depends on
how it came about, so every table keeps its standing.

* `Value`, `Entries` : a value, and named values
* `Entries.alter` : a change of the table at the end of a path
* `Entries.assign` : a value put under a dotted key
* `Statement`, `Document.perform` : a line of a document, and what it does to the document so far
-/

namespace StyledCode.Toml

/-- How a table came about. -/
inductive Standing
  /-- By its own header; the document itself counts as such a table. -/
  | declared
  /-- By the header of a table inside it. -/
  | implied
  /-- By a dotted key. -/
  | dotted
  /-- Between braces; such a table never grows. -/
  | closed
  deriving DecidableEq, Repr

/-- A value of a document. -/
inductive Value
  | text (content : String)
  | integer (n : Int64)
  | number (x : Float)
  | boolean (b : Bool)
  /-- A date, a time or both. -/
  | moment
  | array (values : List Value)
  | table (standing : Standing) (entries : List (String × Value))
  /-- Tables that share a header, the last one first. -/
  | tables (reversed : List (List (String × Value)))

/-- Named values, in the order in which the names first appear. -/
abbrev Entries := List (String × Value)

namespace Entries

/-- The value of a name. -/
def find? (entries : Entries) (name : String) : Option Value := entries.lookup name

/-- A name with another value; a new name comes last. -/
def put (entries : Entries) (name : String) (value : Value) : Entries :=
  match entries with
  | [] => [(name, value)]
  | (other, old) :: entries =>
    if other == name then (name, value) :: entries else (other, old) :: put entries name value

/-- A change of the table at the end of a path.  Tables on the way that do not exist yet arise, and of tables that
share a header the last one counts.  A path does not lead through other values or closed tables, and that of a dotted
key does not lead into a table with its own header. -/
def alter (byKey : Bool) (change : Standing → Entries → Option Entries) :
    List String → Standing → Entries → Option Entries
  | [], standing, entries => change standing entries
  | name :: path, _, entries =>
    match entries.find? name with
    | none => do
      let standing := if byKey then .dotted else .implied
      return entries.put name (.table standing (← alter byKey change path standing []))
    | some (.table standing inner) =>
      if standing = .closed || (byKey && standing = .declared) then none
      else do return entries.put name (.table standing (← alter byKey change path standing inner))
    | some (.tables (last :: earlier)) => do
      return entries.put name (.tables ((← alter byKey change path .declared last) :: earlier))
    | some _ => none

/-- A new name with its value; a name that exists already is refused. -/
def define? (name : String) (value : Value) (entries : Entries) : Option Entries :=
  if (entries.find? name).isNone then some (entries.put name value) else none

/-- A value put under a dotted key.  The table that takes it must have come about by dotted keys, too, unless the key
has only one part. -/
def assign (path : List String) (name : String) (value : Value) (standing : Standing) (entries : Entries) :
    Option Entries :=
  alter true (fun standing inner => if path.isEmpty || standing = .dotted then define? name value inner else none)
    path standing entries

/-- A table opened by its own header; one that was only implied keeps what it holds. -/
def declareTable (name : String) (_ : Standing) (entries : Entries) : Option Entries :=
  match entries.find? name with
  | none => some (entries.put name (.table .declared []))
  | some (.table .implied inner) => some (entries.put name (.table .declared inner))
  | some _ => none

/-- One more of the tables that share a header. -/
def appendTable (name : String) (_ : Standing) (entries : Entries) : Option Entries :=
  match entries.find? name with
  | none => some (entries.put name (.tables [[]]))
  | some (.tables reversed) => some (entries.put name (.tables ([] :: reversed)))
  | some _ => none

end Entries

/-- A line of a document. -/
inductive Statement
  /-- The header of a table: the tables around it, and its name. -/
  | table (path : List String) (name : String)
  /-- The header of one of several tables. -/
  | element (path : List String) (name : String)
  /-- A value under a key: the parts of the key but the last, the last part, and the value. -/
  | assignment (path : List String) (name : String) (value : Value)

/-- What a document holds so far, and the path of the table that takes the values. -/
structure Document where
  entries : Entries := []
  current : List String := []

namespace Document

/-- A document after one more line. -/
def perform (document : Document) : Statement → Option Document
  | .table path name => do
    let entries ← Entries.alter false (Entries.declareTable name) path .declared document.entries
    return ⟨entries, path ++ [name]⟩
  | .element path name => do
    let entries ← Entries.alter false (Entries.appendTable name) path .declared document.entries
    return ⟨entries, path ++ [name]⟩
  | .assignment path name value => do
    let entries ←
      Entries.alter false (Entries.assign path name value) document.current .declared document.entries
    return { document with entries }

/-- The document of some lines. -/
def ofStatements? (statements : List Statement) : Option Document :=
  statements.foldlM perform {}

end Document

end StyledCode.Toml
