import StyledCode.Toml.Moment
import StyledCode.Toml.Number
import StyledCode.Toml.Quoted

/-!
# Reading configuration documents

* `key?` : the parts of a dotted key
* `value?` : a value; arrays and tables between braces nest up to a depth
* `statement?` : a line of a document
* `Document.read?` : a document
-/

namespace StyledCode.Toml

/-- The characters of a key without quotes. -/
def isKeyChar (c : Char) : Bool := c.isAlphanum || c == '-' || c == '_'

/-- One part of a key, and what follows it. -/
def keyPart? : List Char → Option (String × List Char)
  | '"' :: rest => (oneLine? '"' [] rest).map fun (part, rest) => (String.ofList part, rest)
  | '\x27' :: rest => (oneLine? '\x27' [] rest).map fun (part, rest) => (String.ofList part, rest)
  | text =>
    let part := text.takeWhile isKeyChar
    if part.isEmpty then none else some (String.ofList part, text.dropWhile isKeyChar)

/-- The parts of a key of at most so many parts, the last one apart, and what follows it. -/
def keyOf? : Nat → List Char → Option ((List String × String) × List Char)
  | 0, _ => none
  | limit + 1, text => do
    let (part, rest) ← keyPart? (skipSpaces text)
    match skipSpaces rest with
    | '.' :: rest =>
      let ((path, name), rest) ← keyOf? limit rest
      return ((part :: path, name), rest)
    | rest => return (([], part), rest)

/-- The greatest number of parts of a key, and the greatest depth of values in values. -/
def nestingLimit : Nat := 79

/-- A key: its parts but the last, the last part, and what follows it. -/
def key? (text : List Char) : Option ((List String × String) × List Char) := keyOf? nestingLimit text

/-- The values of an array behind those already found in reverse, and what follows the bracket. -/
def elements? (value? : List Char → Option (Value × List Char)) (done : List Value) :
    Nat → List Char → Option (List Value × List Char)
  | 0, _ => none
  | fuel + 1, text =>
    match skipGap false text with
    | ']' :: rest => some (done.reverse, rest)
    | text => do
      let (value, rest) ← value? text
      match skipGap false rest with
      | ']' :: rest => return ((value :: done).reverse, rest)
      | ',' :: rest => elements? value? (value :: done) fuel rest
      | _ => none

/-- A key and its value, and what follows them. -/
def assignment? (value? : List Char → Option (Value × List Char)) (text : List Char) :
    Option ((List String × String × Value) × List Char) := do
  let ((path, name), rest) ← key? text
  match rest with
  | '=' :: rest =>
    let (value, rest) ← value? (skipSpaces rest)
    return ((path, name, value), rest)
  | _ => none

/-- The entries of a table between braces behind those already found, and what follows the brace. -/
def members? (value? : List Char → Option (Value × List Char)) :
    Nat → Entries → List Char → Option (Entries × List Char)
  | 0, _, _ => none
  | fuel + 1, entries, text => do
    let ((path, name, value), rest) ← assignment? value? text
    let entries ← entries.assign path name value .declared
    match skipSpaces rest with
    | '\x7d' :: rest => return (entries, rest)
    | ',' :: rest => members? value? fuel entries rest
    | _ => none

/-- A table between braces behind the opening one, and what follows it. -/
def braced? (value? : List Char → Option (Value × List Char)) (fuel : Nat) (text : List Char) :
    Option (Entries × List Char) :=
  match skipSpaces text with
  | '\x7d' :: rest => some ([], rest)
  | text => members? value? fuel [] text

/-- A value that holds no other values, and what follows it. -/
def scalar? (text : List Char) : Option (Value × List Char) :=
  match text with
  | 't' :: 'r' :: 'u' :: 'e' :: rest => some (.boolean true, rest)
  | 'f' :: 'a' :: 'l' :: 's' :: 'e' :: rest => some (.boolean false, rest)
  | text =>
    match quoted? text with
    | some (content, rest) => some (.text (String.ofList content), rest)
    | none => (moment? text).map (Value.moment, ·) <|> number? text

/-- A value with others inside it up to a depth, and what follows it.  The fuel bounds the number of values side by
side. -/
def valueOf? (fuel : Nat) : Nat → List Char → Option (Value × List Char)
  | depth + 1, '[' :: rest => do
    let (values, rest) ← elements? (valueOf? fuel depth) [] fuel rest
    return (.array values, rest)
  | depth + 1, '\x7b' :: rest => do
    let (entries, rest) ← braced? (valueOf? fuel depth) fuel rest
    return (.table .closed entries, rest)
  | _, text => scalar? text

/-- A line of a document, and the lines after it. -/
def statement? (fuel : Nat) (text : List Char) : Option (Statement × List Char) :=
  match skipSpaces text with
  | '[' :: '[' :: rest => do
    let ((path, name), rest) ← key? rest
    match rest with
    | ']' :: ']' :: rest => return (.element path name, ← lineEnd? rest)
    | _ => none
  | '[' :: rest => do
    let ((path, name), rest) ← key? rest
    match rest with
    | ']' :: rest => return (.table path name, ← lineEnd? rest)
    | _ => none
  | text => do
    let ((path, name, value), rest) ← assignment? (valueOf? fuel nestingLimit) text
    return (.assignment path name value, ← lineEnd? rest)

/-- The lines of a document behind those already found in reverse; lines without content are left out. -/
def statements? (fuel : Nat) (done : List Statement) : Nat → List Char → Option (List Statement)
  | _, [] => some done.reverse
  | 0, _ => none
  | more + 1, text =>
    match lineEnd? text with
    | some rest => statements? fuel done more rest
    | none => do
      let (statement, rest) ← statement? fuel text
      statements? fuel (statement :: done) more rest

/-- The document that a text writes down, if it does; a byte order mark in front is skipped. -/
def Document.read? (text : String) : Option Document := do
  let characters := match text.toList with
    | '\ufeff' :: rest => rest
    | characters => characters
  let fuel := characters.length + 1
  Document.ofStatements? (← statements? fuel [] fuel characters)

end StyledCode.Toml
