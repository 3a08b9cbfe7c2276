/-!
# Spaces, line ends and comments

* `isPlain` : the characters that may stand in a comment
* `skipSpaces` : what follows spaces and tabs
* `newline?`, `lineEnd?` : what follows a line end
* `skipGap` : what follows spaces, line ends and comments
-/

namespace StyledCode.Toml

/-- A space or a tab. -/
def isTabOrSpace (c : Char) : Bool := c == ' ' || c == '\t'

/-- A tab or a character outside ASCII's control characters. -/
def isPlain (c : Char) : Bool :=
  c == '\t' || (0x20 ≤ c.toNat && c.toNat ≤ 0x7e) || 0x80 ≤ c.toNat

/-- What follows spaces and tabs. -/
def skipSpaces (text : List Char) : List Char := text.dropWhile isTabOrSpace

/-- What follows a line feed, perhaps behind a carriage return. -/
def newline? : List Char → Option (List Char)
  | '\n' :: rest => some rest
  | '\r' :: '\n' :: rest => some rest
  | _ => none

theorem length_lt_of_newline? {text rest : List Char} (h : newline? text = some rest) :
    rest.length < text.length := by
  unfold newline? at h
  split at h
  · simp_all
  · simp only [Option.some.injEq] at h
    subst h
    simp only [List.length_cons]
    omega
  · contradiction

/-- What follows the end of a line, behind spaces and perhaps a comment; a text may end without a line end. -/
def lineEnd? (text : List Char) : Option (List Char) :=
  let text := match skipSpaces text with
    | '#' :: comment => comment.dropWhile isPlain
    | text => text
  if text.isEmpty then some [] else newline? text

/-- What follows spaces, line ends and comments. -/
def skipGap (inComment : Bool) : List Char → List Char
  | [] => []
  | '\n' :: rest => skipGap false rest
  | '\r' :: '\n' :: rest => skipGap false rest
  | c :: rest =>
    if inComment then if isPlain c then skipGap true rest else c :: rest
    else if isTabOrSpace c then skipGap false rest
    else if c = '#' then skipGap true rest
    else c :: rest

/-- What follows spaces and line ends. -/
def skipLines : List Char → List Char
  | [] => []
  | '\r' :: '\n' :: rest => skipLines rest
  | c :: rest => if isTabOrSpace c || c = '\n' then skipLines rest else c :: rest

theorem length_skipLines_le (text : List Char) : (skipLines text).length ≤ text.length := by
  fun_induction skipLines text <;> simp_all <;> omega

end StyledCode.Toml
