import StyledCode.Text.Numeral
import StyledCode.Toml.Space

/-!
# Quoted texts

A text stands between double quotes, where a backslash begins an escape, or between single quotes, where every
character stands for itself.  Three quotes at each end allow line ends inside.

* `escape?` : the character an escape stands for
* `oneLine?`, `manyLines?` : a text behind one quote, and behind three
* `quoted?` : a text with its quotes
-/

namespace StyledCode.Toml

/-- The character whose code is given by so many hexadecimal digits, and what follows them. -/
def codedChar? (count : Nat) (text : List Char) : Option (Char × List Char) :=
  if (text.take count).length = count then
    (Text.ofDigits? 16 0x10ffff (text.take count)).bind fun code =>
      if code.isValidChar then some (Char.ofNat code, text.drop count) else none
  else none

/-- The character that an escape stands for, and what follows it; the text begins behind the backslash. -/
def escape? : List Char → Option (Char × List Char)
  | 'b' :: rest => some ('\x08', rest)
  | 't' :: rest => some ('\t', rest)
  | 'n' :: rest => some ('\n', rest)
  | 'f' :: rest => some ('\x0c', rest)
  | 'r' :: rest => some ('\r', rest)
  | '"' :: rest => some ('"', rest)
  | '\\' :: rest => some ('\\', rest)
  | 'u' :: rest => codedChar? 4 rest
  | 'U' :: rest => codedChar? 8 rest
  | _ => none

private theorem length_le_of_codedChar? {count : Nat} {text rest : List Char} {c : Char}
    (h : codedChar? count text = some (c, rest)) : rest.length ≤ text.length := by
  simp only [codedChar?, Option.ite_none_right_eq_some, Option.bind_eq_some_iff, Option.some.injEq,
    Prod.mk.injEq] at h
  obtain ⟨-, _, -, -, -, rfl⟩ := h
  simp

theorem length_lt_of_escape? {text rest : List Char} {c : Char} (h : escape? text = some (c, rest)) :
    rest.length < text.length := by
  unfold escape? at h
  split at h <;> first
    | exact Nat.lt_succ_of_le (length_le_of_codedChar? h)
    | simp_all

/-- A text on one line up to its closing quote, and what follows it; `done` is its beginning in reverse. -/
def oneLine? (quote : Char) (done : List Char) (text : List Char) : Option (List Char × List Char) :=
  match text with
  | [] => none
  | c :: rest =>
    if c = quote then some (done.reverse, rest)
    else if c = '\\' ∧ quote = '"' then
      match h : escape? rest with
      | none => none
      | some (escaped, rest') =>
        have := length_lt_of_escape? h
        oneLine? quote (escaped :: done) rest'
    else if isPlain c then oneLine? quote (c :: done) rest
    else none
termination_by text.length

/-- What follows a line end that is escaped, and the space at the beginning of the next lines. -/
def continuation? (text : List Char) : Option (List Char) :=
  (newline? (skipSpaces text)).map skipLines

theorem length_lt_of_continuation? {text rest : List Char} (h : continuation? text = some rest) :
    rest.length < text.length := by
  simp only [continuation?, Option.map_eq_some_iff] at h
  obtain ⟨after, hnewline, rfl⟩ := h
  have h1 := length_lt_of_newline? hnewline
  have h2 := length_skipLines_le after
  have h3 : (skipSpaces text).length ≤ text.length := (List.dropWhile_sublist _).length_le
  omega

/-- A text up to its three closing quotes, and what follows them; `done` is its beginning in reverse.  One or two
quotes may stand inside the text, and just before the closing ones. -/
def manyLines? (quote : Char) (done : List Char) (text : List Char) : Option (List Char × List Char) :=
  match text with
  | [] => none
  | c :: rest =>
    if c = quote then
      let count := (rest.takeWhile (· == quote)).length
      if count < 2 then manyLines? quote (List.replicate (count + 1) quote ++ done) (rest.drop count)
      else if count < 5 then some (done.reverse ++ List.replicate (count - 2) quote, rest.drop count)
      else none
    else if c = '\\' ∧ quote = '"' then
      match hc : continuation? rest with
      | some rest' =>
        have := length_lt_of_continuation? hc
        manyLines? quote done rest'
      | none =>
        match he : escape? rest with
        | none => none
        | some (escaped, rest') =>
          have := length_lt_of_escape? he
          manyLines? quote (escaped :: done) rest'
    else
      match hn : newline? (c :: rest) with
      | some rest' =>
        have : rest'.length < rest.length + 1 := length_lt_of_newline? hn
        manyLines? quote ('\n' :: done) rest'
      | none => if isPlain c then manyLines? quote (c :: done) rest else none
termination_by text.length
decreasing_by
  all_goals
    simp only [List.length_cons, List.length_drop]
    omega

/-- A text with its quotes, and what follows it.  A line end just behind three quotes does not belong to the text. -/
def quoted? : List Char → Option (List Char × List Char)
  | '"' :: '"' :: '"' :: rest => manyLines? '"' [] ((newline? rest).getD rest)
  | '\x27' :: '\x27' :: '\x27' :: rest => manyLines? '\x27' [] ((newline? rest).getD rest)
  | '"' :: rest => oneLine? '"' [] rest
  | '\x27' :: rest => oneLine? '\x27' [] rest
  | _ => none

end StyledCode.Toml
