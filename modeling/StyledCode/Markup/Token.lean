import StyledCode.Text.Search

/-!
# Tokens of the markup

A tokenizer marks the classes of a piece of code by `<span class="...">` and `</span>`, and nothing else in its
output is markup.

* `Token` : text, a tag that opens a scope, a tag that closes one, or a lone `<`
* `Token.source` : the token as it is written
* `Token.next?` : the first token of a text
* `Token.scan` : the tokens of a text
-/

namespace StyledCode.Markup

open Text

/-- A piece of a tokenizer's output. -/
inductive Token
  /-- Text up to the next `<`. -/
  | text (characters : List Char)
  /-- A tag that opens a scope with these classes. -/
  | opening (classes : List Char)
  /-- A tag that closes a scope. -/
  | closing
  /-- A `<` that begins no tag. -/
  | bracket
  /-- An opening tag whose classes reach to the end of the text. -/
  | unfinished (classes : List Char)
  deriving DecidableEq, Repr

namespace Token

/-- What follows `<` in an opening tag, up to the classes. -/
def openMark : List Char := "span class=\"".toList

/-- What follows the classes of an opening tag. -/
def openEnd : List Char := ['"', '>']

/-- What follows `<` in a closing tag. -/
def closeMark : List Char := "/span>".toList

/-- A token as it is written. -/
def source : Token → List Char
  | text characters => characters
  | opening classes => '<' :: openMark ++ classes ++ openEnd
  | closing => '<' :: closeMark
  | bracket => ['<']
  | unfinished classes => '<' :: openMark ++ classes

/-- The token that begins with a `<`, and what follows it; `rest` is what follows the `<`. -/
def afterBracket (rest : List Char) : Token × List Char :=
  match behind? id openMark rest with
  | some tag =>
    match cut? id openEnd tag with
    | some (classes, rest) => (opening classes, rest)
    | none => (unfinished tag, [])
  | none =>
    match behind? id closeMark rest with
    | some rest => (closing, rest)
    | none => (bracket, rest)

/-- The first token of a text, and what follows it. -/
def next? : List Char → Option (Token × List Char)
  | [] => none
  | '<' :: rest => some (afterBracket rest)
  | characters => some (text (characters.takeWhile (· != '<')), characters.dropWhile (· != '<'))

private theorem length_afterBracket (rest : List Char) : (afterBracket rest).2.length ≤ rest.length := by
  unfold afterBracket
  split
  · rename_i tag htag
    have := length_le_of_behind? id htag
    split
    · rename_i hcut
      have := length_lt_of_cut? id hcut (by simp [openEnd])
      simp only
      omega
    · simp
  · split
    · rename_i hmark
      exact length_le_of_behind? id hmark
    · exact Nat.le_refl _

/-- What follows a token is shorter than the text. -/
theorem length_lt_of_next? {text rest : List Char} {token : Token} (h : next? text = some (token, rest)) :
    rest.length < text.length := by
  unfold next? at h
  split at h
  · contradiction
  · rename_i rest'
    have := length_afterBracket rest'
    simp only [Option.some.injEq] at h
    rw [h] at this
    exact Nat.lt_succ_of_le this
  · rename_i hempty hbracket
    simp only [Option.some.injEq, Prod.mk.injEq] at h
    obtain ⟨-, rfl⟩ := h
    cases text with
    | nil => exact absurd rfl hempty
    | cons c text =>
      have hc : (c != '<') = true := by
        simp only [bne_iff_ne, ne_eq]
        rintro rfl
        exact hbracket text rfl
      have := (List.dropWhile_sublist (l := text) (· != '<')).length_le
      simp only [List.dropWhile_cons, hc, if_true, List.length_cons]
      omega

/-- The tokens of a text, put behind those already found in reverse. -/
def scanFrom (done : List Token) (text : List Char) : List Token :=
  match h : next? text with
  | none => done.reverse
  | some (token, rest) =>
    have := length_lt_of_next? h
    scanFrom (token :: done) rest
termination_by text.length

/-- The tokens of a text. -/
def scan (text : List Char) : List Token := scanFrom [] text

end Token

end StyledCode.Markup
