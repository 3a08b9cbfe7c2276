import StyledCode.Reference.Names
import StyledCode.Text.Numeral

/-!
# Character references

A reference is `&`, an optional `#`, letters and digits, and `;`.  It stands for a character by its name or, after
`#`, by its code in decimal or, after `#x`, in hexadecimal.

* `Reference.take?` : the reference at the beginning of a text
* `Reference.decode?` : the character a reference stands for
-/

namespace StyledCode.Reference

open Text

/-- The greatest code of a character. -/
def greatestCode : Nat := 0x10ffff

/-- The character of a code, unless there is none or it is the null character. -/
def charOfCode? (code : Nat) : Option Char :=
  if 0 < code ∧ code.isValidChar then some (Char.ofNat code) else none

/-- The character that the part between `&` and `;` stands for. -/
def ofName? (name : List Char) : Option Char :=
  match name with
  | '#' :: 'x' :: digits => (ofDigits? 16 greatestCode digits).bind charOfCode?
  | '#' :: digits => (ofDigits? 10 greatestCode digits).bind charOfCode?
  | name => (namedCode? (String.ofList name)).bind charOfCode?

/-- The character a reference stands for. -/
def decode? (reference : List Char) : Option Char :=
  ofName? (reference.drop 1).dropLast

variable {α : Type} (glyph : α → Char)

/-- The mark `#` at the beginning of a text, and what follows. -/
def takeMark : List α → List α × List α
  | [] => ([], [])
  | a :: text => if glyph a = '#' then ([a], text) else ([], a :: text)

/-- The reference at the beginning of a text, and what follows. -/
def take? : List α → Option (List α × List α)
  | [] => none
  | a :: text =>
    if glyph a = '&' then
      let (mark, text) := takeMark glyph text
      let name := text.takeWhile fun b => (glyph b).isAlphanum
      match text.dropWhile fun b => (glyph b).isAlphanum with
      | [] => none
      | stop :: rest =>
        if !name.isEmpty && glyph stop == ';' then some (a :: mark ++ name ++ [stop], rest) else none
    else none

private theorem length_takeMark (text : List α) : (takeMark glyph text).2.length ≤ text.length := by
  cases text with
  | nil => simp [takeMark]
  | cons a text => simp only [takeMark]; split <;> simp

/-- What follows a reference is shorter than the text. -/
theorem length_lt_of_take? {text reference rest : List α} (h : take? glyph text = some (reference, rest)) :
    rest.length < text.length := by
  cases text with
  | nil => simp [take?] at h
  | cons a text =>
    have mark := length_takeMark glyph text
    have name := (List.dropWhile_sublist (l := (takeMark glyph text).2) fun b => (glyph b).isAlphanum).length_le
    simp only [take?] at h
    split at h
    · split at h
      · contradiction
      · rename_i stop rest' hrest
        split at h
        · simp only [Option.some.injEq, Prod.mk.injEq] at h
          obtain ⟨-, rfl⟩ := h
          rw [hrest] at name
          simp only [List.length_cons] at name ⊢
          omega
        · contradiction
    · contradiction

end StyledCode.Reference
