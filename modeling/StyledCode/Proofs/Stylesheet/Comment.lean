import StyledCode.Proofs.Text.Search
import StyledCode.Stylesheet.Comment

/-!
# Comments are worth a space

The marks of a comment are found from left to right, so a text without its comments can be read off one character
or one comment at a time, whatever follows.

* `withoutComments_cons` : a character at which no comment begins
* `withoutComments_comment`, `withoutComments_unclosed` : a comment, whatever it contains before its end
* `withoutComments_eq_self`, `withoutComments_append` : a text in which no comment begins, alone and with more behind it
-/

namespace StyledCode.Stylesheet

open Text

theorem withoutComments_of_none {text : List Char} (h : cut? id ['/', '*'] text = none) :
    withoutComments text = text := by
  rw [withoutComments]
  split <;> simp_all

theorem withoutComments_eq_self {text : List Char} (h : ¬ ['/', '*'] <:+: text) : withoutComments text = text := by
  refine withoutComments_of_none ?_
  rw [cut?_eq_none_iff, List.map_id]
  exact h

theorem withoutComments_of_unclosed {text before inside : List Char}
    (h : cut? id ['/', '*'] text = some (before, inside)) (h' : cut? id ['*', '/'] inside = none) :
    withoutComments text = before ++ [' '] := by
  rw [withoutComments]
  split
  · simp_all
  · rename_i hopen
    obtain ⟨rfl, rfl⟩ := Prod.mk.inj (Option.some.inj (h.symm.trans hopen))
    split
    · rfl
    · simp_all

theorem withoutComments_of_closed {text before inside content after : List Char}
    (h : cut? id ['/', '*'] text = some (before, inside))
    (h' : cut? id ['*', '/'] inside = some (content, after)) :
    withoutComments text = before ++ ' ' :: withoutComments after := by
  rw [withoutComments]
  split
  · simp_all
  · rename_i hopen
    obtain ⟨rfl, rfl⟩ := Prod.mk.inj (Option.some.inj (h.symm.trans hopen))
    split
    · simp_all
    · rename_i hclose
      obtain ⟨rfl, rfl⟩ := Prod.mk.inj (Option.some.inj (h'.symm.trans hclose))
      rfl

theorem withoutComments_nil : withoutComments [] = [] :=
  withoutComments_of_none rfl

/-- A character at which no comment begins is kept. -/
theorem withoutComments_cons {c : Char} {rest : List Char} (h : ¬ ['/', '*'] <+: c :: rest) :
    withoutComments (c :: rest) = c :: withoutComments rest := by
  have hcut : cut? id ['/', '*'] (c :: rest) =
      (cut? id ['/', '*'] rest).map fun cut => (c :: cut.1, cut.2) := by
    rw [cut?_cons, if_neg fun hbegins => h (by simpa using begins_iff.1 hbegins)]
  cases hrest : cut? id ['/', '*'] rest with
  | none =>
    rw [hrest] at hcut
    rw [withoutComments_of_none hrest, withoutComments_of_none hcut]
  | some cut =>
    obtain ⟨before, inside⟩ := cut
    rw [hrest] at hcut
    cases hinside : cut? id ['*', '/'] inside with
    | none =>
      rw [withoutComments_of_unclosed hrest hinside, withoutComments_of_unclosed hcut hinside]
      rfl
    | some cut =>
      obtain ⟨content, after⟩ := cut
      rw [withoutComments_of_closed hrest hinside, withoutComments_of_closed hcut hinside]
      rfl

theorem withoutComments_cons_of_ne {c : Char} (h : c ≠ '/') (rest : List Char) :
    withoutComments (c :: rest) = c :: withoutComments rest :=
  withoutComments_cons fun hprefix => h (List.cons_prefix_cons.1 hprefix).1.symm

/-- A comment is worth a space. -/
theorem withoutComments_comment {content : List Char} (h : ¬ ['*', '/'] <:+: content) (rest : List Char) :
    withoutComments ('/' :: '*' :: (content ++ '*' :: '/' :: rest)) = ' ' :: withoutComments rest := by
  have hopen : cut? id ['/', '*'] ('/' :: '*' :: (content ++ '*' :: '/' :: rest)) =
      some ([], content ++ '*' :: '/' :: rest) := rfl
  have hclose : cut? id ['*', '/'] (content ++ '*' :: '/' :: rest) = some (content, rest) := by
    have := cut?_id_iff.2 (firstCut_pair (by decide) h rest)
    rwa [List.append_assoc] at this
  exact withoutComments_of_closed hopen hclose

/-- So is a comment that is never closed, with all that follows it. -/
theorem withoutComments_unclosed {content : List Char} (h : ¬ ['*', '/'] <:+: content) :
    withoutComments ('/' :: '*' :: content) = [' '] := by
  have hopen : cut? id ['/', '*'] ('/' :: '*' :: content) = some ([], content) := rfl
  have hclose : cut? id ['*', '/'] content = none := by
    rw [cut?_eq_none_iff, List.map_id]
    exact h
  exact withoutComments_of_unclosed hopen hclose

/-- A text in which no comment begins is kept, unless its last character begins one with what follows. -/
theorem withoutComments_append {text rest : List Char} (h : ¬ ['/', '*'] <:+: text)
    (hrest : ∀ c ∈ rest.head?, c ≠ '*') : withoutComments (text ++ rest) = text ++ withoutComments rest := by
  induction text with
  | nil => rfl
  | cons c text ih =>
    rw [List.infix_cons_iff, not_or] at h
    have hbegins : ¬ ['/', '*'] <+: c :: (text ++ rest) := by
      -- the second mark of a comment at `c` would lie in the text, or it would be the first character behind it
      rintro ⟨back, heq⟩
      obtain ⟨hc, hnext⟩ := List.cons.inj heq
      cases text with
      | nil =>
        have hhead : rest.head? = some '*' := congrArg List.head? hnext.symm
        exact hrest '*' hhead rfl
      | cons d text =>
        have hd : '*' = d := (List.cons.inj hnext).1
        exact h.1 ⟨text, by rw [← hc, ← hd]; rfl⟩
    rw [List.cons_append, withoutComments_cons hbegins, ih h.2, List.cons_append]

end StyledCode.Stylesheet
