/-!
# Searching a text for a pattern

The text is a list of anything that shows a character, so that a search through styled text keeps the style of
every character it passes.

* `begins` : whether a text begins with a pattern
* `behind?` : what follows a pattern that a text begins with
* `cut?` : what stands before and after the first occurrence of a pattern
* `splitAround` : the pieces of a text between the occurrences of a pattern, taken from left to right
* `length_lt_of_cut?` : what follows an occurrence is shorter than the text
-/

namespace StyledCode.Text

variable {α : Type} (glyph : α → Char)

/-- Whether a text begins with a pattern. -/
@[specialize] def begins : List Char → List α → Bool
  | [], _ => true
  | _ :: _, [] => false
  | p :: pattern, a :: text => p == glyph a && begins pattern text

/-- What follows a pattern that a text begins with. -/
def behind? (pattern : List Char) (text : List α) : Option (List α) :=
  if begins glyph pattern text then some (text.drop pattern.length) else none

theorem length_le_of_behind? {pattern : List Char} {text rest : List α}
    (h : behind? glyph pattern text = some rest) : rest.length ≤ text.length := by
  unfold behind? at h
  split at h
  · simp only [Option.some.injEq] at h
    subst h
    simp
  · contradiction

/-- The search behind `cut?`: `seen` holds in reverse what was passed over. -/
@[specialize] def cutFrom (pattern : List Char) (seen : List α) : List α → Option (List α × List α)
  | [] => if pattern.isEmpty then some (seen.reverse, []) else none
  | a :: text =>
    if begins glyph pattern (a :: text) then some (seen.reverse, (a :: text).drop pattern.length)
    else cutFrom pattern (a :: seen) text

/-- What stands before and after the first occurrence of a pattern. -/
@[inline] def cut? (pattern : List Char) (text : List α) : Option (List α × List α) :=
  cutFrom glyph pattern [] text

private theorem length_after_cutFrom {pattern : List Char} {seen text before after : List α}
    (h : cutFrom glyph pattern seen text = some (before, after)) (hp : pattern ≠ []) :
    after.length < text.length := by
  induction text generalizing seen with
  | nil => simp [cutFrom, hp] at h
  | cons a text ih =>
    unfold cutFrom at h
    split at h
    · simp only [Option.some.injEq, Prod.mk.injEq] at h
      obtain ⟨-, rfl⟩ := h
      have := List.length_pos_iff.2 hp
      simp only [List.length_drop, List.length_cons]
      omega
    · have := ih h
      simp only [List.length_cons]
      omega

/-- What follows an occurrence is shorter than the text. -/
theorem length_lt_of_cut? {pattern : List Char} {text before after : List α}
    (h : cut? glyph pattern text = some (before, after)) (hp : pattern ≠ []) :
    after.length < text.length :=
  length_after_cutFrom glyph h hp

/-- The pieces of a text between the occurrences of a pattern, taken from left to right so that no two overlap;
an empty pattern occurs nowhere. -/
@[specialize] def splitAround (pattern : List Char) (text : List α) : List (List α) :=
  if hp : pattern = [] then [text]
  else
    match h : cut? glyph pattern text with
    | none => [text]
    | some (before, after) =>
      have := length_lt_of_cut? glyph h hp
      before :: splitAround pattern after
termination_by text.length

end StyledCode.Text
