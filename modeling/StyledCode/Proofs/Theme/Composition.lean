import StyledCode.Theme.Basic

/-!
# Composed styles

The style of a list of classes, said of each attribute alone: the last class that sets it decides.

* `lastValue?` : the value that the last entry of a list gives, of those that give one
* `Theme.lastSet?` : what the last class that sets an attribute sets it to
* `Theme.styleFor_eq` : the style of a list of classes is made of these
-/

namespace StyledCode

/-- The value that the last entry gives, of those that give one. -/
def lastValue? {α β : Type} (value? : α → Option β) (entries : List α) : Option β :=
  entries.reverse.findSome? value?

section LastValue

variable {α β : Type} {value? : α → Option β}

theorem lastValue?_append (entries entries' : List α) :
    lastValue? value? (entries ++ entries') = (lastValue? value? entries').or (lastValue? value? entries) := by
  rw [lastValue?, List.reverse_append, List.findSome?_append]
  rfl

theorem lastValue?_cons (a : α) (entries : List α) :
    lastValue? value? (a :: entries) = (lastValue? value? entries).or (value? a) := by
  rw [← List.singleton_append, lastValue?_append]
  congr 1
  exact List.findSome?_singleton

theorem lastValue?_eq_none_iff {entries : List α} :
    lastValue? value? entries = none ↔ ∀ a ∈ entries, value? a = none := by
  simp [lastValue?]

end LastValue

namespace Theme

/-- What the last class that sets an attribute sets it to. -/
def lastSet? {α : Type} (theme : Theme) (part : Overlay → Option α) (names : List String) : Option α :=
  lastValue? (fun name => (theme.overlay? name).bind part) names

private theorem foldl_applyClass (theme : Theme) (style : Style) (names : List String) :
    names.foldl theme.applyClass style =
      { font := (theme.lastSet? Overlay.variant names).elim style.font theme.fonts.get
        foreground := (theme.lastSet? Overlay.foreground names).or style.foreground
        background := (theme.lastSet? Overlay.background names).or style.background } := by
  induction names generalizing style with
  | nil => rfl
  | cons name names ih =>
    rw [List.foldl_cons, ih]
    simp only [lastSet?, lastValue?_cons, Option.or_assoc]
    unfold applyClass
    cases theme.overlay? name with
    | none => simp
    | some overlay =>
      -- the later classes decide, and this one where they leave an attribute open
      simp only [Option.elim_some, Option.bind_some, Overlay.apply, Option.orElse_eq_orElse, Option.orElse_eq_or]
      congr 1
      cases lastValue? (fun name => (theme.overlay? name).bind Overlay.variant) names <;> rfl

/-- The last class that sets an attribute decides it; where none does, the text has the base font and no colour. -/
theorem styleFor_eq (theme : Theme) (names : List String) :
    theme.styleFor names =
      { font := (theme.lastSet? Overlay.variant names).elim theme.fonts.base theme.fonts.get
        foreground := theme.lastSet? Overlay.foreground names
        background := theme.lastSet? Overlay.background names } := by
  rw [styleFor, foldl_applyClass]
  simp [baseStyle]

end Theme

end StyledCode
