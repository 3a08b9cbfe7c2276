import Mathlib.Data.List.Forall2
import StyledCode.Proofs.Markup.TaggedRuns
import StyledCode.Proofs.Reference.Decoding
import StyledCode.Proofs.Theme.Composition

/-!
# One markup, two themes

A theme decides how the decoded text looks, and nothing else: which runs there are, what they say and which classes
are open around them depends on the markup alone.

* `Run.styled` : texts with labels, each in the style of its label
* `Reference.expand_styled` : references are replaced alike, whatever the styles
* `decode_styled` : the decoded runs are texts with the classes around them, in the styles of the theme
* `decode_themes` : two themes give runs with the same texts, and one theme in two fonts the same colours and variants
-/

namespace StyledCode

/-- Texts with labels, each text in the style of its label. -/
def Run.styled {α : Type} (styleOf : α → Style) (labelled : List (String × α)) : List Run :=
  labelled.map fun (text, label) => ⟨text, styleOf label⟩

variable {α : Type}

theorem Run.texts_styled (styleOf : α → Style) (labelled : List (String × α)) :
    (styled styleOf labelled).map (·.text) = labelled.map (·.1) := by
  rw [styled, List.map_map]
  rfl

private theorem Run.substitute_styled (labelled : List (String × α)) (outs : List (List Char)) :
    ∃ labelled', ∀ styleOf : α → Style, substitute (styled styleOf labelled) outs = styled styleOf labelled' := by
  induction labelled generalizing outs with
  | nil => exact ⟨[], fun _ => rfl⟩
  | cons entry labelled ih =>
    obtain ⟨text, label⟩ := entry
    obtain ⟨labelled', h⟩ := ih (outs.drop text.length)
    -- whether a run is dropped depends on the characters it gets
    by_cases hnil : (outs.take text.length).flatten = []
    · refine ⟨labelled', fun styleOf => ?_⟩
      rw [styled, List.map_cons, substitute, showing?, if_pos hnil]
      exact h styleOf
    · refine ⟨(String.ofList (outs.take text.length).flatten, label) :: labelled', fun styleOf => ?_⟩
      rw [styled, List.map_cons, substitute, showing?, if_neg hnil]
      exact congrArg (_ :: ·) (h styleOf)

namespace Reference

/-- What the pieces of a text show depends on its characters alone. -/
theorem shown_eq_shown_map {glyph : α → Char} (text : List α) : shown glyph text = shown id (text.map glyph) := by
  have hdecoding := @decoding_shown _ id (text.map glyph)
  rw [List.map_id] at hdecoding
  exact (decoding_shown text).unique hdecoding

/-- Runs with their references replaced, told from their joined text. -/
theorem expand_eq_substitute (runs : List Run) :
    expand runs =
      if [] ∈ shown id (Run.plainText runs).toList then Run.substitute runs (shown id (Run.plainText runs).toList)
      else runs := by
  have hshown : shown Cell.glyph (Run.cells runs) = shown id (Run.plainText runs).toList := by
    rw [shown_eq_shown_map, Run.glyphs_cells]
  rw [expand, flatMap_cells_pieces, Run.ofCells_edit (length_shown _), hshown]
  simp only [any_isReplaced_iff, hshown]

/-- References are replaced alike, whatever the styles. -/
theorem expand_styled (labelled : List (String × α)) :
    ∃ labelled', ∀ styleOf : α → Style, expand (Run.styled styleOf labelled) = Run.styled styleOf labelled' := by
  have htext : ∀ styleOf : α → Style, Run.plainText (Run.styled styleOf labelled) =
      String.join (labelled.map (·.1)) := by
    intro styleOf
    rw [Run.plainText, Run.texts_styled]
  by_cases hany : [] ∈ shown id (String.join (labelled.map (·.1))).toList
  · obtain ⟨labelled', h⟩ := Run.substitute_styled labelled (shown id (String.join (labelled.map (·.1))).toList)
    refine ⟨labelled', fun styleOf => ?_⟩
    rw [expand_eq_substitute, htext, if_pos hany, h]
  · refine ⟨labelled, fun styleOf => ?_⟩
    rw [expand_eq_substitute, htext, if_neg hany]

end Reference

/-! ### Decoded runs -/

namespace Markup

private theorem taggedRuns_styled (before tokens : List Token) :
    ∃ labelled, ∀ theme : Theme, taggedRuns theme before tokens = Run.styled theme.styleFor labelled := by
  induction tokens generalizing before with
  | nil => exact ⟨[], fun _ => rfl⟩
  | cons token tokens ih =>
    obtain ⟨labelled, h⟩ := ih (before ++ [token])
    refine ⟨(token.shownText?.map fun text => (text, namesInside (openTags before))).toList ++ labelled, ?_⟩
    intro theme
    rw [taggedRuns, h, Run.styled, Run.styled, List.map_append]
    cases token.shownText? <;> rfl

/-- The decoded runs are texts with the classes around them, in the styles of the theme. -/
theorem decode_styled (html : String) :
    ∃ labelled, ∀ theme : Theme, decode theme html = Run.styled theme.styleFor labelled := by
  obtain ⟨raw, hraw⟩ := taggedRuns_styled [] (Token.scan html.toList)
  obtain ⟨labelled, h⟩ := Reference.expand_styled raw
  refine ⟨labelled, fun theme => ?_⟩
  rw [decode, rawRuns_eq_taggedRuns theme (Token.scan_spec html.toList).2, hraw, h]

/-- Two styles that differ at most in the fonts in which two themes show the same variant. -/
structure SameButFonts (theme theme' : Theme) (style style' : Style) : Prop where
  foreground : style.foreground = style'.foreground
  background : style.background = style'.background
  font : ∃ variant, style.font = theme.fonts.get variant ∧ style'.font = theme'.fonts.get variant

private theorem sameButFonts_styleFor (theme : Theme) (fonts : CodeFonts) (names : List String) :
    SameButFonts theme { theme with fonts } (theme.styleFor names) (({ theme with fonts } : Theme).styleFor names) := by
  rw [Theme.styleFor_eq, Theme.styleFor_eq]
  have hset : ∀ {β : Type} (part : Overlay → Option β),
      ({ theme with fonts } : Theme).lastSet? part names = theme.lastSet? part names := fun _ => rfl
  refine ⟨rfl, rfl, (theme.lastSet? Overlay.variant names).getD .base, ?_, ?_⟩
  · cases theme.lastSet? Overlay.variant names <;> rfl
  · simp only [hset]
    cases theme.lastSet? Overlay.variant names <;> rfl

/-- Two themes make the same texts of a markup.  If one is the other in another font, the runs have the same colours,
and their fonts are those of the same variant. -/
theorem decode_themes (html : String) (theme theme' : Theme) :
    (decode theme html).map (·.text) = (decode theme' html).map (·.text) ∧
      ∀ (request : Option FontRequest) (provider : FontProvider), theme.withFont request provider = .ok theme' →
        List.Forall₂ (fun run run' => SameButFonts theme theme' run.style run'.style)
          (decode theme html) (decode theme' html) := by
  obtain ⟨labelled, h⟩ := decode_styled html
  rw [h theme, h theme']
  refine ⟨by rw [Run.texts_styled, Run.texts_styled], fun request provider hfont => ?_⟩
  unfold Theme.withFont at hfont
  cases hfonts : CodeFonts.resolve provider request with
  | error e => rw [hfonts] at hfont; contradiction
  | ok fonts =>
    rw [hfonts] at hfont
    obtain rfl : { theme with fonts } = theme' := Except.ok.inj hfont
    rw [Run.styled, Run.styled, List.forall₂_map_left_iff, List.forall₂_map_right_iff, List.forall₂_same]
    exact fun entry _ => sameButFonts_styleFor theme fonts entry.2

/-- A font without bold and italic faces, where the theme had both. -/
theorem decode_themes_regular :
    let courier : CodeFonts := .ofBase .generic ⟨"courier", .regular, 14⟩
    let mono : Font := ⟨"mono", .regular, 20⟩
    let theme : Theme := ⟨"plain", courier, .white, [("keyword", { variant := some .bold })], ""⟩
    let theme' : Theme := { theme with fonts := ⟨mono, mono, mono⟩ }
    let html := "<span class=\"keyword\">a&amp;b</span>"
    theme.withFont (some ⟨"mono", 20⟩) (.installed [(("mono", .regular), "mono")] none) = .ok theme' ∧
      (decode theme html).length = (decode theme' html).length ∧
      ∀ pair ∈ (decode theme html).zip (decode theme' html), SameButFonts theme theme' pair.1.style pair.2.style := by
  intro courier mono theme theme' html
  have hfont : theme.withFont (some ⟨"mono", 20⟩) (.installed [(("mono", .regular), "mono")] none) = .ok theme' := rfl
  have hruns := (decode_themes html theme theme').2 _ _ hfont
  exact ⟨hfont, hruns.length_eq, fun pair hpair => (List.forall₂_iff_zip.1 hruns).2 hpair⟩

end Markup

end StyledCode
