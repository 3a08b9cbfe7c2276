import StyledCode.Theme.Basic

/-!
# The family of the italic font

A host may answer with a font of another family than the one that it is asked for.  An italic answer of another family
does not count, but the oblique answer that takes its place is used as it is.

* `CodeFonts.Slants` : the three ways in which the italic font of a base font comes about
* `FontProvider.KeepsFamily` : what a provider must answer for the family to stay the same
* `CodeFonts.italic_family_iff` : the italic font is of the family of the base font exactly then, wherever the fonts
  come from
-/

namespace StyledCode

/-- The italic font that a provider leads to for a base font. -/
inductive CodeFonts.Slants (provider : FontProvider) (base : Font) : Font → Prop
  /-- The italic answer counts if it is of the same family. -/
  | italic {font : Font} (h : provider.find? base.family .italic base.size = some font)
      (hfamily : font.family = base.family) : Slants provider base font
  /-- The oblique answer takes its place, of whatever family it is. -/
  | oblique {font : Font}
      (hitalic : ∀ italic, provider.find? base.family .italic base.size = some italic → italic.family ≠ base.family)
      (h : provider.find? base.family .oblique base.size = some font) : Slants provider base font
  /-- Without an answer the base font takes its place. -/
  | upright
      (hitalic : ∀ italic, provider.find? base.family .italic base.size = some italic → italic.family ≠ base.family)
      (h : provider.find? base.family .oblique base.size = none) : Slants provider base base

/-- Where a provider is asked for the slanted faces of a base font, its italic answer is of the family of that font, or
its oblique answer is not of another one. -/
def FontProvider.KeepsFamily (provider : FontProvider) (base : Font) : Prop :=
  (∃ italic, provider.find? base.family .italic base.size = some italic ∧ italic.family = base.family) ∨
    ∀ oblique, provider.find? base.family .oblique base.size = some oblique → oblique.family = base.family

namespace CodeFonts

theorem slants_ofBase (provider : FontProvider) (base : Font) : Slants provider base (ofBase provider base).italic := by
  cases hitalic : (provider.find? base.family .italic base.size).filter (·.family == base.family) with
  | some italic =>
    obtain ⟨hfind, hfamily⟩ := Option.filter_eq_some_iff.1 hitalic
    have hfont : (ofBase provider base).italic = italic := by
      rw [ofBase, hitalic]
      rfl
    rw [hfont]
    exact .italic hfind (beq_iff_eq.1 hfamily)
  | none =>
    have hother : ∀ italic, provider.find? base.family .italic base.size = some italic →
        italic.family ≠ base.family := by
      intro italic hfind heq
      rw [hfind, Option.filter_some, if_pos (beq_iff_eq.2 heq)] at hitalic
      contradiction
    have hfont : (ofBase provider base).italic = (provider.find? base.family .oblique base.size).getD base := by
      rw [ofBase, hitalic]
      rfl
    rw [hfont]
    cases hoblique : provider.find? base.family .oblique base.size with
    | some oblique => exact .oblique hother hoblique
    | none => exact .upright hother hoblique

/-- The oblique answer is the only one that can be of another family. -/
theorem Slants.family_iff {provider : FontProvider} {base font : Font} (h : Slants provider base font) :
    font.family = base.family ↔ provider.KeepsFamily base := by
  cases h with
  | italic hfind hfamily => exact iff_of_true hfamily (.inl ⟨_, hfind, hfamily⟩)
  | oblique hother hfind =>
    constructor
    · intro hfamily
      refine .inr fun oblique hoblique => ?_
      obtain rfl := Option.some.inj (hfind.symm.trans hoblique)
      exact hfamily
    · rintro (⟨italic, hitalic, hfamily⟩ | hoblique)
      · exact absurd hfamily (hother italic hitalic)
      · exact hoblique _ hfind
  | upright _ hnone =>
    refine iff_of_true rfl (.inr fun oblique hoblique => ?_)
    rw [hnone] at hoblique
    contradiction

theorem eq_ofBase_of_resolve {provider : FontProvider} {request : Option FontRequest} {fonts : CodeFonts}
    (h : resolve provider request = .ok fonts) : fonts = ofBase provider fonts.base := by
  rw [resolve] at h
  split at h
  · obtain rfl := Except.ok.inj h
    rfl
  · contradiction

private theorem family_iff_of_resolve {provider : FontProvider} {request : Option FontRequest} {fonts : CodeFonts}
    (h : resolve provider request = .ok fonts) :
    fonts.italic.family = fonts.base.family ↔ provider.KeepsFamily fonts.base := by
  have hslants := slants_ofBase provider fonts.base
  rw [← eq_ofBase_of_resolve h] at hslants
  exact hslants.family_iff

end CodeFonts

/-- Whatever a provider answers, the italic font made from a base font is of its family exactly where the provider
keeps the family of that base font.  This goes for fonts found for a request, and for those of a theme that is built or
gets another font. -/
theorem CodeFonts.italic_family_iff (provider : FontProvider) :
    (∀ base, (ofBase provider base).italic.family = (ofBase provider base).base.family ↔ provider.KeepsFamily base) ∧
      (∀ request fonts, resolve provider request = .ok fonts →
        (fonts.italic.family = fonts.base.family ↔ provider.KeepsFamily fonts.base)) ∧
      (∀ name source request theme, Theme.build name source request provider = .ok theme →
        (theme.fonts.italic.family = theme.fonts.base.family ↔ provider.KeepsFamily theme.fonts.base)) ∧
      ∀ (theme : Theme) (request : Option FontRequest) (changed : Theme), theme.withFont request provider = .ok changed →
        (changed.fonts.italic.family = changed.fonts.base.family ↔ provider.KeepsFamily changed.fonts.base) := by
  refine ⟨fun base => (slants_ofBase provider base).family_iff, fun _ _ hresolve => family_iff_of_resolve hresolve,
    fun name source request theme hbuild => ?_, fun theme request changed hchanged => ?_⟩
  · obtain ⟨fonts, hresolve, rfl⟩ := Theme.build_eq_ok_iff.1 hbuild
    exact family_iff_of_resolve hresolve
  · obtain ⟨fonts, hresolve, rfl⟩ := Theme.withFont_eq_ok_iff.1 hchanged
    exact family_iff_of_resolve hresolve

/-- The italic answer is of another family, and the oblique one of the right family. -/
theorem CodeFonts.italic_family_iff_oblique :
    let provider : FontProvider :=
      .installed [(("mono", .regular), "mono"), (("mono", .italic), "other"), (("mono", .oblique), "mono")] none
    let fonts : CodeFonts := ⟨⟨"mono", .regular, 10⟩, ⟨"mono", .regular, 10⟩, ⟨"mono", .oblique, 10⟩⟩
    resolve provider (some ⟨"mono", 10⟩) = .ok fonts ∧ fonts.italic.family = fonts.base.family := by
  intro provider fonts
  have hresolve : resolve provider (some ⟨"mono", 10⟩) = .ok fonts := by rfl
  refine ⟨hresolve, ((italic_family_iff provider).2.1 _ _ hresolve).2 (.inr fun oblique hoblique => ?_)⟩
  obtain rfl := Option.some.inj hoblique
  rfl

/-- The oblique answer is of another family, and is used. -/
theorem CodeFonts.italic_of_other_family :
    ¬ ∀ (provider : FontProvider) (request : Option FontRequest) (fonts : CodeFonts),
      resolve provider request = .ok fonts → fonts.italic.family = fonts.base.family := by
  intro h
  have hfamily := h (.installed [(("mono", .regular), "mono"), (("mono", .oblique), "fallback")] none)
    (some ⟨"mono", 10⟩) ⟨⟨"mono", .regular, 10⟩, ⟨"mono", .regular, 10⟩, ⟨"fallback", .oblique, 10⟩⟩ rfl
  exact absurd hfamily (by decide)

end StyledCode
