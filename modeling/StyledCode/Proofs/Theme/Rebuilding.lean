import StyledCode.Proofs.Stylesheet.Background
import StyledCode.Proofs.Theme.Resolution

/-!
# Themes rebuilt from their own stylesheets

The stylesheet that a theme hands to its host describes the same theme, but for the background of the base class.

* `Theme.overlay?_ofStylesheet` : what a theme knows of a class, told from the declarations of the class
* `Theme.resolved?_remaining` : what a theme knows of what is left of the base class
* `Theme.rebuilt_of_css` : a theme that is built from the stylesheet of another one
-/

namespace StyledCode

open Declaration (lastOf?)
open Stylesheet (withoutBackgrounds)

/-! ### What is left of the declarations -/

private theorem Declaration.lastOf?_filter {properties : List String} {p : Declaration → Bool}
    {declarations : List Declaration} (h : ∀ d ∈ declarations, d.property ∈ properties → p d = true) :
    lastOf? properties (declarations.filter p) = lastOf? properties declarations := by
  induction declarations with
  | nil => rfl
  | cons d declarations ih =>
    obtain ⟨hd, h⟩ := List.forall_mem_cons.1 h
    rw [lastOf?_cons]
    by_cases hp : p d = true
    · rw [List.filter_cons_of_pos hp, lastOf?_cons, ih h]
    · have hother : d.property ∉ properties := fun hmem => hp (hd hmem)
      rw [List.filter_cons_of_neg hp, ih h, if_neg hother, Option.or_none]

private theorem Overlay.ofDeclarations_withoutBackgrounds (declarations : List Declaration) :
    ofDeclarations (withoutBackgrounds declarations) =
      { ofDeclarations declarations with background := none } := by
  have hkept : ∀ properties : List String, (∀ p ∈ properties, p.toLower ∉ ["background", "background-color"]) →
      lastOf? properties (withoutBackgrounds declarations) = lastOf? properties declarations :=
    fun properties h => Declaration.lastOf?_filter fun d _ hd => decide_eq_true (h d.property hd)
  have hdropped : lastOf? ["background-color"] (withoutBackgrounds declarations) = none := by
    rw [Declaration.lastOf?_eq_none_iff]
    intro d hd hproperty
    have hother := of_decide_eq_true (List.mem_filter.1 hd).2
    rw [List.mem_singleton.1 hproperty] at hother
    exact hother (by decide +kernel)
  rw [ofDeclarations_eq, ofDeclarations_eq, hkept ["color"] (by decide +kernel), hdropped,
    hkept ["font-weight", "font-style"] (by decide +kernel)]
  rfl

namespace Theme

/-- Of the base class a theme knows all but the background, if that is anything. -/
theorem resolved?_remaining (declarations : List Declaration) :
    (Stylesheet.remaining? baseClass declarations).bind resolved? =
      ((resolved? declarations).map fun overlay => { overlay with background := none }).filter (!·.isEmpty) := by
  have hothers : (Stylesheet.remaining? baseClass declarations).bind resolved? =
      resolved? (withoutBackgrounds declarations) := by
    rw [Stylesheet.remaining?, if_pos rfl]
    split
    · rename_i hnil
      rw [hnil]
      rfl
    · rfl
  rw [hothers, resolved?, resolved?, Overlay.ofDeclarations_withoutBackgrounds]
  generalize Overlay.ofDeclarations declarations = overlay
  obtain ⟨foreground, background, variant⟩ := overlay
  cases foreground <;> cases background <;> cases variant <;> rfl

/-- What a theme knows of a class is told by the declarations of the class. -/
theorem overlay?_ofStylesheet (name : String) {sheet : Stylesheet} (h : sheet.WellFormed) (fonts : CodeFonts)
    (c : String) : (ofStylesheet name sheet fonts).overlay? c = (sheet.find? c).bind resolved? := by
  have hclasses : (ofStylesheet name sheet fonts).classes = sheet.classes.filterMap fun entry =>
      (resolved? entry.2).map (entry.1, ·) := by
    refine List.filterMap_congr fun entry _ => ?_
    simp only [resolved?]
    split <;> rfl
  rw [overlay?, hclasses, Stylesheet.find?]
  exact Stylesheet.lookup_filterMap_entries (fun _ => resolved?) h.names_nodup c

/-- The stylesheet read from any text is read back, once it is written, as it is, but without the background of its
base class.  A theme that is built from the stylesheet of another one knows the same of every other class, and of the
base class all but the background. -/
theorem rebuilt_of_css (source : String) :
    Stylesheet.ofText (Stylesheet.ofText source).toCss = (Stylesheet.ofText source).withoutBaseBackground ∧
      ∀ {name request provider theme}, build name source request provider = .ok theme →
        ∀ {request' provider' fonts}, CodeFonts.resolve provider' request' = .ok fonts → ∀ name',
          ∃ rebuilt, build name' theme.css request' provider' = .ok rebuilt ∧
            (∀ c, c ≠ baseClass → rebuilt.overlay? c = theme.overlay? c) ∧
            rebuilt.overlay? baseClass =
              ((theme.overlay? baseClass).map fun overlay => { overlay with background := none }).filter
                (!·.isEmpty) := by
  have hsheet := Stylesheet.wellFormed_ofText source
  have hread := Stylesheet.ofText_toCss hsheet
  refine ⟨hread, fun {name request provider theme} hbuild {request' provider' fonts'} hfonts' name' => ?_⟩
  obtain ⟨fonts, -, rfl⟩ := Theme.build_eq_ok_iff.1 hbuild
  have hwritten := hread ▸ Stylesheet.wellFormed_ofText (Stylesheet.ofText source).toCss
  refine ⟨ofStylesheet name' (Stylesheet.ofText source).withoutBaseBackground fonts', ?_, fun c hc => ?_, ?_⟩
  · rw [build, hfonts', ← hread]
    rfl
  · rw [overlay?_ofStylesheet _ hwritten, overlay?_ofStylesheet _ hsheet,
      Stylesheet.find?_withoutBaseBackground hsheet]
    cases (Stylesheet.ofText source).find? c with
    | none => rfl
    | some declarations => rw [Option.bind_some, Stylesheet.remaining?, if_neg hc]
  · rw [overlay?_ofStylesheet _ hwritten, overlay?_ofStylesheet _ hsheet,
      Stylesheet.find?_withoutBaseBackground hsheet]
    cases (Stylesheet.ofText source).find? baseClass with
    | none => rfl
    | some declarations => exact resolved?_remaining declarations

/-- The base class keeps its color, and another class its background. -/
theorem rebuilt_of_css_own_background :
    let source := ".hljs\x7bcolor:#fff;background-color:#222\x7d.a\x7bbackground-color:#333\x7d"
    let fonts := CodeFonts.ofBase .generic ⟨defaultFamily, .regular, defaultSize⟩
    let theme := ofStylesheet "dark" (Stylesheet.ofText source) fonts
    build "dark" source none .generic = .ok theme ∧ CodeFonts.resolve .generic none = .ok fonts ∧
      "a" ≠ baseClass ∧ ∃ rebuilt, build "again" theme.css none .generic = .ok rebuilt ∧
        rebuilt.overlay? "a" = some { background := some (Color.ofCss "#333") } ∧
        theme.overlay? baseClass =
          some { foreground := some (Color.ofCss "#fff"), background := some (Color.ofCss "#222") } ∧
        rebuilt.overlay? baseClass = some { foreground := some (Color.ofCss "#fff") } := by
  intro source fonts theme
  have hsheet : Stylesheet.ofText source =
      ⟨[("hljs", [⟨"color", "#fff"⟩, ⟨"background-color", "#222"⟩]),
        ("a", [⟨"background-color", "#333"⟩])]⟩ := by decide +kernel
  have hfonts : CodeFonts.resolve .generic none = .ok fonts := rfl
  have hbuild : build "dark" source none .generic = .ok theme := by
    rw [build, hfonts]
    rfl
  have hne : "a" ≠ baseClass := by decide
  have hknown : ∀ c, theme.overlay? c = ((Stylesheet.ofText source).find? c).bind resolved? :=
    overlay?_ofStylesheet "dark" (Stylesheet.wellFormed_ofText source) fonts
  have hbase : theme.overlay? baseClass =
      some { foreground := some (Color.ofCss "#fff"), background := some (Color.ofCss "#222") } := by
    rw [hknown, hsheet]
    rfl
  have hother : theme.overlay? "a" = some { background := some (Color.ofCss "#333") } := by
    rw [hknown, hsheet]
    rfl
  obtain ⟨rebuilt, hrebuilt, hothers, hrest⟩ := (rebuilt_of_css source).2 hbuild hfonts "again"
  refine ⟨hbuild, hfonts, hne, rebuilt, hrebuilt, (hothers _ hne).trans hother, hbase, ?_⟩
  rw [hrest, hbase]
  rfl

end Theme

end StyledCode
