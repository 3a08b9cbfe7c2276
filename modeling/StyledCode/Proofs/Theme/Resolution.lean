import Mathlib.Data.Set.Card
import StyledCode.Proofs.Stylesheet.Merge
import StyledCode.Proofs.Theme.Composition

/-!
# Resolved classes

What a theme knows of a class, told from all the declarations made for the class in their order, as if no stylesheet
had merged them.

* `Declaration.lastOf?` : the value of the last declaration of some properties
* `Declaration.lastOf?_lastOfEach` : merging keeps this value
* `Overlay.ofDeclarations_eq` : declarations describe an overlay through their last values
* `Theme.resolved_ofRules` : the classes and the background of a theme, told from the rules
-/

namespace StyledCode

/-- The value of the last declaration of one of some properties. -/
def Declaration.lastOf? (properties : List String) (declarations : List Declaration) : Option String :=
  lastValue? (fun d => if d.property ∈ properties then some d.value else none) declarations

/-- The properties that set an attribute. -/
def Overlay.properties : List String := ["color", "background-color", "font-weight", "font-style"]

namespace Declaration

open Stylesheet (valueOf?)

/-! ### The last declarations of each property -/

theorem lastOf?_cons (properties : List String) (d : Declaration) (declarations : List Declaration) :
    lastOf? properties (d :: declarations) =
      (lastOf? properties declarations).or (if d.property ∈ properties then some d.value else none) :=
  lastValue?_cons d declarations

theorem lastOf?_eq_none_iff {properties : List String} {declarations : List Declaration} :
    lastOf? properties declarations = none ↔ ∀ d ∈ declarations, d.property ∉ properties := by
  simp [lastOf?, lastValue?_eq_none_iff]

/-- Merging keeps the value of the last declaration of any properties, one of each or several that compete. -/
theorem lastOf?_lastOfEach (properties : List String) (declarations : List Declaration) :
    lastOf? properties (lastOfEach declarations) = lastOf? properties declarations := by
  induction declarations with
  | nil => rfl
  | cons d declarations ih =>
    rw [Stylesheet.lastOfEach_cons, lastOf?_cons]
    split
    · rw [lastOf?_cons, ih]
    · rename_i hlater
      rw [ih]
      split
      · -- a later declaration of the same property comes before this one
        rename_i hmem
        have hsome : lastOf? properties declarations ≠ none := by
          intro hnone
          refine hlater fun e he heq => ?_
          exact lastOf?_eq_none_iff.1 hnone e he (heq ▸ hmem)
        exact (Option.or_of_isSome (Option.isSome_iff_ne_none.2 hsome)).symm
      · exact Option.or_none.symm

/-- Where every property has one declaration, the first one is the last. -/
private theorem valueOf?_eq_lastOf? {declarations : List Declaration}
    (h : declarations.Pairwise fun d e => d.property ≠ e.property) (property : String) :
    valueOf? declarations property = lastOf? [property] declarations := by
  induction declarations with
  | nil => rfl
  | cons d declarations ih =>
    obtain ⟨hd, h⟩ := List.pairwise_cons.1 h
    rw [lastOf?_cons, ← ih h, valueOf?, valueOf?, List.find?_cons]
    by_cases hproperty : d.property = property
    · subst hproperty
      have hnone : declarations.find? (·.property == d.property) = none := by
        rw [List.find?_eq_none]
        intro e he
        simpa using (hd e he).symm
      simp [hnone]
    · have hne : (d.property == property) = false := beq_eq_false_iff_ne.2 hproperty
      simp [hne, hproperty]

theorem valueOf?_lastOfEach (declarations : List Declaration) (property : String) :
    valueOf? (lastOfEach declarations) property = lastOf? [property] declarations := by
  have hdistinct : (lastOfEach declarations).Pairwise fun d e => d.property ≠ e.property := List.pairwise_pwFilter _
  rw [valueOf?_eq_lastOf? hdistinct, lastOf?_lastOfEach]

end Declaration

namespace Overlay

open Declaration (lastOf?)

private theorem foldl_declare (overlay : Overlay) (declarations : List Declaration) :
    declarations.foldl declare overlay =
      { foreground := ((lastOf? ["color"] declarations).map Color.ofCss).or overlay.foreground
        background := ((lastOf? ["background-color"] declarations).map Color.ofCss).or overlay.background
        variant := ((lastOf? ["font-weight", "font-style"] declarations).map Variant.ofCss).or overlay.variant } := by
  induction declarations generalizing overlay with
  | nil => rfl
  | cons d declarations ih =>
    rw [List.foldl_cons, ih]
    simp only [Declaration.lastOf?_cons, Option.map_or, Option.or_assoc]
    unfold declare
    split <;> simp_all

/-- Declarations describe an overlay through the last values of the properties that set each attribute. -/
theorem ofDeclarations_eq (declarations : List Declaration) :
    ofDeclarations declarations =
      { foreground := (lastOf? ["color"] declarations).map Color.ofCss
        background := (lastOf? ["background-color"] declarations).map Color.ofCss
        variant := (lastOf? ["font-weight", "font-style"] declarations).map Variant.ofCss } := by
  rw [ofDeclarations, foldl_declare]
  simp

/-- An overlay sets nothing if none of its declarations is of one of the four properties. -/
theorem isEmpty_ofDeclarations_iff {declarations : List Declaration} :
    (ofDeclarations declarations).isEmpty = true ↔ ∀ d ∈ declarations, d.property ∉ properties := by
  rw [ofDeclarations_eq]
  simp only [isEmpty, properties, Bool.and_eq_true, Option.isNone_iff_eq_none, Option.map_eq_none_iff,
    Declaration.lastOf?_eq_none_iff]
  constructor
  · rintro ⟨⟨hcolor, hbackground⟩, hfont⟩ d hd
    have := hcolor d hd
    have := hbackground d hd
    have := hfont d hd
    simp_all
  · intro h
    refine ⟨⟨fun d hd => ?_, fun d hd => ?_⟩, fun d hd => ?_⟩ <;> have := h d hd <;> simp_all

/-- Merged declarations describe the overlay that all declarations describe. -/
theorem ofDeclarations_lastOfEach (declarations : List Declaration) :
    ofDeclarations (Declaration.lastOfEach declarations) = ofDeclarations declarations := by
  rw [ofDeclarations_eq, ofDeclarations_eq]
  simp only [Declaration.lastOf?_lastOfEach]

end Overlay

/-! ### The classes of a theme -/

namespace Theme

open Declaration (lastOf?)
open Stylesheet (madeFor)

/-- The overlay of declarations, unless they set nothing. -/
def resolved? (declarations : List Declaration) : Option Overlay :=
  if (Overlay.ofDeclarations declarations).isEmpty then none else some (Overlay.ofDeclarations declarations)

private theorem resolved?_eq_none_iff {declarations : List Declaration} :
    resolved? declarations = none ↔ ∀ d ∈ declarations, d.property ∉ Overlay.properties := by
  rw [← Overlay.isEmpty_ofDeclarations_iff]
  simp [resolved?]

private theorem classes_ofRules (name : String) (rules : List Rule) (fonts : CodeFonts) :
    (ofStylesheet name (.ofRules rules) fonts).classes =
      ((rules.flatMap Rule.made).map (·.1)).eraseDups.filterMap fun c =>
        (resolved? (madeFor c (rules.flatMap Rule.made))).map (c, ·) := by
  rw [ofStylesheet, Stylesheet.classes_ofRules, Stylesheet.merged, List.filterMap_map]
  refine List.filterMap_congr fun c _ => ?_
  simp only [Function.comp_apply, Overlay.ofDeclarations_lastOfEach, resolved?]
  split <;> rfl

private theorem lookup_filterMap {β : Type} (value? : String → Option β) (names : List String) (c : String) :
    (names.filterMap fun n => (value? n).map (n, ·)).lookup c = if c ∈ names then value? c else none := by
  induction names with
  | nil => rfl
  | cons n names ih =>
    by_cases h : c = n
    · subst h
      cases hvalue : value? c with
      | none => simp [hvalue, ih]
      | some b => simp [hvalue]
    · cases hvalue : value? n with
      | none => simp [hvalue, ih, h]
      | some b =>
        have hne : (c == n) = false := beq_eq_false_iff_ne.2 h
        simp [hvalue, ih, h, hne, List.lookup_cons]

/-- A class is known by what is declared for it, whether a rule names it or not. -/
private theorem overlay?_ofRules (name : String) (rules : List Rule) (fonts : CodeFonts) (c : String) :
    (ofStylesheet name (.ofRules rules) fonts).overlay? c = resolved? (madeFor c (rules.flatMap Rule.made)) := by
  rw [overlay?, classes_ofRules, lookup_filterMap]
  split
  · rfl
  · rename_i hnew
    rw [Stylesheet.madeFor_eq_nil (mt List.mem_eraseDups.2 hnew)]
    rfl

private theorem names_ofRules (name : String) (rules : List Rule) (fonts : CodeFonts) :
    (ofStylesheet name (.ofRules rules) fonts).classes.map (·.1) =
      ((rules.flatMap Rule.made).map (·.1)).eraseDups.filter fun c =>
        (resolved? (madeFor c (rules.flatMap Rule.made))).isSome := by
  rw [classes_ofRules, List.map_filterMap, ← List.filterMap_eq_filter]
  refine List.filterMap_congr fun c _ => ?_
  cases h : resolved? (madeFor c (rules.flatMap Rule.made)) <;> simp [Option.guard, h]

private theorem mem_names_iff {name : String} {rules : List Rule} {fonts : CodeFonts} {c : String} :
    c ∈ (ofStylesheet name (.ofRules rules) fonts).classes.map (·.1) ↔
      ∃ d ∈ madeFor c (rules.flatMap Rule.made), d.property ∈ Overlay.properties := by
  have hresolved : (resolved? (madeFor c (rules.flatMap Rule.made))).isSome ↔
      ∃ d ∈ madeFor c (rules.flatMap Rule.made), d.property ∈ Overlay.properties := by
    rw [Option.isSome_iff_ne_none, ne_eq, resolved?_eq_none_iff]
    simp
  rw [names_ofRules, List.mem_filter, hresolved, List.mem_eraseDups, and_iff_right_iff_imp]
  rintro ⟨d, hd, -⟩
  by_contra hnew
  rw [Stylesheet.madeFor_eq_nil hnew] at hd
  contradiction

private theorem baseBackground?_ofRules (rules : List Rule) :
    (Stylesheet.ofRules rules).baseBackground? =
      (lastOf? ["background"] (madeFor baseClass (rules.flatMap Rule.made))).or
        (lastOf? ["background-color"] (madeFor baseClass (rules.flatMap Rule.made))) := by
  have hfind : (Stylesheet.ofRules rules).find? baseClass =
      if baseClass ∈ ((rules.flatMap Rule.made).map (·.1)).eraseDups then
        some (Declaration.lastOfEach (madeFor baseClass (rules.flatMap Rule.made)))
      else none := by
    rw [Stylesheet.find?, Stylesheet.classes_ofRules, Stylesheet.merged, ← List.filterMap_eq_map]
    exact lookup_filterMap (fun c => some (Declaration.lastOfEach (madeFor c (rules.flatMap Rule.made)))) _ _
  rw [Stylesheet.baseBackground?, hfind]
  split
  · simp [Declaration.valueOf?_lastOfEach]
  · rename_i hnew
    rw [Stylesheet.madeFor_eq_nil (mt List.mem_eraseDups.2 hnew)]
    rfl

/-- What a theme knows of a class is what the last declarations of its properties say, over all rules: of the two
that choose the font the one declared last, whichever it is.  It knows the classes for which one of the four
properties is declared, and no others. -/
theorem resolved_ofRules (name : String) (rules : List Rule) (fonts : CodeFonts) :
    let theme := ofStylesheet name (.ofRules rules) fonts
    let made := fun c => madeFor c (rules.flatMap Rule.made)
    (∀ c, theme.overlay? c =
      if ∃ d ∈ made c, d.property ∈ Overlay.properties then
        some
          { foreground := (lastOf? ["color"] (made c)).map Color.ofCss
            background := (lastOf? ["background-color"] (made c)).map Color.ofCss
            variant := (lastOf? ["font-weight", "font-style"] (made c)).map Variant.ofCss }
      else none) ∧
      theme.classes.length = {c | ∃ d ∈ made c, d.property ∈ Overlay.properties}.ncard ∧
      theme.background =
        ((lastOf? ["background"] (made baseClass)).or (lastOf? ["background-color"] (made baseClass))).elim Color.white
          Color.ofCss := by
  intro theme made
  refine ⟨fun c => ?_, ?_, ?_⟩
  · rw [overlay?_ofRules, resolved?, ← Overlay.ofDeclarations_eq]
    simp only [Overlay.isEmpty_ofDeclarations_iff]
    by_cases h : ∃ d ∈ made c, d.property ∈ Overlay.properties
    · have hsome : ¬ ∀ d ∈ made c, d.property ∉ Overlay.properties := by simpa using h
      rw [if_pos h, if_neg hsome]
    · have hnone : ∀ d ∈ made c, d.property ∉ Overlay.properties := by simpa using h
      rw [if_neg h, if_pos hnone]
  · have hset : {c | ∃ d ∈ made c, d.property ∈ Overlay.properties} = ↑(theme.classes.map (·.1)).toFinset := by
      ext c
      rw [List.coe_toFinset]
      exact mem_names_iff.symm
    have hnodup : (theme.classes.map (·.1)).Nodup := by
      rw [names_ofRules]
      exact (Text.nodup_eraseDups _).filter _
    rw [hset, Set.ncard_coe_finset, List.toFinset_card_of_nodup hnodup, List.length_map]
  · rw [← baseBackground?_ofRules]
    rfl

end Theme

end StyledCode
