import Mathlib.Data.List.Pairwise
import StyledCode.Proofs.Text.Distinct
import StyledCode.Stylesheet.Basic

/-!
# Merging rules

The stylesheet of a list of rules, said of the declarations that the rules make for one class after the other.

* `Rule.made` : the declarations that a rule makes, each with the class it is made for
* `Declaration.lastOfEach` : the last declaration of every property
* `merged` : the classes in the order of their first declarations, each with the last declarations of its properties
* `classes_ofRules` : the stylesheet of rules is what their declarations are merged into
-/

namespace StyledCode

/-- The declarations that a rule makes, each with the class it is made for: all of one class, then all of the next. -/
def Rule.made (rule : Rule) : List (String × Declaration) :=
  rule.classes.flatMap fun name => rule.declarations.map (name, ·)

/-- The declarations that are not followed by another one of the same property. -/
def Declaration.lastOfEach (declarations : List Declaration) : List Declaration :=
  declarations.pwFilter fun d e => d.property ≠ e.property

namespace Stylesheet

open Declaration (lastOfEach)
open Text (eraseDups_append_singleton nodup_eraseDups)

/-- The declarations made for a class. -/
def madeFor (name : String) (made : List (String × Declaration)) : List Declaration :=
  (made.filter (·.1 = name)).map (·.2)

/-- The classes in the order in which declarations are first made for them, each with the last declarations of its
properties in the order in which these are made. -/
def merged (made : List (String × Declaration)) : List (String × List Declaration) :=
  (made.map (·.1)).eraseDups.map fun name => (name, lastOfEach (madeFor name made))

/-! ### One declaration after the other -/

private theorem update_update (change change' : List Declaration → List Declaration) (name : String)
    (classes : List (String × List Declaration)) :
    update change name (update change' name classes) = update (change ∘ change') name classes := by
  induction classes with
  | nil => simp [update]
  | cons entry classes ih =>
    obtain ⟨other, declarations⟩ := entry
    by_cases h : other = name
    · simp [update, h]
    · simp only [update, if_neg h, ih]

/-- The classes after one more declaration made for one of them. -/
private def make (classes : List (String × List Declaration)) (entry : String × Declaration) :
    List (String × List Declaration) :=
  update (declare · entry.2) entry.1 classes

private theorem foldl_make_map {declarations : List Declaration} (hne : declarations ≠ []) (name : String)
    (classes : List (String × List Declaration)) :
    (declarations.map (name, ·)).foldl make classes = update (declarations.foldl declare) name classes := by
  induction declarations generalizing classes with
  | nil => exact absurd rfl hne
  | cons d declarations ih =>
    rw [List.map_cons, List.foldl_cons, make]
    cases declarations with
    | nil => rfl
    | cons e declarations =>
      rw [ih (List.cons_ne_nil _ _), update_update]
      rfl

private theorem classes_add (sheet : Stylesheet) (rule : Rule) :
    (sheet.add rule).classes = rule.made.foldl make sheet.classes := by
  rw [add, Rule.made, List.foldl_flatMap]
  cases hnil : rule.declarations.isEmpty with
  | true =>
    rw [List.isEmpty_iff.1 hnil, if_pos rfl]
    induction rule.classes with
    | nil => rfl
    | cons name classes ih => exact ih
  | false =>
    rw [if_neg (by decide)]
    simp only [foldl_make_map (List.isEmpty_eq_false_iff.1 hnil)]

/-! ### What the declarations are merged into -/

theorem lastOfEach_cons (d : Declaration) (declarations : List Declaration) :
    lastOfEach (d :: declarations) =
      if ∀ e ∈ declarations, d.property ≠ e.property then d :: lastOfEach declarations
      else lastOfEach declarations := by
  have hall := List.forall_mem_pwFilter (R := fun d e : Declaration => d.property ≠ e.property)
    (fun {x y z} hne => by by_cases h : x.property = y.property <;> simp_all) d declarations
  split
  · rename_i hnone
    exact List.pwFilter_cons_of_pos (hall.2 hnone)
  · rename_i hnone
    exact List.pwFilter_cons_of_neg (mt hall.1 hnone)

private theorem lastOfEach_append_singleton (declarations : List Declaration) (d : Declaration) :
    lastOfEach (declarations ++ [d]) = declare (lastOfEach declarations) d := by
  induction declarations with
  | nil => rfl
  | cons e declarations ih =>
    rw [List.cons_append, lastOfEach_cons, lastOfEach_cons, ih]
    simp only [List.forall_mem_append, List.forall_mem_singleton]
    by_cases he : e.property = d.property
    · -- the new declaration takes the place of `e`, whether `e` was the last one or not
      rw [if_neg fun h => h.2 he]
      split <;> simp [declare, he]
    · by_cases hlast : ∀ f ∈ declarations, e.property ≠ f.property
      · rw [if_pos ⟨hlast, he⟩, if_pos hlast]
        simp [declare, he]
      · rw [if_neg fun h => hlast h.1, if_neg hlast]

private theorem update_map (change : List Declaration → List Declaration) (name : String)
    (made : String → List Declaration) {names : List String} (hnodup : names.Nodup)
    (hnew : name ∉ names → made name = []) :
    update change name (names.map fun n => (n, made n)) =
      (names ++ if name ∈ names then [] else [name]).map
        fun n => (n, if n = name then change (made n) else made n) := by
  induction names with
  | nil => simp [update, hnew]
  | cons n names ih =>
    obtain ⟨hn, hnodup⟩ := List.nodup_cons.1 hnodup
    rw [List.map_cons, update]
    by_cases h : n = name
    · -- the class is found here, and nowhere behind
      subst h
      have hothers : ∀ other ∈ names, other ≠ n := fun other hother heq => hn (heq ▸ hother)
      simp +contextual [hothers]
    · have hmem : (name ∈ n :: names) = (name ∈ names) := by simp [Ne.symm h]
      rw [if_neg h, ih hnodup (by rwa [hmem] at hnew)]
      simp [h, hmem]

private theorem madeFor_append_singleton (name : String) (made : List (String × Declaration))
    (entry : String × Declaration) :
    madeFor name (made ++ [entry]) =
      if name = entry.1 then madeFor name made ++ [entry.2] else madeFor name made := by
  unfold madeFor
  by_cases h : name = entry.1
  · simp [h]
  · simp [h, Ne.symm h]

theorem madeFor_eq_nil {name : String} {made : List (String × Declaration)}
    (h : name ∉ made.map (·.1)) : madeFor name made = [] := by
  rw [madeFor, List.map_eq_nil_iff, List.filter_eq_nil_iff]
  intro entry hentry heq
  exact h (List.mem_map.2 ⟨entry, hentry, by simpa using heq⟩)

private theorem merged_append_singleton (made : List (String × Declaration)) (entry : String × Declaration) :
    merged (made ++ [entry]) = make (merged made) entry := by
  have hnew : entry.1 ∉ (made.map (·.1)).eraseDups → lastOfEach (madeFor entry.1 made) = [] := by
    intro hnew
    rw [madeFor_eq_nil (mt List.mem_eraseDups.2 hnew)]
    rfl
  have hnames : (made ++ [entry]).map (·.1) = made.map (·.1) ++ [entry.1] := List.map_append
  have hupdate := update_map (declare · entry.2) entry.1 (fun name => lastOfEach (madeFor name made))
    (nodup_eraseDups _) hnew
  rw [make, merged, merged, hupdate, hnames, eraseDups_append_singleton]
  simp only [List.mem_eraseDups, madeFor_append_singleton, apply_ite lastOfEach, lastOfEach_append_singleton]

private theorem foldl_make (made : List (String × Declaration)) : made.foldl make [] = merged made := by
  induction made using List.reverseRecOn with
  | nil => rfl
  | append_singleton made entry ih =>
    rw [List.foldl_append, ih, merged_append_singleton]
    rfl

/-- The stylesheet of rules keeps the last declaration of every property for every class, whatever rules make them. -/
theorem classes_ofRules (rules : List Rule) : (ofRules rules).classes = merged (rules.flatMap Rule.made) := by
  rw [← foldl_make, List.foldl_flatMap, ofRules]
  exact (List.foldl_hom Stylesheet.classes fun sheet rule => (classes_add sheet rule).symm).symm

end Stylesheet

end StyledCode
