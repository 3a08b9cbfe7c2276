import StyledCode.Proofs.Stylesheet.WellFormed
import StyledCode.Stylesheet.Printer

/-!
# Stylesheets read back

A stylesheet that was read from a text can be written and read again: its words end where they are written to end,
and no comment begins anywhere.  What is not written is the background of the base class.

* `remaining?`, `withoutBaseBackground` : a stylesheet without the background of its base class
* `scan_entries`, `ofRules_entries` : classes written one after the other are read as they are
* `ofText_toCss` : what a stylesheet is read back as
-/

namespace StyledCode.Stylesheet

open Selector Text

/-- The declarations that are not for a background, in either case of the letters. -/
def withoutBackgrounds (declarations : List Declaration) : List Declaration :=
  declarations.filter fun d => d.property.toLower ∉ ["background", "background-color"]

/-- What is left of the declarations of a class without the background of the base class; if nothing is left of the
base class, it is gone. -/
def remaining? (name : String) (declarations : List Declaration) : Option (List Declaration) :=
  if name = baseClass then
    if withoutBackgrounds declarations = [] then none else some (withoutBackgrounds declarations)
  else some declarations

/-- A stylesheet without the background of its base class. -/
def withoutBaseBackground (sheet : Stylesheet) : Stylesheet where
  classes := sheet.classes.filterMap fun (name, declarations) => (remaining? name declarations).map (name, ·)

/-! ### What is written -/

/-- Declarations as they are written. -/
def blockText (declarations : List Declaration) : List Char :=
  declarations.flatMap fun d => d.property.toList ++ ':' :: (d.value.toList ++ [';'])

/-- A class as it is written. -/
def entryText (entry : String × List Declaration) : List Char :=
  '.' :: (entry.1.toList ++ '\x7b' :: (blockText entry.2 ++ ['\x7d']))

/-- The classes with those declarations that are written. -/
def writtenClasses (sheet : Stylesheet) : List (String × List Declaration) :=
  sheet.classes.map fun entry => (entry.1, entry.2.filter (isWritten entry.1))

theorem toList_toCss (sheet : Stylesheet) : sheet.toCss.toList = sheet.writtenClasses.flatMap entryText := by
  have hblock : ∀ declarations : List Declaration,
      (String.join (declarations.map Declaration.toCss)).toList = blockText declarations := by
    intro declarations
    rw [String.toList_join, List.flatMap_map, blockText]
    congr 1
    funext d
    simp [Declaration.toCss]
  rw [toCss, String.toList_join, List.flatMap_map, writtenClasses, List.flatMap_map]
  congr 1
  funext entry
  simp [entryText, hblock]

/-! ### What is read of it -/

section Block

variable {declarations : List Declaration} (h : ∀ d ∈ declarations, d.WellFormed)

include h

private theorem list_blockText : Declaration.list (blockText declarations) = declarations := by
  induction declarations with
  | nil => decide
  | cons d declarations ih =>
    obtain ⟨hd, h⟩ := List.forall_mem_cons.1 h
    have hparts : blockText (d :: declarations) =
        d.property.toList ++ ':' :: d.value.toList ++ ';' :: blockText declarations := by simp [blockText]
    have hsemicolon : ';' ∉ d.property.toList ++ ':' :: d.value.toList := by
      have := hd.property.not_mem ';' (by simp)
      have := hd.value.not_mem ';' (by simp)
      simp_all
    have hread : Declaration.ofText? (d.property.toList ++ ':' :: d.value.toList) = some d := by
      rw [Declaration.ofText?, List.splitOn_append_cons_self_of_not_mem (hd.property.not_mem ':' (by simp)),
        List.splitOn_eq_singleton (hd.value.not_mem ':' (by simp))]
      simp [hd.property.trim_eq, hd.value.trim_eq, hd.property_ne]
    have ih := ih h
    rw [Declaration.list] at ih ⊢
    rw [hparts, List.splitOn_append_cons_self_of_not_mem hsemicolon, List.filterMap_cons, hread, ih]

private theorem brace_not_mem_blockText : '\x7d' ∉ blockText declarations := by
  intro hmem
  rw [blockText, List.mem_flatMap] at hmem
  obtain ⟨d, hd, hmem⟩ := hmem
  have := (h d hd).property.not_mem '\x7d' (by simp)
  have := (h d hd).value.not_mem '\x7d' (by simp)
  simp_all

/-- Between the words stand characters that no comment reaches over. -/
private theorem not_infix_blockText : ¬ ['/', '*'] <:+: blockText declarations := by
  induction declarations with
  | nil => decide
  | cons d declarations ih =>
    obtain ⟨hd, h⟩ := List.forall_mem_cons.1 h
    have hparts : blockText (d :: declarations) =
        d.property.toList ++ ':' :: (d.value.toList ++ ';' :: blockText declarations) := by simp [blockText]
    rw [hparts, pair_infix_append_cons_iff (by decide) (by decide),
      pair_infix_append_cons_iff (by decide) (by decide)]
    simp [hd.property.no_comment, hd.value.no_comment, ih h]

end Block

section Entries

variable {entries : List (String × List Declaration)} (hname : ∀ entry ∈ entries, IsName entry.1.toList)
  (hdeclarations : ∀ entry ∈ entries, ∀ d ∈ entry.2, d.WellFormed)

include hname hdeclarations

private theorem not_infix_entries : ¬ ['/', '*'] <:+: entries.flatMap entryText := by
  induction entries with
  | nil => decide
  | cons entry entries ih =>
    obtain ⟨hname, hnames⟩ := List.forall_mem_cons.1 hname
    obtain ⟨hblock, hdeclarations⟩ := List.forall_mem_cons.1 hdeclarations
    have hslash : ¬ ['/', '*'] <:+: entry.1.toList := fun hpart =>
      absurd (hname.2 '/' (hpart.subset (by simp))) (by decide)
    have hparts : (entry :: entries).flatMap entryText =
        [] ++ '.' :: (entry.1.toList ++ '\x7b' :: (blockText entry.2 ++ '\x7d' :: entries.flatMap entryText)) := by
      simp [entryText]
    have hnil : ¬ ['/', '*'] <:+: [] := by decide
    rw [hparts]
    iterate 3 rw [pair_infix_append_cons_iff (by decide) (by decide)]
    simp only [hnil, hslash, not_infix_blockText hblock, ih hnames hdeclarations, or_false, not_false_eq_true]

/-- Classes that are written one after the other are read as one rule each. -/
theorem scan_entries : Rule.scan (entries.flatMap entryText) = entries.map fun entry => ⟨[entry.1], entry.2⟩ := by
  induction entries with
  | nil => exact Rule.scan_of_not_mem (by simp)
  | cons entry entries ih =>
    obtain ⟨hname, hnames⟩ := List.forall_mem_cons.1 hname
    obtain ⟨hblock, hdeclarations⟩ := List.forall_mem_cons.1 hdeclarations
    have hlist : ClassList IsGap [entry.1] ('.' :: entry.1.toList) := by
      have hsingle : ClassList IsGap [String.ofList entry.1.toList] ('.' :: entry.1.toList) := .single hname
      rwa [String.ofList_toList] at hsingle
    have hread : trailing ('.' :: entry.1.toList) = '.' :: entry.1.toList := by
      have hlast := sealed_nil.trailing_list hlist (List.forall_mem_nil _)
      simpa using hlast
    have hparts : (entry :: entries).flatMap entryText = '.' :: entry.1.toList ++
        '\x7b' :: (blockText entry.2 ++ '\x7d' :: entries.flatMap entryText) := by simp [entryText]
    rw [hparts, Rule.scan_rule (brace_not_mem_of_classList hlist).1 (by rw [hread]; simp)
      (brace_not_mem_blockText hblock), hread, classNames_classList hlist, list_blockText hblock,
      ih hnames hdeclarations, List.map_cons]

theorem withoutComments_entries : withoutComments (entries.flatMap entryText) = entries.flatMap entryText := by
  have hend : ∀ c ∈ ([] : List Char).head?, c ≠ '*' := by simp
  have hkept := withoutComments_append (not_infix_entries hname hdeclarations) hend
  rwa [withoutComments_nil, List.append_nil] at hkept

end Entries

/-! ### What it is merged into -/

private theorem foldl_declare_of_pairwise {old new : List Declaration}
    (h : (old ++ new).Pairwise fun d e => d.property ≠ e.property) : new.foldl declare old = old ++ new := by
  induction new generalizing old with
  | nil => exact (List.append_nil old).symm
  | cons d new ih =>
    have hold : declare old d = old ++ [d] := by
      have hne : ∀ e ∈ old, e.property ≠ d.property := fun e he => (List.pairwise_append.1 h).2.2 e he d (by simp)
      rw [declare, List.filter_eq_self.2 (by simpa using hne)]
    rw [List.foldl_cons, hold, ih (by simpa using h), List.append_assoc, List.singleton_append]

private theorem update_new {change : List Declaration → List Declaration} {name : String}
    {classes : List (String × List Declaration)} (h : name ∉ classes.map (·.1)) :
    update change name classes = classes ++ [(name, change [])] := by
  induction classes with
  | nil => rfl
  | cons entry classes ih =>
    rw [List.map_cons, List.mem_cons, not_or] at h
    rw [update, if_neg (Ne.symm h.1), ih h.2, List.cons_append]

private theorem foldl_add_entries {old entries : List (String × List Declaration)}
    (hnames : ((old ++ entries).map (·.1)).Nodup)
    (hproperties : ∀ entry ∈ entries, entry.2.Pairwise fun d e => d.property ≠ e.property) :
    (entries.map fun entry => (⟨[entry.1], entry.2⟩ : Rule)).foldl add ⟨old⟩ =
      ⟨old ++ entries.filter (·.2 ≠ [])⟩ := by
  induction entries generalizing old with
  | nil => simp
  | cons entry entries ih =>
    obtain ⟨hentry, hproperties⟩ := List.forall_mem_cons.1 hproperties
    rw [List.map_cons, List.foldl_cons]
    by_cases hnil : entry.2 = []
    · -- a class without declarations is not kept
      have hadd : add ⟨old⟩ ⟨[entry.1], entry.2⟩ = ⟨old⟩ := by simp [add, hnil]
      have hsublist : ((old ++ entries).map (·.1)).Sublist ((old ++ entry :: entries).map (·.1)) :=
        ((List.sublist_cons_self entry entries).append_left old).map _
      rw [hadd, ih (hsublist.nodup hnames) hproperties]
      simp [hnil]
    · have hnew : entry.1 ∉ old.map (·.1) := by
        rw [List.map_append, List.map_cons, List.nodup_append] at hnames
        exact fun hmem => hnames.2.2 _ hmem _ List.mem_cons_self rfl
      have hadd : add ⟨old⟩ ⟨[entry.1], entry.2⟩ = ⟨old ++ [entry]⟩ := by
        have hkept : entry.2.foldl declare [] = entry.2 := foldl_declare_of_pairwise (by simpa using hentry)
        simp [add, hnil, update_new hnew, hkept]
      rw [hadd, ih (by simpa using hnames) hproperties]
      simp [hnil]

/-- Classes with distinct names and distinct properties are merged into themselves. -/
theorem ofRules_entries {entries : List (String × List Declaration)} (hnames : (entries.map (·.1)).Nodup)
    (hproperties : ∀ entry ∈ entries, entry.2.Pairwise fun d e => d.property ≠ e.property) :
    ofRules (entries.map fun entry => ⟨[entry.1], entry.2⟩) = ⟨entries.filter (·.2 ≠ [])⟩ := by
  have hmerged := @foldl_add_entries [] entries hnames hproperties
  rwa [List.nil_append] at hmerged

/-! ### Stylesheets -/

theorem isWritten_iff {name : String} {d : Declaration} :
    isWritten name d = true ↔ name = baseClass → d.property.toLower ∉ ["background", "background-color"] := by
  simp [isWritten, isBackground, imp_iff_not_or]

private theorem classes_withoutBaseBackground {sheet : Stylesheet} (h : sheet.WellFormed) :
    sheet.writtenClasses.filter (·.2 ≠ []) = sheet.withoutBaseBackground.classes := by
  rw [writtenClasses, withoutBaseBackground, ← List.filterMap_eq_filter, List.filterMap_map]
  refine List.filterMap_congr fun (name, declarations) hentry => ?_
  simp only [Function.comp_apply, Option.guard, remaining?]
  by_cases hname : name = baseClass
  · have hothers : declarations.filter (isWritten name) = withoutBackgrounds declarations := by
      refine List.filter_congr fun d _ => ?_
      rw [Bool.eq_iff_iff, isWritten_iff, decide_eq_true_iff]
      exact forall_prop_of_true hname
    rw [if_pos hname, hothers]
    by_cases hnil : withoutBackgrounds declarations = [] <;> simp [hnil]
  · have hall : declarations.filter (isWritten name) = declarations :=
      List.filter_eq_self.2 fun d _ => isWritten_iff.2 fun heq => absurd heq hname
    have hne : declarations ≠ [] := h.declarations_ne _ hentry
    simp [hname, hall, hne]

/-- A stylesheet that was read from a text is read back without the background of its base class, and otherwise as it
is. -/
theorem ofText_toCss {sheet : Stylesheet} (h : sheet.WellFormed) :
    ofText sheet.toCss = sheet.withoutBaseBackground := by
  have hname : ∀ entry ∈ sheet.writtenClasses, IsName entry.1.toList := by
    intro _ hwritten
    obtain ⟨entry, hentry, rfl⟩ := List.mem_map.1 hwritten
    exact h.name entry hentry
  have hdeclarations : ∀ entry ∈ sheet.writtenClasses, ∀ d ∈ entry.2, d.WellFormed := by
    intro _ hwritten d hd
    obtain ⟨entry, hentry, rfl⟩ := List.mem_map.1 hwritten
    exact h.declarations entry hentry d (List.mem_of_mem_filter hd)
  have hproperties : ∀ entry ∈ sheet.writtenClasses, entry.2.Pairwise fun d e => d.property ≠ e.property := by
    intro _ hwritten
    obtain ⟨entry, hentry, rfl⟩ := List.mem_map.1 hwritten
    exact (h.properties_ne entry hentry).filter _
  have hnames : (sheet.writtenClasses.map (·.1)).Nodup := by
    rw [writtenClasses, List.map_map]
    exact h.names_nodup
  rw [ofText, toList_toCss, withoutComments_entries hname hdeclarations, scan_entries hname hdeclarations,
    ofRules_entries hnames hproperties, classes_withoutBaseBackground h]

end StyledCode.Stylesheet
