import StyledCode.Proofs.Stylesheet.Offsets

/-!
# The longest class list at the end of a text

The walk back from a brace goes over the bytes of one class after another.  Where it stops, the longest class list
in front of the brace begins.

* `Longest` : the longest class list at the end of a text
* `Longest.unique`, `longest_iff` : there is at most one, and it is what is read
* `trailing?_longest` : what the walk over the bytes finds, and the classes in it
-/

namespace StyledCode.Selector

open Text

/-- A class list at the end of a text of which every other one there is an end. -/
structure Longest (text : List Char) (names : List String) (list : List Char) : Prop where
  isList : ClassList IsGap names list
  suffix : list <:+ text
  longest : ∀ names' list', ClassList IsGap names' list' → list' <:+ text → list' <:+ list

theorem Longest.unique {text list list' : List Char} {names names' : List String} (h : Longest text names list)
    (h' : Longest text names' list') : names = names' ∧ list = list' := by
  have hle := h.longest names' list' h'.isList h'.suffix
  have hge := h'.longest names list h.isList h.suffix
  have heq : list = list' := hge.eq_of_length_le hle.length_le
  subst heq
  exact ⟨(classNames_classList h.isList).symm.trans (classNames_classList h'.isList), rfl⟩

private theorem exists_list_iff {text : List Char} :
    (∃ names list, ClassList IsGap names list ∧ list <:+ text.rdropWhile isSpace) ↔ trailing text ≠ [] := by
  constructor
  · rintro ⟨names, list, hlist, hsuffix⟩ hnil
    have hread := suffix_trailing hlist hsuffix
    rw [hnil, List.suffix_nil] at hread
    obtain ⟨rest, hhead⟩ := hlist.head
    exact absurd (hhead.symm.trans hread) (List.cons_ne_nil _ _)
  · intro hne
    obtain ⟨names, hlist⟩ := (classList_trailing text).resolve_left hne
    exact ⟨names, _, hlist, trailing_suffix text⟩

/-- What is read is the longest class list, once white space at the end of the text is dropped. -/
theorem longest_iff {text list : List Char} :
    (∃ names, Longest (text.rdropWhile isSpace) names list) ↔ trailing text = list ∧ list ≠ [] := by
  have hread : trailing text ≠ [] → ∃ names, Longest (text.rdropWhile isSpace) names (trailing text) := by
    intro hne
    obtain ⟨names, hlist⟩ := (classList_trailing text).resolve_left hne
    exact ⟨names, hlist, trailing_suffix text, fun _ _ => suffix_trailing⟩
  constructor
  · rintro ⟨names, hlongest⟩
    have hne := exists_list_iff.1 ⟨names, list, hlongest.isList, hlongest.suffix⟩
    obtain ⟨names', hlongest'⟩ := hread hne
    obtain ⟨-, rfl⟩ := hlongest'.unique hlongest
    exact ⟨rfl, hne⟩
  · rintro ⟨rfl, hne⟩
    exact hread hne

/-- Whatever a text is, the walk back over its bytes ends, with every byte in its place.  It finds a class list if one
stands at the end of the text, white space left aside, and then the longest one; between the separators of that one
stand its classes, each behind one dot. -/
theorem trailing?_longest (text : String) :
    let bare := text.toList.rdropWhile isSpace
    ∃ found : Option String, trailing? text = some found ∧ found.elim [] String.toList = trailing text.toList ∧
      (found.isSome ↔ ∃ names list, ClassList IsGap names list ∧ list <:+ bare) ∧
      (∀ s : String, found = some s ↔ ∃ names, Longest bare names s.toList) ∧
      ∀ (s : String) (names : List String), Longest bare names s.toList →
        (s.toList.splitOnP isSeparator).filter (fun item => !item.isEmpty) =
            names.map (fun name => '.' :: name.toList) ∧
          classNames s.toList = names := by
  intro bare
  refine ⟨_, trailing?_eq text, ?_, ?_, ?_, ?_⟩
  · split
    · rename_i hnil
      exact hnil.symm
    · exact String.toList_ofList
  · rw [exists_list_iff]
    split <;> simp_all
  · intro s
    rw [longest_iff]
    split
    · rename_i hnil
      simp only [reduceCtorEq, hnil, false_iff, not_and, not_not]
      exact Eq.symm
    · rename_i hne
      rw [Option.some.injEq]
      constructor
      · rintro rfl
        rw [String.toList_ofList]
        exact ⟨rfl, hne⟩
      · rintro ⟨heq, -⟩
        rw [heq, String.ofList_toList]
  · intro s names hlongest
    exact ⟨items_classList hlongest.isList, classNames_classList hlongest.isList⟩

/-- Two classes without a gap, a second dot and a character that is not of ASCII end the list; a comma behind it leaves
none. -/
example : trailing ".a.b, .c \t".toList = ".b, .c".toList ∧ trailing ".a..b".toList = ".b".toList ∧
    trailing ".aé .b".toList = ".b".toList ∧ trailing ".a ,".toList = [] := by decide +kernel

end StyledCode.Selector
