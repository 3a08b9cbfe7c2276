import Mathlib.Data.List.DropRight
import StyledCode.Proofs.Text.Search
import StyledCode.Stylesheet.Selector

/-!
# Class lists

A class list is dotted names with separators between them.  What is read in front of a block, from its end, is the
longest class list there.

* `ClassList` : class lists, with their names, for gaps of any kind between the names
* `EndsInClass` : a dotted name at the end, with white space behind it at most
* `reversed_induction` : the induction from one class to the one in front of it
* `trailing_append_list`, `classList_trailing` : what is read is a class list, and every other one is a part of it
* `trailing_eq_nil_iff` : something is read where there is a dotted name at the end
* `trailing_suffix`, `suffix_trailing` : the same, said of the end of a text alone
* `items_classList`, `classNames_classList` : the names of a class list, with their dots and without
-/

namespace StyledCode.Selector

open Text

/-- The class names that a selector can give. -/
def IsName (name : List Char) : Prop := name ≠ [] ∧ ∀ c ∈ name, isNameChar c = true

/-- Separators between two classes. -/
def IsGap (gap : List Char) : Prop := gap ≠ [] ∧ ∀ c ∈ gap, isSeparator c = true

/-- Dotted names with gaps of a kind between them, together with the names. -/
inductive ClassList (isGap : List Char → Prop) : List String → List Char → Prop
  | single {name : List Char} : IsName name → ClassList isGap [String.ofList name] ('.' :: name)
  | snoc {names : List String} {front gap name : List Char} :
      ClassList isGap names front → isGap gap → IsName name →
        ClassList isGap (names ++ [String.ofList name]) (front ++ (gap ++ '.' :: name))

/-- A dotted name at the end of a text, with white space of ASCII behind it at most. -/
def EndsInClass (text : List Char) : Prop :=
  ∃ front name spaces, text = front ++ '.' :: (name ++ spaces) ∧ IsName name ∧ ∀ c ∈ spaces, isSpace c = true

/-! ### Kinds of characters -/

theorem isSeparator_of_isSpace {c : Char} (h : isSpace c = true) : isSeparator c = true := by
  rw [isSeparator, h, Bool.or_true]

theorem not_isSeparator_of_isNameChar {c : Char} (h : isNameChar c = true) : isSeparator c = false := by
  rw [Bool.eq_false_iff]
  intro hsep
  simp only [isSeparator, isSpace, Bool.or_eq_true, beq_iff_eq] at hsep
  rcases hsep with rfl | (((rfl | rfl) | rfl) | rfl) | rfl <;> exact absurd h (by decide)

theorem IsName.reverse {name : List Char} (h : IsName name) : IsName name.reverse :=
  ⟨mt List.reverse_eq_nil_iff.1 h.1, fun c hc => h.2 c (List.mem_reverse.1 hc)⟩

private theorem span_reverse {p : Char → Bool} {front gap : List Char} (hfront : ∀ c ∈ front.getLast?, p c = false)
    (hgap : ∀ c ∈ gap, p c = true) :
    (gap.reverse ++ front.reverse).takeWhile p = gap.reverse ∧
      (gap.reverse ++ front.reverse).dropWhile p = front.reverse :=
  span_append (fun c hc => hgap c (List.mem_reverse.1 hc)) (by rwa [List.head?_reverse])

/-! ### One class of the list -/

theorem trailingFrom_name {name : List Char} (h : IsName name) (found gap rest : List Char) :
    trailingFrom found gap (name ++ '.' :: rest) =
      if rest.takeWhile isSeparator = [] then '.' :: (name.reverse ++ (gap ++ found))
      else trailingFrom ('.' :: (name.reverse ++ (gap ++ found))) (rest.takeWhile isSeparator).reverse
        (rest.dropWhile isSeparator) := by
  have hdot : ∀ c ∈ ('.' :: rest).head?, isNameChar c = false := by
    intro c hc
    obtain rfl := Option.some.inj hc
    rfl
  obtain ⟨htake, hdrop⟩ := span_append h.2 hdot
  rw [trailingFrom]
  split
  · simp_all
  · rename_i dot rest' heq
    obtain ⟨rfl, rfl⟩ := List.cons.inj (hdrop.symm.trans heq)
    have hname : ¬ (name.isEmpty || '.' != '.') = true := by simpa using h.1
    rw [htake, if_neg hname]
    simp only [List.isEmpty_iff]

theorem trailingFrom_other {reversed : List Char}
    (h : ∀ name rest, IsName name → reversed ≠ name ++ '.' :: rest) (found gap : List Char) :
    trailingFrom found gap reversed = found := by
  rw [trailingFrom]
  split
  · rfl
  · rename_i dot rest heq
    split
    · rfl
    · rename_i hdot
      simp only [Bool.or_eq_true, List.isEmpty_iff, bne_iff_ne, ne_eq, not_or, Decidable.not_not] at hdot
      obtain ⟨hne, rfl⟩ := hdot
      have hspan := List.takeWhile_append_dropWhile (p := isNameChar) (l := reversed)
      rw [heq] at hspan
      exact absurd hspan.symm (h _ rest ⟨hne, fun c hc => (List.mem_takeWhile_imp hc)⟩)

/-- A text in reverse is read from one class to what stands in front of the separators before it. -/
@[elab_as_elim]
theorem reversed_induction {motive : List Char → Prop}
    (other : ∀ reversed, (∀ name rest, IsName name → reversed ≠ name ++ '.' :: rest) → motive reversed)
    (named : ∀ name rest, IsName name → motive (rest.dropWhile isSeparator) → motive (name ++ '.' :: rest))
    (reversed : List Char) : motive reversed := by
  by_cases h : ∃ name rest, IsName name ∧ reversed = name ++ '.' :: rest
  · obtain ⟨name, rest, hname, rfl⟩ := h
    have hlt : (rest.dropWhile isSeparator).length < (name ++ '.' :: rest).length := by
      have := (List.dropWhile_sublist (l := rest) isSeparator).length_le
      rw [List.length_append, List.length_cons]
      omega
    exact named name rest hname (reversed_induction other named _)
  · exact other reversed fun name rest hname heq => h ⟨name, rest, hname, heq⟩
termination_by reversed.length

/-- The part of a list that is already found stays behind what is found in front of it. -/
private theorem trailingFrom_found (found gap reversed : List Char) :
    trailingFrom found gap reversed =
      if trailingFrom [] [] reversed = [] then found else trailingFrom [] [] reversed ++ (gap ++ found) := by
  induction reversed using reversed_induction generalizing found gap with
  | other reversed h => rw [trailingFrom_other h, trailingFrom_other h, if_pos rfl]
  | named name rest hname ih =>
    rw [trailingFrom_name hname, trailingFrom_name hname]
    by_cases hgap : rest.takeWhile isSeparator = []
    · simp [hgap]
    · rw [if_neg hgap, if_neg hgap, ih, ih ('.' :: (name.reverse ++ ([] ++ [])))]
      split <;> simp

/-- The longest class list at the very end of a text. -/
def ending (text : List Char) : List Char := trailingFrom [] [] text.reverse

private theorem trailing_eq_ending (text : List Char) : trailing text = ending (text.rdropWhile isSpace) := by
  rw [ending, List.rdropWhile, List.reverse_reverse]
  rfl

/-- The last class, and what is read in front of the separators before it. -/
private theorem ending_name {front gap name : List Char} (hfront : ∀ c ∈ front.getLast?, isSeparator c = false)
    (hgap : ∀ c ∈ gap, isSeparator c = true) (hname : IsName name) :
    ending (front ++ (gap ++ '.' :: name)) =
      if gap = [] ∨ ending front = [] then '.' :: name else ending front ++ (gap ++ '.' :: name) := by
  have hspan := span_reverse hfront hgap
  have hrev : (front ++ (gap ++ '.' :: name)).reverse = name.reverse ++ '.' :: (gap.reverse ++ front.reverse) := by
    simp
  rw [ending, hrev, trailingFrom_name hname.reverse, hspan.1, hspan.2, trailingFrom_found]
  by_cases hnil : gap = []
  · simp [hnil]
  · simp [hnil, ending]

private theorem ending_cases (text : List Char) :
    ending text = [] ∨ ∃ front name, text = front ++ '.' :: name ∧ IsName name := by
  by_cases h : ∃ name rest, IsName name ∧ text.reverse = name ++ '.' :: rest
  · obtain ⟨name, rest, hname, heq⟩ := h
    exact .inr ⟨rest.reverse, name.reverse, by simpa using congrArg List.reverse heq, hname.reverse⟩
  · exact .inl (trailingFrom_other (fun name rest hname heq => h ⟨name, rest, hname, heq⟩) [] [])

private theorem separators_cases (text : List Char) :
    ∃ front gap, text = front ++ gap ∧ (∀ c ∈ front.getLast?, isSeparator c = false) ∧
      ∀ c ∈ gap, isSeparator c = true := by
  refine ⟨text.rdropWhile isSeparator, text.rtakeWhile isSeparator, (List.rdropWhile_append_rtakeWhile ..).symm,
    ?_, fun c => List.mem_rtakeWhile_imp⟩
  intro c hc
  obtain ⟨hne, rfl⟩ := List.mem_getLast?_eq_getLast hc
  simpa using List.rdropWhile_last_not isSeparator text hne

/-! ### The longest class list -/

theorem ClassList.endsInName {isGap : List Char → Prop} {names : List String} {text : List Char}
    (h : ClassList isGap names text) : ∃ front name, text = front ++ '.' :: name ∧ IsName name := by
  cases h with
  | single hname => exact ⟨[], _, rfl, hname⟩
  | snoc _ _ hname => exact ⟨_ ++ _, _, (List.append_assoc ..).symm, hname⟩

theorem ClassList.head {isGap : List Char → Prop} {names : List String} {text : List Char}
    (h : ClassList isGap names text) : ∃ rest, text = '.' :: rest := by
  induction h with
  | single => exact ⟨_, rfl⟩
  | snoc _ _ _ ih =>
    obtain ⟨rest, rfl⟩ := ih
    exact ⟨_, rfl⟩

theorem ClassList.isName {isGap : List Char → Prop} {names : List String} {text : List Char}
    (h : ClassList isGap names text) : ∀ name ∈ names, IsName name.toList := by
  induction h with
  | single hname => simpa using hname
  | snoc _ _ hname ih =>
    rw [List.forall_mem_append, List.forall_mem_singleton, String.toList_ofList]
    exact ⟨ih, hname⟩

private theorem getLast?_of_classList {isGap : List Char → Prop} {names : List String} {text : List Char}
    (h : ClassList isGap names text) (front : List Char) :
    ∀ c ∈ (front ++ text).getLast?, isSeparator c = false := by
  obtain ⟨before, name, rfl, hne, hname⟩ := h.endsInName
  intro c hc
  obtain ⟨name, d, rfl⟩ := (List.eq_nil_or_concat' name).resolve_left hne
  have heq : front ++ (before ++ '.' :: (name ++ [d])) = front ++ before ++ '.' :: name ++ [d] := by simp
  rw [heq, List.getLast?_concat, Option.mem_some_iff] at hc
  exact not_isSeparator_of_isNameChar (hname c (by simp [hc]))

private theorem ending_suffix (text : List Char) :
    ending text <:+ text ∧ (ending text = [] ∨ ∃ names, ClassList IsGap names (ending text)) := by
  rcases ending_cases text with hnil | ⟨before, name, rfl, hname⟩
  · exact ⟨hnil ▸ List.nil_suffix, .inl hnil⟩
  · -- what is read in front of the last class and its separators is read from a shorter text
    obtain ⟨front, gap, rfl, hfront, hgap⟩ := separators_cases before
    have : front.length < (front ++ gap ++ '.' :: name).length := by
      rw [List.length_append, List.length_append, List.length_cons]
      omega
    obtain ⟨hsuffix, hlist⟩ := ending_suffix front
    rw [List.append_assoc, ending_name hfront hgap hname]
    split
    · exact ⟨by rw [← List.append_assoc]; exact List.suffix_append _ _, .inr ⟨_, .single hname⟩⟩
    · rename_i hne
      rw [not_or] at hne
      obtain ⟨names, hlist⟩ := hlist.resolve_left hne.2
      exact ⟨List.suffix_append_self_iff.2 hsuffix, .inr ⟨_, .snoc hlist ⟨hne.1, hgap⟩ hname⟩⟩
termination_by text.length

private theorem suffix_ending {names : List String} {list : List Char} (h : ClassList IsGap names list)
    (before : List Char) : list <:+ ending (before ++ list) := by
  induction h generalizing before with
  | single hname =>
    obtain ⟨front, gap, rfl, hfront, hgap⟩ := separators_cases before
    rw [List.append_assoc, ending_name hfront hgap hname]
    split
    · exact List.suffix_rfl
    · rw [← List.append_assoc]
      exact List.suffix_append _ _
  | @snoc names front gap name hlist hgap hname ih =>
    have ih := ih before
    -- a class list stands in front of the separators, so something is read there
    have hne : ending (before ++ front) ≠ [] := by
      intro hnil
      obtain ⟨rest, rfl⟩ := hlist.head
      exact absurd (List.suffix_nil.1 (hnil ▸ ih)) (List.cons_ne_nil _ _)
    rw [← List.append_assoc before, ending_name (getLast?_of_classList hlist before) hgap.2 hname,
      if_neg (not_or.2 ⟨hgap.1, hne⟩)]
    exact List.suffix_append_self_iff.2 ih

/-! ### What stands in front of a block -/

private theorem trailing_append {text spaces : List Char} (hlast : ∀ c ∈ text.getLast?, isSpace c = false)
    (hspaces : ∀ c ∈ spaces, isSpace c = true) : trailing (text ++ spaces) = ending text := by
  rw [trailing, List.reverse_append, (span_reverse hlast hspaces).2, ending]

private theorem isSpace_eq_false {c : Char} (h : isSeparator c = false) : isSpace c = false := by
  rw [Bool.eq_false_iff] at h ⊢
  exact fun hspace => h (isSeparator_of_isSpace hspace)

/-- A class list at the end of a text is read, with more in front of it if that makes a longer class list. -/
theorem trailing_append_list {names : List String} {list spaces : List Char} (h : ClassList IsGap names list)
    (hspaces : ∀ c ∈ spaces, isSpace c = true) (front : List Char) :
    ∃ before, before <:+ front ∧ trailing (front ++ (list ++ spaces)) = before ++ list := by
  have heq : trailing (front ++ (list ++ spaces)) = ending (front ++ list) := by
    rw [← List.append_assoc]
    exact trailing_append (fun c hc => isSpace_eq_false (getLast?_of_classList h front c hc)) hspaces
  obtain ⟨before, hbefore⟩ := suffix_ending h front
  have hsuffix := (ending_suffix (front ++ list)).1
  rw [← hbefore, List.suffix_append_self_iff] at hsuffix
  exact ⟨before, hsuffix, heq.trans hbefore.symm⟩

theorem classList_trailing (text : List Char) :
    trailing text = [] ∨ ∃ names, ClassList IsGap names (trailing text) := by
  rw [trailing_eq_ending]
  exact (ending_suffix _).2

theorem trailing_suffix (text : List Char) : trailing text <:+ text.rdropWhile isSpace := by
  rw [trailing_eq_ending]
  exact (ending_suffix _).1

theorem suffix_trailing {names : List String} {list text : List Char} (h : ClassList IsGap names list)
    (hsuffix : list <:+ text.rdropWhile isSpace) : list <:+ trailing text := by
  obtain ⟨before, hbefore⟩ := hsuffix
  rw [trailing_eq_ending, ← hbefore]
  exact suffix_ending h before

theorem trailing_eq_nil_iff {text : List Char} : trailing text = [] ↔ ¬ EndsInClass text := by
  constructor
  · rintro hnil ⟨front, name, spaces, rfl, hname, hspaces⟩
    obtain ⟨before, -, heq⟩ := trailing_append_list (.single hname) hspaces front
    rw [List.cons_append, hnil] at heq
    exact List.append_ne_nil_of_right_ne_nil before (List.cons_ne_nil _ _) heq.symm
  · intro h
    rw [trailing_eq_ending]
    rcases ending_cases (text.rdropWhile isSpace) with hnil | ⟨front, name, heq, hname⟩
    · exact hnil
    · refine absurd ⟨front, name, text.rtakeWhile isSpace, ?_, hname, fun _ => List.mem_rtakeWhile_imp⟩ h
      rw [← List.cons_append, ← List.append_assoc, ← heq, List.rdropWhile_append_rtakeWhile]

/-! ### The names of a list -/

/-- What stands between the separators of a list, unless it is nothing. -/
def items (list : List Char) : List (List Char) :=
  (list.splitOnP isSeparator).filter fun item => !item.isEmpty

private theorem items_append_cons (front rest : List Char) {c : Char} (h : isSeparator c = true) :
    items (front ++ c :: rest) = items front ++ items rest := by
  rw [items, List.splitOnP_append_cons _ _ h, List.filter_append]
  rfl

private theorem items_dot {name : List Char} (h : IsName name) : items ('.' :: name) = ['.' :: name] := by
  have hsep : ∀ c ∈ '.' :: name, isSeparator c = false := by
    intro c hc
    rcases List.mem_cons.1 hc with rfl | hc
    · rfl
    · exact not_isSeparator_of_isNameChar (h.2 c hc)
  rw [items, List.splitOnP_eq_singleton hsep]
  rfl

private theorem items_gap {gap : List Char} (h : ∀ c ∈ gap, isSeparator c = true) (rest : List Char) :
    items (gap ++ rest) = items rest := by
  induction gap with
  | nil => rfl
  | cons c gap ih =>
    rw [List.forall_mem_cons] at h
    have := items_append_cons [] (gap ++ rest) h.1
    rwa [ih h.2] at this

theorem items_classList {names : List String} {list : List Char} (h : ClassList IsGap names list) :
    items list = names.map fun name => '.' :: name.toList := by
  induction h with
  | single hname => rw [items_dot hname, List.map_singleton, String.toList_ofList]
  | @snoc names front gap name hlist hgap hname ih =>
    obtain ⟨c, gap, rfl⟩ := List.exists_cons_of_ne_nil hgap.1
    have hall := List.forall_mem_cons.1 hgap.2
    rw [List.cons_append, items_append_cons _ _ hall.1, items_gap hall.2, items_dot hname, ih, List.map_append,
      List.map_singleton, String.toList_ofList]

private theorem dropWhile_dot {name : List Char} (h : IsName name) : ('.' :: name).dropWhile (· == '.') = name := by
  have hdot : ∀ c ∈ ['.'], (c == '.') = true := List.forall_mem_singleton.2 rfl
  have hname : ∀ c ∈ name.head?, (c == '.') = false := by
    intro c hc
    rw [beq_eq_false_iff_ne]
    rintro rfl
    exact absurd (h.2 '.' (List.mem_of_mem_head? hc)) (by decide)
  exact (span_append hdot hname).2

theorem classNames_classList {names : List String} {list : List Char} (h : ClassList IsGap names list) :
    classNames list = names := by
  have hitems : classNames list = (items list).map fun item => String.ofList (item.dropWhile (· == '.')) := rfl
  rw [hitems, items_classList h, List.map_map]
  refine (List.map_congr_left fun name hname => ?_).trans (List.map_id names)
  rw [Function.comp_apply, dropWhile_dot (h.isName name hname), String.ofList_toList]
  rfl

end StyledCode.Selector
