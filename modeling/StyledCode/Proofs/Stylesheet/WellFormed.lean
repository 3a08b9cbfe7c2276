import StyledCode.Proofs.Stylesheet.Written

/-!
# Well-formed stylesheets

Whatever a text is, the stylesheet read from it has distinct classes, each with at least one declaration, and the
words of these declarations hold nothing that would end them, and begin no comment.

* `not_infix_withoutComments` : nothing joins to a comment where comments are removed
* `Declaration.WellFormed`, `Rule.WellFormed`, `WellFormed` : declarations, rules and stylesheets that can be read
* `Rule.wellFormed_of_mem_scan` : the rules of any text
* `wellFormed_ofText` : the stylesheet of any text
-/

namespace StyledCode

open Selector Stylesheet Text

/-! ### Words -/

namespace Text

theorem trim_infix_self (text : List Char) : trim text <:+: text := by
  have hfront : trim text <+: text.dropWhile isBlank := List.rdropWhile_prefix isBlank _
  exact hfront.isInfix.trans (List.dropWhile_suffix isBlank).isInfix

theorem trim_trim (text : List Char) : trim (trim text) = trim text := by
  have htrim : ∀ text, trim text = (text.dropWhile isBlank).rdropWhile isBlank := fun _ => rfl
  have hhead : (trim text).dropWhile isBlank = trim text := by
    -- what the first character of the trimmed text is, it was before its end was trimmed
    rw [List.dropWhile_eq_self_iff]
    intro hlt
    have hfront : trim text <+: text.dropWhile isBlank := List.rdropWhile_prefix isBlank _
    have hne : text.dropWhile isBlank ≠ [] := by
      intro hnil
      rw [hnil, List.prefix_nil] at hfront
      simp [hfront] at hlt
    rw [hfront.getElem hlt, ← List.head_eq_getElem hne, List.head_dropWhile_not isBlank hne]
    decide
  rw [htrim (trim text), hhead, htrim, List.rdropWhile_idempotent]

theorem mem_splitOn {c : Char} {text piece : List Char} (h : piece ∈ text.splitOn c) :
    c ∉ piece ∧ piece <:+: text := by
  by_cases hc : c ∈ text
  · obtain ⟨front, rest, rfl, hfront⟩ := List.eq_append_cons_of_mem hc
    rw [List.splitOn_append_cons_self_of_not_mem hfront, List.mem_cons] at h
    rcases h with rfl | h
    · exact ⟨hfront, (List.prefix_append _ _).isInfix⟩
    · have hlt : rest.length < (front ++ c :: rest).length := by simp; omega
      obtain ⟨hpiece, hpart⟩ := mem_splitOn h
      exact ⟨hpiece, hpart.trans ⟨front ++ [c], [], by simp⟩⟩
  · rw [List.splitOn_eq_singleton hc, List.mem_singleton] at h
    subst h
    exact ⟨hc, List.infix_rfl⟩
termination_by text.length

end Text

/-! ### Comments -/

/-- A pair of characters does not reach over a third one. -/
theorem Text.pair_infix_append_cons_iff {p q c : Char} (hp : c ≠ p) (hq : c ≠ q) {front rest : List Char} :
    [p, q] <:+: front ++ c :: rest ↔ [p, q] <:+: front ∨ [p, q] <:+: rest := by
  induction front with
  | nil => simp [List.infix_cons_iff, List.cons_prefix_cons, Ne.symm hp]
  | cons d front ih =>
    have hfront : [p, q] <+: d :: (front ++ c :: rest) ↔ [p, q] <+: d :: front := by
      cases front with
      | nil => simp [List.cons_prefix_cons, Ne.symm hq]
      | cons e front => simp [List.cons_prefix_cons]
    rw [List.cons_append, List.infix_cons_iff, ih, hfront, List.infix_cons_iff, or_assoc]

namespace Stylesheet

theorem not_infix_withoutComments (text : List Char) : ¬ ['/', '*'] <:+: withoutComments text := by
  fun_induction withoutComments text with
  | case1 text h => simpa using cut?_eq_none_iff.1 h
  | case2 text before inside h h' =>
    rw [pair_infix_append_cons_iff (by decide) (by decide), not_or]
    exact ⟨(cut?_id_iff.1 h).not_infix_before (by simp), by decide⟩
  | case3 text before inside h content after h' _ ih =>
    rw [pair_infix_append_cons_iff (by decide) (by decide), not_or]
    exact ⟨(cut?_id_iff.1 h).not_infix_before (by simp), ih⟩

/-- A word of a declaration: nothing in it ends it or begins a comment, and no white space stands around it. -/
structure IsWord (text : List Char) : Prop extends Plain [';', ':', '\x7d'] text where
  trim_eq : trim text = text

end Stylesheet

structure Declaration.WellFormed (d : Declaration) : Prop where
  property : IsWord d.property.toList
  value : IsWord d.value.toList
  property_ne : d.property.toList ≠ []

structure Rule.WellFormed (rule : Rule) : Prop where
  classes : ∀ name ∈ rule.classes, IsName name.toList
  declarations : ∀ d ∈ rule.declarations, d.WellFormed

/-- A stylesheet whose classes and properties are distinct, each class with declarations that can be read. -/
structure Stylesheet.WellFormed (sheet : Stylesheet) : Prop where
  names_nodup : (sheet.classes.map (·.1)).Nodup
  name : ∀ entry ∈ sheet.classes, IsName entry.1.toList
  declarations_ne : ∀ entry ∈ sheet.classes, entry.2 ≠ []
  properties_ne : ∀ entry ∈ sheet.classes, entry.2.Pairwise fun d e => d.property ≠ e.property
  declarations : ∀ entry ∈ sheet.classes, ∀ d ∈ entry.2, d.WellFormed

/-! ### Rules -/

private theorem isWord_trim {text piece : List Char} (hpiece : piece <:+: text) (hcolon : ':' ∉ piece)
    (htext : Plain [';', '\x7d'] text) : IsWord (trim piece) := by
  have hpart := (trim_infix_self piece).trans hpiece
  refine ⟨⟨fun c hc => ?_, fun h => htext.no_comment (h.trans hpart)⟩, trim_trim piece⟩
  by_cases hmark : c = ':'
  · rw [hmark]
    exact fun h => hcolon ((trim_infix_self piece).subset h)
  · have hmarks : c ∈ [';', '\x7d'] := by
      simp only [List.mem_cons, List.not_mem_nil, or_false] at hc ⊢
      tauto
    exact fun h => htext.not_mem c hmarks (hpart.subset h)

private theorem wellFormed_of_ofText? {text : List Char} {d : Declaration} (h : Declaration.ofText? text = some d)
    (htext : Plain [';', '\x7d'] text) : d.WellFormed := by
  unfold Declaration.ofText? at h
  split at h
  · rename_i property value hsplit
    obtain ⟨hcolon, hproperty⟩ := mem_splitOn (hsplit ▸ List.mem_cons_self : property ∈ text.splitOn ':')
    obtain ⟨hcolon', hvalue⟩ :=
      mem_splitOn (hsplit ▸ List.mem_cons_of_mem _ List.mem_cons_self : value ∈ text.splitOn ':')
    simp only at h
    split at h
    · contradiction
    · rename_i hne
      obtain rfl := Option.some.inj h
      have hproperty := isWord_trim hproperty hcolon htext
      have hvalue := isWord_trim hvalue hcolon' htext
      refine ⟨?_, ?_, ?_⟩ <;> rw [String.toList_ofList]
      · exact hproperty
      · exact hvalue
      · simpa using hne
  · contradiction

private theorem wellFormed_of_mem_list {block : List Char} (hbrace : '\x7d' ∉ block)
    (hcomment : ¬ ['/', '*'] <:+: block) : ∀ d ∈ Declaration.list block, d.WellFormed := by
  intro d hd
  rw [Declaration.list, List.mem_filterMap] at hd
  obtain ⟨piece, hpiece, hd⟩ := hd
  obtain ⟨hsemicolon, hpart⟩ := mem_splitOn hpiece
  refine wellFormed_of_ofText? hd ⟨fun c hc => ?_, fun h => hcomment (h.trans hpart)⟩
  simp only [List.mem_cons, List.not_mem_nil, or_false] at hc
  rcases hc with rfl | rfl
  · exact hsemicolon
  · exact fun h => hbrace (hpart.subset h)

/-- The rules that are found in any text without comments are well-formed. -/
theorem Rule.wellFormed_of_mem_scan {text : List Char} (h : ¬ ['/', '*'] <:+: text) :
    ∀ rule ∈ Rule.scan text, rule.WellFormed := by
  induction text using scan_induction with
  | plain text htext =>
    rw [scan_of_not_mem htext]
    exact List.forall_mem_nil _
  | skip front rest hfront hnil ih =>
    have hrest : rest <:+: front ++ '\x7b' :: rest := ⟨front ++ ['\x7b'], [], by simp⟩
    rw [scan_skip hfront hnil]
    exact ih fun hpart => h (hpart.trans hrest)
  | rule front block rest hfront hne hblock ih =>
    have hinside : block <:+: front ++ '\x7b' :: (block ++ '\x7d' :: rest) :=
      ⟨front ++ ['\x7b'], '\x7d' :: rest, by simp⟩
    have hrest : rest <:+: front ++ '\x7b' :: (block ++ '\x7d' :: rest) :=
      ⟨front ++ '\x7b' :: (block ++ ['\x7d']), [], by simp⟩
    obtain ⟨names, hnames⟩ := (classList_trailing front).resolve_left hne
    rw [scan_rule hfront hne hblock, List.forall_mem_cons, classNames_classList hnames]
    refine ⟨⟨hnames.isName, ?_⟩, ih fun hpart => h (hpart.trans hrest)⟩
    exact wellFormed_of_mem_list hblock fun hpart => h (hpart.trans hinside)
  | unclosed front block hfront hne hblock =>
    rw [scan_unclosed hfront hne hblock]
    exact List.forall_mem_nil _

/-! ### Merged rules -/

namespace Stylesheet

private theorem mem_madeFor {name : String} {made : List (String × Declaration)} {d : Declaration} :
    d ∈ madeFor name made ↔ (name, d) ∈ made := by
  simp [madeFor]

private theorem lastOfEach_ne_nil {declarations : List Declaration} (h : declarations ≠ []) :
    Declaration.lastOfEach declarations ≠ [] := by
  induction declarations with
  | nil => exact absurd rfl h
  | cons d declarations ih =>
    rw [lastOfEach_cons]
    split
    · exact List.cons_ne_nil _ _
    · rename_i hlater
      refine ih ?_
      rintro rfl
      exact hlater (List.forall_mem_nil _)

/-- Well-formed rules are merged into a well-formed stylesheet. -/
theorem wellFormed_ofRules {rules : List Rule} (h : ∀ rule ∈ rules, rule.WellFormed) : (ofRules rules).WellFormed := by
  have hclasses := classes_ofRules rules
  generalize hmade : rules.flatMap Rule.made = made at hclasses
  have hparts : ∀ entry ∈ made, IsName entry.1.toList ∧ entry.2.WellFormed := by
    rintro ⟨name, d⟩ hentry
    rw [← hmade, List.mem_flatMap] at hentry
    obtain ⟨rule, hrule, hentry⟩ := hentry
    simp only [Rule.made, List.mem_flatMap, List.mem_map, Prod.mk.injEq] at hentry
    obtain ⟨name, hname, d, hd, rfl, rfl⟩ := hentry
    exact ⟨(h rule hrule).classes name hname, (h rule hrule).declarations d hd⟩
  have hentries : ∀ entry ∈ (ofRules rules).classes,
      (∃ d, (entry.1, d) ∈ made) ∧ entry.2 = Declaration.lastOfEach (madeFor entry.1 made) := by
    intro entry hentry
    rw [hclasses, merged, List.mem_map] at hentry
    obtain ⟨name, hname, rfl⟩ := hentry
    rw [List.mem_eraseDups, List.mem_map] at hname
    obtain ⟨⟨name, d⟩, hd, rfl⟩ := hname
    exact ⟨⟨d, hd⟩, rfl⟩
  refine ⟨?_, ?_, ?_, ?_, ?_⟩
  · rw [hclasses, merged, List.map_map]
    have hnames : ((·.1) ∘ fun name => (name, Declaration.lastOfEach (madeFor name made))) = id := rfl
    rw [hnames, List.map_id]
    exact nodup_eraseDups _
  · intro entry hentry
    obtain ⟨⟨d, hd⟩, -⟩ := hentries entry hentry
    exact (hparts _ hd).1
  · intro entry hentry
    obtain ⟨⟨d, hd⟩, heq⟩ := hentries entry hentry
    rw [heq]
    exact lastOfEach_ne_nil (List.ne_nil_of_mem (mem_madeFor.2 hd))
  · intro entry hentry
    rw [(hentries entry hentry).2]
    exact List.pairwise_pwFilter _
  · intro entry hentry d hd
    rw [(hentries entry hentry).2] at hd
    exact (hparts _ (mem_madeFor.1 ((List.pwFilter_sublist _).subset hd))).2

/-- Whatever a text is, the stylesheet read from it is well-formed. -/
theorem wellFormed_ofText (source : String) : (ofText source).WellFormed :=
  wellFormed_ofRules (Rule.wellFormed_of_mem_scan (not_infix_withoutComments _))

end Stylesheet

end StyledCode
