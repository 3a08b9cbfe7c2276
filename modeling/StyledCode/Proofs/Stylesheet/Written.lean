import StyledCode.Proofs.Stylesheet.Comment
import StyledCode.Proofs.Stylesheet.Merge
import StyledCode.Proofs.Stylesheet.Scan

/-!
# Stylesheets as they are written

A stylesheet is a sequence of rules for lists of classes, of blocks that belong to no class, and of blocks around
such a sequence, with white space and comments where they may stand.  It is read as the rules in it, however deep
they are nested.

* `Gap` : characters of a kind and comments
* `Block` : the block of a rule, with its declarations
* `Written` : a stylesheet, with its rules
* `Written.scan_eq` : the rules of a stylesheet are found, and no others
* `classes_of_written` : a stylesheet is read as what its rules are merged into
-/

namespace StyledCode.Stylesheet

open Selector Text

/-- Characters of a kind and comments, in any order and number. -/
inductive Gap (kind : Char → Bool) : List Char → Prop
  | nil : Gap kind []
  | char {c : Char} {rest : List Char} : kind c = true → Gap kind rest → Gap kind (c :: rest)
  | comment {content rest : List Char} : ¬ ['*', '/'] <:+: content → Gap kind rest →
      Gap kind ('/' :: '*' :: (content ++ '*' :: '/' :: rest))

/-- A text without some characters, in which no comment begins. -/
structure Plain (without text : List Char) : Prop where
  not_mem : ∀ c ∈ without, c ∉ text
  no_comment : ¬ ['/', '*'] <:+: text

/-- A property or a value of a declaration, with white space and comments around it. -/
inductive Padded (word : List Char) : List Char → Prop
  | intro {front back : List Char} : Gap isBlank front → Plain [';', ':', '\x7b', '\x7d'] word → Gap isBlank back →
      Padded word (front ++ (word ++ back))

/-- What stands between two semicolons: nothing, or a declaration. -/
inductive Piece : List Declaration → List Char → Prop
  | blank {gap : List Char} : Gap isBlank gap → Piece [] gap
  | declaration {property value front back : List Char} :
      Padded property front → trim property ≠ [] → Padded value back →
        Piece [⟨String.ofList (trim property), String.ofList (trim value)⟩] (front ++ ':' :: back)

/-- The block of a rule: declarations with semicolons between them. -/
inductive Block : List Declaration → List Char → Prop
  | last {declarations : List Declaration} {text : List Char} : Piece declarations text → Block declarations text
  | cons {declarations others : List Declaration} {text rest : List Char} :
      Piece declarations text → Block others rest → Block (declarations ++ others) (text ++ ';' :: rest)

/-- Separators and comments, at least one of them. -/
def Separators (gap : List Char) : Prop := gap ≠ [] ∧ Gap isSeparator gap

/-- What may stand in front of a block that belongs to no class. -/
structure Front (text : List Char) : Prop where
  plain : Plain ['\x7b', '\x7d'] text
  no_class : ¬ EndsInClass text

/-- A stylesheet with its rules. -/
inductive Written : List Rule → List Char → Prop
  | nil : Written [] []
  | gap {rules : List Rule} {gap text : List Char} : Gap isBlank gap → Written rules text → Written rules (gap ++ text)
  | rule {classes : List String} {declarations : List Declaration} {rules : List Rule}
      {list gap block text : List Char} :
      ClassList Separators classes list → Gap isSpace gap → Block declarations block → Written rules text →
        Written (⟨classes, declarations⟩ :: rules) (list ++ (gap ++ '\x7b' :: (block ++ '\x7d' :: text)))
  | skipped {rules : List Rule} {front gap block text : List Char} :
      Front front → Gap isBlank gap → Plain ['\x7b', '\x7d'] block → Written rules text →
        Written rules (front ++ (gap ++ '\x7b' :: (block ++ '\x7d' :: text)))
  | nested {inner rules : List Rule} {front gap block text : List Char} :
      Front front → Gap isBlank gap → Written inner block → Written rules text →
        Written (inner ++ rules) (front ++ (gap ++ '\x7b' :: (block ++ '\x7d' :: text)))

/-! ### Without comments -/

section Gap

variable {kind : Char → Bool} {gap : List Char}

/-- A gap is characters of its kind once its comments are spaces. -/
theorem Gap.without_eq (h : Gap kind gap) (hslash : kind '/' = false) (hspace : kind ' ' = true) :
    ∃ bare, (∀ c ∈ bare, kind c = true) ∧ (gap ≠ [] → bare ≠ []) ∧
      ∀ rest, withoutComments (gap ++ rest) = bare ++ withoutComments rest := by
  induction h with
  | nil => exact ⟨[], List.forall_mem_nil _, id, fun _ => rfl⟩
  | @char c text hc _ ih =>
    obtain ⟨bare, hbare, -, heq⟩ := ih
    refine ⟨c :: bare, List.forall_mem_cons.2 ⟨hc, hbare⟩, fun _ => List.cons_ne_nil _ _, fun rest => ?_⟩
    have hne : c ≠ '/' := by
      rintro rfl
      exact absurd hc (by rw [hslash]; decide)
    rw [List.cons_append, withoutComments_cons_of_ne hne, heq, List.cons_append]
  | @comment content text hcontent _ ih =>
    obtain ⟨bare, hbare, -, heq⟩ := ih
    refine ⟨' ' :: bare, List.forall_mem_cons.2 ⟨hspace, hbare⟩, fun _ => List.cons_ne_nil _ _, fun rest => ?_⟩
    rw [List.cons_append, List.cons_append, List.append_assoc, List.cons_append, List.cons_append,
      withoutComments_comment hcontent, heq, List.cons_append]

/-- A gap does not go on a comment that the text in front of it might begin. -/
theorem Gap.head_ne (h : Gap kind gap) (hstar : kind '*' = false) {rest : List Char}
    (hrest : ∀ c ∈ rest.head?, c ≠ '*') : ∀ c ∈ (gap ++ rest).head?, c ≠ '*' := by
  cases h with
  | nil => exact hrest
  | char hc _ =>
    intro c heq
    obtain rfl := Option.some.inj heq
    rintro rfl
    exact absurd hc (by rw [hstar]; decide)
  | comment _ _ =>
    intro c heq
    obtain rfl := Option.some.inj heq
    decide

end Gap

private theorem trim_append {front back : List Char} (hfront : ∀ c ∈ front, isBlank c = true)
    (hback : ∀ c ∈ back, isBlank c = true) (word : List Char) : trim (front ++ (word ++ back)) = trim word := by
  rw [trim, trim, List.dropWhile_append_of_pos hfront, List.dropWhile_append]
  split
  · rename_i hnil
    rw [List.isEmpty_iff.1 hnil, List.dropWhile_eq_nil_iff.2 hback]
  · rw [List.reverse_append, List.dropWhile_append_of_pos fun c hc => hback c (List.mem_reverse.1 hc)]

private theorem not_mem_of_isBlank {c : Char} {bare : List Char} (h : ∀ d ∈ bare, isBlank d = true)
    (hc : isBlank c = false) : c ∉ bare :=
  fun hmem => absurd (h c hmem) (by rw [hc]; decide)

/-- A word keeps what it is when it is trimmed. -/
theorem Padded.without_eq {word text : List Char} (h : Padded word text) :
    ∃ bare, trim bare = trim word ∧ (∀ c ∈ [';', ':', '\x7b', '\x7d'], c ∉ bare) ∧
      ∀ rest, (∀ c ∈ rest.head?, c ≠ '*') → withoutComments (text ++ rest) = bare ++ withoutComments rest := by
  obtain ⟨hfront, hword, hback⟩ := h
  obtain ⟨before, hbefore, -, hbeforeEq⟩ := hfront.without_eq rfl rfl
  obtain ⟨after, hafter, -, hafterEq⟩ := hback.without_eq rfl rfl
  refine ⟨before ++ (word ++ after), trim_append hbefore hafter word, fun c hc => ?_, fun rest hrest => ?_⟩
  · have hblank : isBlank c = false := by
      simp only [List.mem_cons, List.not_mem_nil, or_false] at hc
      rcases hc with rfl | rfl | rfl | rfl <;> decide
    rw [List.mem_append, List.mem_append, not_or, not_or]
    exact ⟨not_mem_of_isBlank hbefore hblank, hword.not_mem c hc, not_mem_of_isBlank hafter hblank⟩
  · rw [List.append_assoc, List.append_assoc, hbeforeEq,
      withoutComments_append hword.no_comment (hback.head_ne rfl hrest), hafterEq, List.append_assoc,
      List.append_assoc]

theorem Piece.without_eq {declarations : List Declaration} {text : List Char} (h : Piece declarations text) :
    ∃ bare, (Declaration.ofText? bare).toList = declarations ∧ (∀ c ∈ [';', '\x7b', '\x7d'], c ∉ bare) ∧
      ∀ rest, (∀ c ∈ rest.head?, c ≠ '*') → withoutComments (text ++ rest) = bare ++ withoutComments rest := by
  cases h with
  | blank hgap =>
    obtain ⟨bare, hbare, -, heq⟩ := hgap.without_eq rfl rfl
    refine ⟨bare, ?_, fun c hc => not_mem_of_isBlank hbare ?_, fun rest _ => heq rest⟩
    · rw [Declaration.ofText?, List.splitOn_eq_singleton (not_mem_of_isBlank hbare (by decide))]
      rfl
    · simp only [List.mem_cons, List.not_mem_nil, or_false] at hc
      rcases hc with rfl | rfl | rfl <;> decide
  | @declaration property value front back hproperty hne hvalue =>
    obtain ⟨before, hbefore, hbeforeMarks, hbeforeEq⟩ := hproperty.without_eq
    obtain ⟨after, hafter, hafterMarks, hafterEq⟩ := hvalue.without_eq
    refine ⟨before ++ ':' :: after, ?_, fun c hc => ?_, fun rest hrest => ?_⟩
    · rw [Declaration.ofText?, List.splitOn_append_cons_self_of_not_mem (hbeforeMarks ':' (by simp)),
        List.splitOn_eq_singleton (hafterMarks ':' (by simp))]
      simp [hbefore, hafter, hne]
    · have hcolon : c ≠ ':' := by
        rintro rfl
        exact absurd hc (by decide)
      have hmarks : c ∈ [';', ':', '\x7b', '\x7d'] := by
        simp only [List.mem_cons, List.not_mem_nil, or_false] at hc ⊢
        tauto
      rw [List.mem_append, List.mem_cons, not_or, not_or]
      exact ⟨hbeforeMarks c hmarks, hcolon, hafterMarks c hmarks⟩
    · rw [List.append_assoc, List.cons_append, hbeforeEq _ (by simp), withoutComments_cons_of_ne (by decide),
        hafterEq rest hrest, List.append_assoc, List.cons_append]

theorem Block.without_eq {declarations : List Declaration} {text : List Char} (h : Block declarations text) :
    ∃ bare, Declaration.list bare = declarations ∧ '\x7d' ∉ bare ∧
      ∀ rest, (∀ c ∈ rest.head?, c ≠ '*') → withoutComments (text ++ rest) = bare ++ withoutComments rest := by
  induction h with
  | last hpiece =>
    obtain ⟨bare, hbare, hmarks, heq⟩ := hpiece.without_eq
    refine ⟨bare, ?_, hmarks _ (by simp), heq⟩
    rw [Declaration.list, List.splitOn_eq_singleton (hmarks ';' (by simp)), List.filterMap_eq_flatMap_toList,
      List.flatMap_singleton, hbare]
  | @cons declarations others text rest hpiece _ ih =>
    obtain ⟨bare, hbare, hmarks, heq⟩ := hpiece.without_eq
    obtain ⟨more, hmore, hbrace, hmoreEq⟩ := ih
    refine ⟨bare ++ ';' :: more, ?_, ?_, fun rest hrest => ?_⟩
    · rw [Declaration.list, List.splitOn_append_cons_self_of_not_mem (hmarks ';' (by simp)),
        List.filterMap_eq_flatMap_toList, List.flatMap_cons, hbare, ← List.filterMap_eq_flatMap_toList, ← hmore,
        Declaration.list]
    · rw [List.mem_append, List.mem_cons, not_or, not_or]
      exact ⟨hmarks _ (by simp), by decide, hbrace⟩
    · rw [List.append_assoc, List.cons_append, heq _ (by simp), withoutComments_cons_of_ne (by decide),
        hmoreEq rest hrest, List.append_assoc, List.cons_append]

private theorem withoutComments_name {name : List Char} (h : IsName name) (rest : List Char) :
    withoutComments ('.' :: (name ++ rest)) = '.' :: (name ++ withoutComments rest) := by
  obtain ⟨-, hchars⟩ := h
  rw [withoutComments_cons_of_ne (by decide)]
  induction name with
  | nil => rfl
  | cons c name ih =>
    obtain ⟨hc, hchars⟩ := List.forall_mem_cons.1 hchars
    have hne : c ≠ '/' := by
      rintro rfl
      exact absurd hc (by decide)
    rw [List.cons_append, withoutComments_cons_of_ne hne, List.cons_append, (List.cons.inj (ih hchars)).2]

/-- A class list has nothing but separators between its names once its comments are spaces. -/
theorem classList_without_eq {classes : List String} {list : List Char} (h : ClassList Separators classes list) :
    ∃ bare, ClassList IsGap classes bare ∧
      ∀ rest, withoutComments (list ++ rest) = bare ++ withoutComments rest := by
  induction h with
  | @single name hname => exact ⟨'.' :: name, .single hname, withoutComments_name hname⟩
  | @snoc names front gap name _ hgap hname ih =>
    obtain ⟨list, hlist, hlistEq⟩ := ih
    obtain ⟨bare, hbare, hne, hgapEq⟩ := hgap.2.without_eq rfl rfl
    refine ⟨list ++ (bare ++ '.' :: name), .snoc hlist ⟨hne hgap.1, hbare⟩ hname, fun rest => ?_⟩
    rw [List.append_assoc, List.append_assoc, hlistEq, hgapEq, List.cons_append, withoutComments_name hname,
      List.append_assoc, List.append_assoc, List.cons_append]

/-! ### The rules that are found -/

private theorem Front.without_eq {front gap : List Char} (hfront : Front front) (hgap : Gap isBlank gap) :
    ∃ bare, (∀ c ∈ bare, isBlank c = true) ∧ ∀ rest,
      withoutComments (front ++ (gap ++ '\x7b' :: rest)) = front ++ (bare ++ '\x7b' :: withoutComments rest) := by
  obtain ⟨bare, hbare, -, heq⟩ := hgap.without_eq rfl rfl
  refine ⟨bare, hbare, fun rest => ?_⟩
  rw [withoutComments_append hfront.plain.no_comment (hgap.head_ne rfl (by simp)), heq,
    withoutComments_cons_of_ne (by decide)]

private theorem scan_front {before front blanks : List Char} (hbefore : Sealed before) (hfront : Front front)
    (hblanks : ∀ c ∈ blanks, isBlank c = true) (rest : List Char) :
    Rule.scan (before ++ (front ++ (blanks ++ '\x7b' :: rest))) = Rule.scan rest := by
  have hopen : '\x7b' ∉ before ++ (front ++ blanks) := by
    rw [List.mem_append, List.mem_append, not_or, not_or]
    exact ⟨hbefore.1, hfront.plain.not_mem _ (by simp), not_mem_of_isBlank hblanks (by decide)⟩
  have hscan := Rule.scan_skip hopen (hbefore.trailing_front hfront.no_class hblanks) rest
  simpa using hscan

private theorem scan_list {before list spaces block : List Char} {classes : List String} (hbefore : Sealed before)
    (hlist : ClassList IsGap classes list) (hspaces : ∀ c ∈ spaces, isSpace c = true) (hblock : '\x7d' ∉ block)
    (rest : List Char) :
    Rule.scan (before ++ (list ++ (spaces ++ '\x7b' :: (block ++ '\x7d' :: rest)))) =
      ⟨classes, Declaration.list block⟩ :: Rule.scan rest := by
  have hread := hbefore.trailing_list hlist hspaces
  have hopen : '\x7b' ∉ before ++ (list ++ spaces) := by
    rw [List.mem_append, List.mem_append, not_or, not_or]
    exact ⟨hbefore.1, (brace_not_mem_of_classList hlist).1,
      not_mem_of_isBlank (fun c hc => isBlank_of_isSpace (hspaces c hc)) (by decide)⟩
  have hne : trailing (before ++ (list ++ spaces)) ≠ [] := by
    obtain ⟨rest, hhead⟩ := hlist.head
    rw [hread, hhead]
    exact List.cons_ne_nil _ _
  have hscan := Rule.scan_rule hopen hne hblock rest
  rw [hread, classNames_classList hlist] at hscan
  simpa using hscan

/-- Whatever is written behind a sealed text is found as its rules, and what is left of it is a sealed text again. -/
theorem Written.scan_append {rules : List Rule} {text : List Char} (h : Written rules text) {before : List Char}
    (hbefore : Sealed before) :
    ∃ after, Sealed after ∧ ∀ rest,
      Rule.scan (before ++ withoutComments (text ++ rest)) = rules ++ Rule.scan (after ++ withoutComments rest) := by
  induction h generalizing before with
  | nil => exact ⟨before, hbefore, fun _ => rfl⟩
  | @gap rules gap text hgap _ ih =>
    obtain ⟨bare, hbare, -, heq⟩ := hgap.without_eq rfl rfl
    obtain ⟨after, hafter, hscan⟩ := ih (hbefore.append_blanks hbare)
    refine ⟨after, hafter, fun rest => ?_⟩
    rw [List.append_assoc, heq, ← List.append_assoc, hscan]
  | @rule classes declarations rules list gap block text hclasses hgap hblock _ ih =>
    obtain ⟨bareList, hlist, hlistEq⟩ := classList_without_eq hclasses
    obtain ⟨spaces, hspaces, -, hgapEq⟩ := hgap.without_eq rfl rfl
    obtain ⟨inside, rfl, hbrace, hblockEq⟩ := hblock.without_eq
    -- the rule is consumed with its block
    obtain ⟨after, hafter, hscan⟩ := ih sealed_nil
    refine ⟨after, hafter, fun rest => ?_⟩
    simp only [List.append_assoc, List.cons_append]
    rw [hlistEq, hgapEq, withoutComments_cons_of_ne (by decide), hblockEq _ (by simp),
      withoutComments_cons_of_ne (by decide), scan_list hbefore hlist hspaces hbrace, ← hscan]
    rfl
  | @skipped rules front gap block text hfront hgap hblock _ ih =>
    obtain ⟨blanks, hblanks, hopenEq⟩ := hfront.without_eq hgap
    -- the block stays in front of what follows, with its closing brace
    obtain ⟨after, hafter, hscan⟩ := ih (sealed_append_brace (hblock.not_mem _ (by simp)))
    refine ⟨after, hafter, fun rest => ?_⟩
    simp only [List.append_assoc, List.cons_append]
    rw [hopenEq, scan_front hbefore hfront hblanks, withoutComments_append hblock.no_comment (by simp),
      withoutComments_cons_of_ne (by decide), ← hscan, List.append_assoc, List.singleton_append]
  | @nested inner rules front gap block text hfront hgap _ _ ihinner ih =>
    obtain ⟨blanks, hblanks, hopenEq⟩ := hfront.without_eq hgap
    -- so does what the scan leaves of the items in the block
    obtain ⟨middle, hmiddle, hinner⟩ := ihinner sealed_nil
    obtain ⟨after, hafter, hscan⟩ := ih (sealed_append_brace hmiddle.1)
    refine ⟨after, hafter, fun rest => ?_⟩
    have hinner := hinner ('\x7d' :: (text ++ rest))
    rw [List.nil_append] at hinner
    simp only [List.append_assoc, List.cons_append]
    rw [hopenEq, scan_front hbefore hfront hblanks, hinner, withoutComments_cons_of_ne (by decide), ← hscan,
      List.append_assoc, List.singleton_append]

/-- The rules of a stylesheet are found in their order, and no others. -/
theorem Written.scan_eq {rules : List Rule} {text : List Char} (h : Written rules text) :
    Rule.scan (withoutComments text) = rules := by
  obtain ⟨after, hafter, hscan⟩ := h.scan_append sealed_nil
  have hscan := hscan []
  rwa [withoutComments_nil, List.append_nil, List.append_nil, Rule.scan_of_not_mem hafter.1, List.append_nil] at hscan

/-- A stylesheet is read as what its rules are merged into, in their order and at any depth. -/
theorem classes_of_written {source : String} {rules : List Rule} (h : Written rules source.toList) :
    (ofText source).classes = merged (rules.flatMap Rule.made) := by
  rw [ofText, h.scan_eq, classes_ofRules]

/-- Comments hold marks of every other kind, a property is declared again in a nested rule, and a block of no class
follows that rule. -/
theorem classes_of_written_nested :
    let source := "/*.x\x7b*/.a,/*\x7d*/.b \x7bc: d;e:f;\x7d@m a:b\x7b.a\x7bc/*;*/:g\x7dp\x7bq:r\x7d\x7d"
    let rules : List Rule := [⟨["a", "b"], [⟨"c", "d"⟩, ⟨"e", "f"⟩]⟩, ⟨["a"], [⟨"c", "g"⟩]⟩]
    Written rules source.toList ∧
      (ofText source).classes = [("a", [⟨"e", "f"⟩, ⟨"c", "g"⟩]), ("b", [⟨"c", "d"⟩, ⟨"e", "f"⟩])] := by
  intro source rules
  have hname : ∀ c, isNameChar c = true → IsName [c] :=
    fun c hc => ⟨List.cons_ne_nil _ _, List.forall_mem_singleton.2 hc⟩
  have hplain : ∀ c, c ∉ [';', ':', '\x7b', '\x7d'] → Plain [';', ':', '\x7b', '\x7d'] [c] :=
    fun c hc => ⟨fun d hd hmem => hc (List.mem_singleton.1 hmem ▸ hd),
      fun h => absurd h.length_le (by decide : ¬ 2 ≤ 1)⟩
  have hword : ∀ c, c ∉ [';', ':', '\x7b', '\x7d'] → Padded [c] [c] := fun c hc => .intro .nil (hplain c hc) .nil
  have hgap : Separators [',', '/', '*', '\x7d', '*', '/'] :=
    ⟨List.cons_ne_nil _ _, .char rfl (.comment (by decide : ¬ ['*', '/'] <:+: ['\x7d']) .nil)⟩
  have hblock : Block [⟨"c", "d"⟩, ⟨"e", "f"⟩] ['c', ':', ' ', 'd', ';', 'e', ':', 'f', ';'] :=
    .cons (.declaration (hword 'c' (by decide)) (by decide) (.intro (.char rfl .nil) (hplain 'd' (by decide)) .nil))
      (.cons (.declaration (hword 'e' (by decide)) (by decide) (hword 'f' (by decide))) (.last (.blank .nil)))
  have hblock' : Block [⟨"c", "g"⟩] ['c', '/', '*', ';', '*', '/', ':', 'g'] :=
    .last (.declaration
      (.intro .nil (hplain 'c' (by decide)) (.comment (by decide : ¬ ['*', '/'] <:+: [';']) .nil)) (by decide)
      (hword 'g' (by decide)))
  have hfront : Front ['@', 'm', ' ', 'a', ':', 'b'] :=
    ⟨⟨by simp, by decide⟩, trailing_eq_nil_iff.1 (by rw [trailing, trailingFrom]; rfl)⟩
  have hfront' : Front ['p'] := ⟨⟨by simp, by decide⟩, trailing_eq_nil_iff.1 (by rw [trailing, trailingFrom]; rfl)⟩
  have hinner := Written.rule (.single (hname 'a' rfl)) .nil hblock'
    (.skipped hfront' .nil (⟨by simp, by decide⟩ : Plain ['\x7b', '\x7d'] ['q', ':', 'r']) .nil)
  have hwritten : Written rules source.toList := by
    have htext : source.toList = _ := String.toList_ofList
    rw [htext]
    exact .gap (.comment (by decide : ¬ ['*', '/'] <:+: ['.', 'x', '\x7b']) .nil)
      (.rule (.snoc (.single (hname 'a' rfl)) hgap (hname 'b' rfl)) (.char (rfl : isSpace ' ' = true) .nil) hblock
        (.nested hfront .nil hinner .nil))
  exact ⟨hwritten, (classes_of_written hwritten).trans (by decide)⟩

end StyledCode.Stylesheet
