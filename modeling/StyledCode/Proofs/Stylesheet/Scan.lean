import StyledCode.Proofs.Stylesheet.Selector
import StyledCode.Stylesheet.Rule

/-!
# Scanning for rules

What stands in front of a block is all that was not consumed by the rule before, so it may begin with the end of an
earlier block.  No class list reaches into that.

* `Rule.scan_of_not_mem`, `Rule.scan_skip`, `Rule.scan_rule`, `Rule.scan_unclosed` : the steps of the scan
* `Rule.scan_induction` : the induction along these steps
* `Rule.scan_append_of_not_mem` : the end of a text that has no brace is not read
* `Sealed` : texts that no class list behind them reaches into
* `Sealed.trailing_list`, `Sealed.trailing_front` : what is read behind such a text
-/

namespace StyledCode

open Selector Text

/-! ### The steps of the scan -/

namespace Rule

private theorem cut_at {mark : Char} {front : List Char} (h : mark ∉ front) (rest : List Char) :
    (front ++ mark :: rest).takeWhile (· != mark) = front ∧
      (front ++ mark :: rest).dropWhile (· != mark) = mark :: rest :=
  span_append (fun c hc => bne_iff_ne.2 fun heq => h (heq ▸ hc)) (by simp)

theorem scan_of_not_mem {text : List Char} (h : '\x7b' ∉ text) : scan text = [] := by
  have hall : text.dropWhile (· != '\x7b') = [] :=
    List.dropWhile_eq_nil_iff.2 fun c hc => bne_iff_ne.2 fun heq => h (heq ▸ hc)
  rw [scan]
  split <;> simp_all

/-- A brace without a class list before it does not consume its block. -/
theorem scan_skip {front : List Char} (hfront : '\x7b' ∉ front) (h : trailing front = []) (rest : List Char) :
    scan (front ++ '\x7b' :: rest) = scan rest := by
  obtain ⟨htake, hdrop⟩ := cut_at hfront rest
  rw [scan]
  split
  · simp_all
  · rename_i hopen
    obtain ⟨-, rfl⟩ := List.cons.inj (hdrop.symm.trans hopen)
    rw [htake, h]

/-- A class list gets the declarations of the block behind it. -/
theorem scan_rule {front block : List Char} (hfront : '\x7b' ∉ front) (h : trailing front ≠ [])
    (hblock : '\x7d' ∉ block) (rest : List Char) :
    scan (front ++ '\x7b' :: (block ++ '\x7d' :: rest)) =
      ⟨classNames (trailing front), Declaration.list block⟩ :: scan rest := by
  obtain ⟨htake, hdrop⟩ := cut_at hfront (block ++ '\x7d' :: rest)
  obtain ⟨hinside, hafter⟩ := cut_at hblock rest
  rw [scan]
  split
  · simp_all
  · rename_i hopen
    obtain ⟨-, rfl⟩ := List.cons.inj (hdrop.symm.trans hopen)
    rw [htake]
    split
    · contradiction
    · split
      · simp_all
      · rename_i hclose
        obtain ⟨-, rfl⟩ := List.cons.inj (hafter.symm.trans hclose)
        rw [hinside]

/-- A block that never ends stops the scan. -/
theorem scan_unclosed {front block : List Char} (hfront : '\x7b' ∉ front) (h : trailing front ≠ [])
    (hblock : '\x7d' ∉ block) : scan (front ++ '\x7b' :: block) = [] := by
  obtain ⟨htake, hdrop⟩ := cut_at hfront block
  have hall : block.dropWhile (· != '\x7d') = [] :=
    List.dropWhile_eq_nil_iff.2 fun c hc => bne_iff_ne.2 fun heq => hblock (heq ▸ hc)
  rw [scan]
  split
  · rfl
  · rename_i hopen
    obtain ⟨-, rfl⟩ := List.cons.inj (hdrop.symm.trans hopen)
    rw [htake]
    split
    · contradiction
    · split
      · rfl
      · simp_all

/-- The scan goes from one opening brace to the next, or to what follows the block of a class list. -/
@[elab_as_elim]
theorem scan_induction {motive : List Char → Prop} (plain : ∀ text, '\x7b' ∉ text → motive text)
    (skip : ∀ front rest, '\x7b' ∉ front → trailing front = [] → motive rest → motive (front ++ '\x7b' :: rest))
    (rule : ∀ front block rest, '\x7b' ∉ front → trailing front ≠ [] → '\x7d' ∉ block → motive rest →
      motive (front ++ '\x7b' :: (block ++ '\x7d' :: rest)))
    (unclosed : ∀ front block, '\x7b' ∉ front → trailing front ≠ [] → '\x7d' ∉ block →
      motive (front ++ '\x7b' :: block))
    (text : List Char) : motive text := by
  by_cases hopen : '\x7b' ∈ text
  · obtain ⟨front, block, rfl, hfront⟩ := List.eq_append_cons_of_mem hopen
    have hlt : block.length < (front ++ '\x7b' :: block).length := by
      rw [List.length_append, List.length_cons]
      omega
    by_cases hnil : trailing front = []
    · exact skip front block hfront hnil (scan_induction plain skip rule unclosed block)
    · by_cases hclose : '\x7d' ∈ block
      · obtain ⟨inside, rest, rfl, hinside⟩ := List.eq_append_cons_of_mem hclose
        have hlt' : rest.length < (inside ++ '\x7d' :: rest).length := by
          rw [List.length_append, List.length_cons]
          omega
        exact rule front inside rest hfront hnil hinside (scan_induction plain skip rule unclosed rest)
      · exact unclosed front block hfront hnil hclose
  · exact plain text hopen
termination_by text.length

/-- What stands at the end of a text gives no rule if it has no brace. -/
theorem scan_append_of_not_mem {back : List Char} (hopen : '\x7b' ∉ back) (hclose : '\x7d' ∉ back)
    (text : List Char) : scan (text ++ back) = scan text := by
  induction text using scan_induction with
  | plain text htext =>
    have hnone : '\x7b' ∉ text ++ back := fun h => (List.mem_append.1 h).elim htext hopen
    rw [scan_of_not_mem hnone, scan_of_not_mem htext]
  | skip front rest hfront hnil ih =>
    rw [List.append_assoc, List.cons_append, scan_skip hfront hnil, scan_skip hfront hnil, ih]
  | rule front block rest hfront hne hblock ih =>
    rw [List.append_assoc, List.cons_append, List.append_assoc, List.cons_append, scan_rule hfront hne hblock,
      scan_rule hfront hne hblock, ih]
  | unclosed front block hfront hne hblock =>
    have hnone : '\x7d' ∉ block ++ back := fun h => (List.mem_append.1 h).elim hblock hclose
    rw [List.append_assoc, List.cons_append, scan_unclosed hfront hne hnone, scan_unclosed hfront hne hblock]

end Rule

namespace Selector

/-! ### What no class list reaches into -/

/-- A text without opening braces, in which a closing brace follows every dot. -/
def Sealed (text : List Char) : Prop :=
  '\x7b' ∉ text ∧ ∀ rest, '.' :: rest <:+ text → '\x7d' ∈ rest

theorem sealed_nil : Sealed [] :=
  ⟨List.not_mem_nil, fun _ h => absurd (List.suffix_nil.1 h) (List.cons_ne_nil _ _)⟩

private theorem suffix_concat_of_dot {c : Char} (hc : c ≠ '.') {text rest : List Char}
    (h : '.' :: rest <:+ text ++ [c]) :
    ∃ before, rest = before ++ [c] ∧ '.' :: before <:+ text := by
  rcases List.suffix_concat_iff.1 h with hnil | ⟨before, heq, hsuffix⟩
  · exact absurd hnil (List.cons_ne_nil _ _)
  · cases before with
    | nil => exact absurd (List.cons.inj heq).1.symm hc
    | cons d before =>
      obtain ⟨rfl, rfl⟩ := List.cons.inj heq
      exact ⟨before, rfl, hsuffix⟩

theorem sealed_append_brace {text : List Char} (h : '\x7b' ∉ text) : Sealed (text ++ ['\x7d']) := by
  refine ⟨by simpa using h, fun rest hrest => ?_⟩
  obtain ⟨before, rfl, -⟩ := suffix_concat_of_dot (by decide) hrest
  exact List.mem_append_right _ List.mem_cons_self

theorem Sealed.append_blanks {text blanks : List Char} (h : Sealed text) (hblanks : ∀ c ∈ blanks, isBlank c = true) :
    Sealed (text ++ blanks) := by
  induction blanks generalizing text with
  | nil => rwa [List.append_nil]
  | cons c blanks ih =>
    obtain ⟨hc, hblanks⟩ := List.forall_mem_cons.1 hblanks
    rw [← List.singleton_append, ← List.append_assoc]
    refine ih ⟨?_, fun rest hrest => ?_⟩ hblanks
    · rw [List.mem_append, List.mem_singleton, not_or]
      refine ⟨h.1, ?_⟩
      rintro rfl
      exact absurd hc (by decide)
    · have hdot : c ≠ '.' := by
        rintro rfl
        exact absurd hc (by decide)
      obtain ⟨before, rfl, hbefore⟩ := suffix_concat_of_dot hdot hrest
      exact List.mem_append_left _ (h.2 before hbefore)

private theorem mem_classList {names : List String} {list : List Char} (h : ClassList IsGap names list) :
    ∀ c ∈ list, c = '.' ∨ isNameChar c = true ∨ isSeparator c = true := by
  induction h with
  | single hname => exact List.forall_mem_cons.2 ⟨.inl rfl, fun c hc => .inr (.inl (hname.2 c hc))⟩
  | snoc _ hgap hname ih =>
    intro c hc
    rw [List.mem_append, List.mem_append, List.mem_cons] at hc
    rcases hc with hc | hc | rfl | hc
    · exact ih c hc
    · exact .inr (.inr (hgap.2 c hc))
    · exact .inl rfl
    · exact .inr (.inl (hname.2 c hc))

theorem brace_not_mem_of_classList {names : List String} {list : List Char} (h : ClassList IsGap names list) :
    '\x7b' ∉ list ∧ '\x7d' ∉ list :=
  ⟨fun hc => absurd (mem_classList h _ hc) (by decide), fun hc => absurd (mem_classList h _ hc) (by decide)⟩

/-- A class list behind a sealed text is read, and nothing more. -/
theorem Sealed.trailing_list {text list spaces : List Char} {names : List String} (h : Sealed text)
    (hlist : ClassList IsGap names list) (hspaces : ∀ c ∈ spaces, isSpace c = true) :
    trailing (text ++ (list ++ spaces)) = list := by
  obtain ⟨before, hbefore, heq⟩ := trailing_append_list hlist hspaces text
  cases before with
  | nil => exact heq
  | cons c before =>
    rcases classList_trailing (text ++ (list ++ spaces)) with hnil | ⟨names', hread⟩
    · rw [heq] at hnil
      exact absurd hnil (List.cons_ne_nil _ _)
    · -- a longer list would reach over the closing brace behind its first dot
      rw [heq] at hread
      obtain ⟨rest, hdot⟩ := hread.head
      obtain ⟨rfl, -⟩ := List.cons.inj hdot
      have hbrace := h.2 before hbefore
      exact absurd (List.mem_cons_of_mem _ (List.mem_append_left _ hbrace)) (brace_not_mem_of_classList hread).2

private theorem not_isBlank_of_isNameChar {c : Char} (h : isNameChar c = true) : ¬ isBlank c = true := by
  rw [isNameChar, Bool.or_eq_true, Bool.or_eq_true, beq_iff_eq, beq_iff_eq] at h
  rcases h with (h | rfl) | rfl
  · have hbounds : 48 ≤ c.toNat ∧ c.toNat ≤ 122 := by
      have h : (decide (c.val ≥ 65 ∧ c.val ≤ 90) || (c.val ≥ 97 && c.val ≤ 122) ||
          (c.val ≥ 48 && c.val ≤ 57)) = true := h
      simp only [Bool.or_eq_true, Bool.and_eq_true, decide_eq_true_eq] at h
      rcases h with (h | h) | h <;> exact ⟨Nat.le_trans (by decide) h.1, Nat.le_trans h.2 (by decide)⟩
    simp only [isBlank, Bool.or_eq_true, Bool.and_eq_true, decide_eq_true_eq, beq_iff_eq]
    omega
  · decide
  · decide

private theorem endsInClass_of_append_blanks {text blanks : List Char} (hblanks : ∀ c ∈ blanks, isBlank c = true)
    (h : EndsInClass (text ++ blanks)) : EndsInClass text := by
  induction blanks generalizing text with
  | nil => rwa [List.append_nil] at h
  | cons c blanks ih =>
    obtain ⟨hc, hblanks⟩ := List.forall_mem_cons.1 hblanks
    rw [← List.singleton_append, ← List.append_assoc] at h
    obtain ⟨front, name, spaces, heq, hname, hspaces⟩ := ih hblanks h
    rcases List.eq_nil_or_concat' spaces with rfl | ⟨spaces, d, rfl⟩
    · obtain ⟨before, d, rfl⟩ := (List.eq_nil_or_concat' name).resolve_left hname.1
      have hlast : text ++ [c] = front ++ '.' :: before ++ [d] := by simpa using heq
      obtain ⟨-, rfl⟩ := List.append_singleton_inj.1 hlast
      exact absurd hc (not_isBlank_of_isNameChar (hname.2 c (by simp)))
    · have hlast : text ++ [c] = front ++ '.' :: (name ++ spaces) ++ [d] := by simpa using heq
      obtain ⟨rfl, -⟩ := List.append_singleton_inj.1 hlast
      exact ⟨front, name, spaces, rfl, hname, fun c hc => hspaces c (List.mem_append_left _ hc)⟩

private theorem Sealed.endsInClass_append {text front : List Char} (h : Sealed text)
    (hends : EndsInClass (text ++ front)) : EndsInClass front := by
  obtain ⟨before, name, spaces, heq, hname, hspaces⟩ := hends
  rcases List.append_eq_append_iff.1 heq with ⟨more, rfl, hfront⟩ | ⟨more, rfl, hfront⟩
  · exact ⟨more, name, spaces, hfront, hname, hspaces⟩
  · cases more with
    | nil => exact ⟨[], name, spaces, hfront.symm, hname, hspaces⟩
    | cons c more =>
      -- the dotted name would begin in the sealed text, and reach over the closing brace behind its dot
      obtain ⟨rfl, hrest⟩ := List.cons.inj hfront
      have hbrace : '\x7d' ∈ name ++ spaces := by
        rw [hrest]
        exact List.mem_append_left _ (h.2 more (List.suffix_append _ _))
      rcases List.mem_append.1 hbrace with hbrace | hbrace
      · exact absurd (hname.2 _ hbrace) (by decide)
      · exact absurd (hspaces _ hbrace) (by decide)

/-- Behind a sealed text, what does not end in a dotted name is no class list. -/
theorem Sealed.trailing_front {text front blanks : List Char} (h : Sealed text) (hfront : ¬ EndsInClass front)
    (hblanks : ∀ c ∈ blanks, isBlank c = true) : trailing (text ++ (front ++ blanks)) = [] := by
  rw [trailing_eq_nil_iff]
  exact fun hends => hfront (endsInClass_of_append_blanks hblanks (h.endsInClass_append hends))

end Selector

end StyledCode
