import Mathlib.Data.List.Infix
import StyledCode.Text.Search

/-!
# Occurrences of a pattern

What the search through a text finds, said of its characters alone.

* `begins_iff`, `behind?_eq_some_iff` : a pattern at the beginning of a text
* `span_append` : characters of a kind at the beginning of a text
* `FirstCut` : a text cut at the first occurrence of a pattern
* `firstCut_of_cut?`, `cut?_eq_none_iff`, `cut?_id_iff` : the search finds the first occurrence if there is one
* `firstCut_pair` : a text up to a pair of characters that it does not contain
* `Splits` : the pieces between the leftmost occurrences of a pattern
* `splits_splitAround`, `splitAround_eq_spans` : what `splitAround` finds, and where
-/

namespace StyledCode.Text

variable {α : Type} {glyph : α → Char} {pattern : List Char} {text : List α}

/-! ### A pattern at the beginning -/

theorem begins_iff : begins glyph pattern text = true ↔ pattern <+: text.map glyph := by
  induction pattern generalizing text with
  | nil => simp [begins]
  | cons p pattern ih =>
    cases text with
    | nil => simp [begins]
    | cons a text =>
      simp only [begins, Bool.and_eq_true, beq_iff_eq, ih, List.map_cons, List.cons_prefix_cons]

theorem behind?_eq_some_iff {rest : List α} :
    behind? glyph pattern text = some rest ↔ pattern <+: text.map glyph ∧ rest = text.drop pattern.length := by
  unfold behind?
  split
  · rename_i h
    simp only [Option.some.injEq, begins_iff.1 h, true_and]
    exact eq_comm
  · rename_i h
    have hp : ¬ pattern <+: text.map glyph := fun hp => h (begins_iff.2 hp)
    simp [hp]

theorem behind?_eq_none_iff : behind? glyph pattern text = none ↔ ¬ pattern <+: text.map glyph := by
  rw [← begins_iff]
  unfold behind?
  split <;> simp_all

/-- A text of plain characters behind a pattern. -/
theorem behind?_id_iff {text rest : List Char} : behind? id pattern text = some rest ↔ text = pattern ++ rest := by
  rw [behind?_eq_some_iff, List.map_id]
  constructor
  · rintro ⟨h, rfl⟩
    exact (List.prefix_iff_eq_append.1 h).symm
  · rintro rfl
    exact ⟨List.prefix_append _ _, List.drop_left.symm⟩

/-- A text that begins with characters of a kind and goes on with another one. -/
theorem span_append {p : α → Bool} {front rest : List α} (hfront : ∀ a ∈ front, p a = true)
    (hrest : ∀ a ∈ rest.head?, p a = false) :
    (front ++ rest).takeWhile p = front ∧ (front ++ rest).dropWhile p = rest := by
  rw [List.takeWhile_append_of_pos hfront, List.dropWhile_append_of_pos hfront]
  cases rest with
  | nil => simp
  | cons a rest =>
    have ha : p a = false := hrest a rfl
    simp [ha]

/-! ### The first occurrence -/

/-- A text is cut at the first occurrence of a pattern. -/
structure FirstCut (pattern text before after : List Char) : Prop where
  eq : text = before ++ pattern ++ after
  first : ∀ front back, text = front ++ pattern ++ back → before.length ≤ front.length

/-- There is only one first occurrence. -/
theorem FirstCut.unique {text before after before' after' : List Char} (h : FirstCut pattern text before after)
    (h' : FirstCut pattern text before' after') : before = before' ∧ after = after' := by
  have hlen : before.length = before'.length :=
    Nat.le_antisymm (h.first _ _ h'.eq) (h'.first _ _ h.eq)
  have heq : before ++ (pattern ++ after) = before' ++ (pattern ++ after') := by
    rw [← List.append_assoc, ← List.append_assoc, ← h.eq, ← h'.eq]
  obtain ⟨rfl, hrest⟩ := List.append_inj heq hlen
  exact ⟨rfl, List.append_cancel_left hrest⟩

/-- The pattern does not occur in front of its first occurrence. -/
theorem FirstCut.not_infix_before {text before after : List Char} (h : FirstCut pattern text before after)
    (hne : pattern ≠ []) : ¬ pattern <:+: before := by
  rintro ⟨front, back, rfl⟩
  have hle := h.first front (back ++ pattern ++ after) (by rw [h.eq]; simp)
  have hpos := List.length_pos_iff.2 hne
  simp only [List.length_append] at hle
  omega

theorem FirstCut.isInfix {text before after : List Char} (h : FirstCut pattern text before after) :
    pattern <:+: text :=
  ⟨before, after, h.eq.symm⟩

private theorem cutFrom_seen (seen text : List α) :
    cutFrom glyph pattern seen text =
      (cut? glyph pattern text).map fun cut => (seen.reverse ++ cut.1, cut.2) := by
  unfold cut?
  induction text generalizing seen with
  | nil => unfold cutFrom; split <;> simp
  | cons a text ih =>
    unfold cutFrom
    split
    · simp
    · rw [ih (a :: seen), ih [a], Option.map_map]
      simp [Function.comp_def]

private theorem cut?_nil : cut? glyph pattern [] = if pattern = [] then some ([], []) else none := by
  simp [cut?, cutFrom, List.isEmpty_iff]

theorem cut?_cons (a : α) (text : List α) :
    cut? glyph pattern (a :: text) =
      if begins glyph pattern (a :: text) then some ([], (a :: text).drop pattern.length)
      else (cut? glyph pattern text).map fun cut => (a :: cut.1, cut.2) := by
  rw [cut?, cutFrom]
  split
  · rfl
  · rw [cutFrom_seen]
    rfl

/-- The search fails where the pattern does not occur, and only there. -/
theorem cut?_eq_none_iff : cut? glyph pattern text = none ↔ ¬ pattern <:+: text.map glyph := by
  induction text with
  | nil => simp [cut?_nil]
  | cons a text ih =>
    rw [cut?_cons, List.map_cons, List.infix_cons_iff, ← List.map_cons, ← begins_iff]
    split
    · rename_i h
      simp [h]
    · rename_i h
      simp only [Option.map_eq_none_iff, ih, h, false_or, Bool.false_eq_true]

private theorem cut?_nil_cases {before after : List α} (h : cut? glyph pattern [] = some (before, after)) :
    pattern = [] ∧ before = [] ∧ after = [] := by
  rw [cut?_nil] at h
  split at h
  · rename_i hp
    simp only [Option.some.injEq, Prod.mk.injEq] at h
    exact ⟨hp, h.1.symm, h.2.symm⟩
  · contradiction

/-- An occurrence that the search finds is at the beginning, or it is found behind the first character. -/
private theorem cut?_cons_cases {a : α} {before after : List α}
    (h : cut? glyph pattern (a :: text) = some (before, after)) :
    begins glyph pattern (a :: text) = true ∧ before = [] ∧ after = (a :: text).drop pattern.length ∨
      ¬ begins glyph pattern (a :: text) = true ∧
        ∃ front, cut? glyph pattern text = some (front, after) ∧ before = a :: front := by
  rw [cut?_cons] at h
  split at h
  · rename_i hbegins
    simp only [Option.some.injEq, Prod.mk.injEq] at h
    exact .inl ⟨hbegins, h.1.symm, h.2.symm⟩
  · rename_i hbegins
    obtain ⟨⟨front, rest⟩, hcut, heq⟩ := Option.map_eq_some_iff.1 h
    simp only [Prod.mk.injEq] at heq
    obtain ⟨rfl, rfl⟩ := heq
    exact .inr ⟨hbegins, front, hcut, rfl⟩

/-- What stands before and after an occurrence that the search finds are parts of the text. -/
theorem parts_of_cut? {before after : List α} (h : cut? glyph pattern text = some (before, after)) :
    before = text.take before.length ∧ after = text.drop (before.length + pattern.length) := by
  induction text generalizing before after with
  | nil =>
    obtain ⟨-, rfl, rfl⟩ := cut?_nil_cases h
    simp
  | cons a text ih =>
    rcases cut?_cons_cases h with ⟨-, rfl, rfl⟩ | ⟨-, front, hcut, rfl⟩
    · simp
    · obtain ⟨hfront, hafter⟩ := ih hcut
      constructor
      · rw [List.length_cons, List.take_succ_cons, ← hfront]
      · rw [List.length_cons, Nat.add_right_comm, List.drop_succ_cons, ← hafter]

/-- The search finds the first occurrence. -/
theorem firstCut_of_cut? {before after : List α} (h : cut? glyph pattern text = some (before, after)) :
    FirstCut pattern (text.map glyph) (before.map glyph) (after.map glyph) := by
  induction text generalizing before after with
  | nil =>
    obtain ⟨rfl, rfl, rfl⟩ := cut?_nil_cases h
    exact ⟨rfl, fun _ _ _ => Nat.zero_le _⟩
  | cons a text ih =>
    rcases cut?_cons_cases h with ⟨hbegins, rfl, rfl⟩ | ⟨hbegins, front, hcut, rfl⟩
    · refine ⟨?_, fun _ _ _ => Nat.zero_le _⟩
      rw [List.map_drop, List.map_nil, List.nil_append]
      exact (List.prefix_iff_eq_append.1 (begins_iff.1 hbegins)).symm
    · have hfirst := ih hcut
      refine ⟨by rw [List.map_cons, List.map_cons, hfirst.eq]; simp, ?_⟩
      intro other back heq
      cases other with
      | nil => exact absurd (begins_iff.2 ⟨back, heq.symm⟩) hbegins
      | cons c other =>
        have htail : text.map glyph = other ++ pattern ++ back := (List.cons.inj heq).2
        exact Nat.succ_le_succ (hfirst.first other back htail)

/-- In a text of plain characters the search finds the first occurrence and nothing else. -/
theorem cut?_id_iff {text before after : List Char} :
    cut? id pattern text = some (before, after) ↔ FirstCut pattern text before after := by
  constructor
  · intro h
    simpa using firstCut_of_cut? h
  · intro h
    cases hcut : cut? id pattern text with
    | none => exact absurd h.isInfix (by simpa using cut?_eq_none_iff.1 hcut)
    | some cut =>
      obtain ⟨rfl, rfl⟩ := h.unique (by simpa using firstCut_of_cut? hcut)
      rfl

/-- A pair of different characters behind a text in which it does not occur is its first occurrence. -/
theorem firstCut_pair {p q : Char} (hne : p ≠ q) {before : List Char} (h : ¬ [p, q] <:+: before)
    (after : List Char) : FirstCut [p, q] (before ++ [p, q] ++ after) before after := by
  refine ⟨rfl, fun front back heq => Nat.le_of_not_lt fun hlt => ?_⟩
  rw [List.append_assoc, List.append_assoc] at heq
  have hprefix : front <+: before :=
    List.prefix_of_prefix_length_le ⟨_, heq.symm⟩ (List.prefix_append _ _) (Nat.le_of_lt hlt)
  obtain ⟨more, rfl⟩ := hprefix
  rw [List.append_assoc, List.append_cancel_left_eq] at heq
  -- a pair that begins earlier lies in `more`, or its second character is the first one of the true pair
  match more, heq with
  | [], _ => exact absurd hlt (by simp)
  | [a], heq => exact absurd (List.cons.inj (List.cons.inj heq).2).1 hne
  | a :: b :: more, heq =>
    have ha : a = p := (List.cons.inj heq).1
    have hb : b = q := (List.cons.inj (List.cons.inj heq).2).1
    rw [ha, hb] at h
    exact h ⟨front, more, List.append_assoc front _ more⟩

theorem cut?_char_of_not_mem {c : Char} {text : List Char} (h : c ∉ text) : cut? id [c] text = none := by
  rw [cut?_eq_none_iff, List.map_id, List.singleton_infix_iff]
  exact h

theorem cut?_char_append {c : Char} {front : List Char} (h : c ∉ front) (rest : List Char) :
    cut? id [c] (front ++ c :: rest) = some (front, rest) := by
  induction front with
  | nil => simp [cut?_cons, begins]
  | cons d front ih =>
    rw [List.mem_cons, not_or] at h
    have hbegins : begins id [c] (d :: (front ++ c :: rest)) = false := by simp [begins, h.1]
    rw [List.cons_append, cut?_cons, hbegins, ih h.2]
    rfl

/-! ### The pieces between the occurrences -/

/-- A text is split at the leftmost occurrences of a pattern, of which no two overlap. -/
inductive Splits (pattern : List Char) : List Char → List (List Char) → Prop
  | whole {text : List Char} : ¬ pattern <:+: text → Splits pattern text [text]
  | cut {text before after : List Char} {pieces : List (List Char)} :
      FirstCut pattern text before after → Splits pattern after pieces → Splits pattern text (before :: pieces)

theorem Splits.ne_nil {text : List Char} {pieces : List (List Char)} (h : Splits pattern text pieces) :
    pieces ≠ [] := by
  cases h <;> simp

/-- There is only one way to split a text. -/
theorem Splits.unique {text : List Char} {pieces pieces' : List (List Char)} (h : Splits pattern text pieces)
    (h' : Splits pattern text pieces') : pieces = pieces' := by
  induction h generalizing pieces' with
  | whole hnone =>
    cases h' with
    | whole => rfl
    | cut hcut _ => exact absurd hcut.isInfix hnone
  | cut hcut _ ih =>
    cases h' with
    | whole hnone => exact absurd hcut.isInfix hnone
    | cut hcut' hrest =>
      obtain ⟨rfl, rfl⟩ := hcut.unique hcut'
      rw [ih hrest]

/-- The pieces with the pattern behind each of them are the text with the pattern behind it. -/
theorem Splits.flatMap_append {text : List Char} {pieces : List (List Char)} (h : Splits pattern text pieces) :
    pieces.flatMap (· ++ pattern) = text ++ pattern := by
  induction h with
  | whole => exact List.append_nil _
  | cut hcut _ ih => rw [List.flatMap_cons, ih, hcut.eq, List.append_assoc _ _ pattern]

/-- The pieces with the pattern between them are the text. -/
theorem Splits.eq_intercalate {text : List Char} {pieces : List (List Char)} (h : Splits pattern text pieces) :
    text = pattern.intercalate pieces := by
  induction h with
  | whole => exact List.intercalate_singleton.symm
  | cut hcut hsplits ih =>
    obtain ⟨next, pieces, rfl⟩ := List.exists_cons_of_ne_nil hsplits.ne_nil
    rw [List.intercalate_cons_cons, ← ih, hcut.eq]

private theorem splitAround_of_none (hp : pattern ≠ []) (h : cut? glyph pattern text = none) :
    splitAround glyph pattern text = [text] := by
  rw [splitAround, dif_neg hp]
  split
  · rfl
  · simp_all

private theorem splitAround_of_some {before after : List α} (hp : pattern ≠ [])
    (h : cut? glyph pattern text = some (before, after)) :
    splitAround glyph pattern text = before :: splitAround glyph pattern after := by
  rw [splitAround, dif_neg hp]
  split <;> simp_all

/-- The characters of the pieces are the pieces of the characters. -/
theorem splits_splitAround (hp : pattern ≠ []) (text : List α) :
    Splits pattern (text.map glyph) ((splitAround glyph pattern text).map (·.map glyph)) := by
  cases hcut : cut? glyph pattern text with
  | none =>
    rw [splitAround_of_none hp hcut]
    exact .whole (cut?_eq_none_iff.1 hcut)
  | some cut =>
    rw [splitAround_of_some hp hcut]
    have := length_lt_of_cut? glyph hcut hp
    exact .cut (firstCut_of_cut? hcut) (splits_splitAround hp cut.2)
termination_by text.length

/-- Where pieces lie in a text, from a position on, with gaps of the same length between them: the positions of
their beginnings and of their ends. -/
def spans (gap : Nat) : Nat → List (List Char) → List (Nat × Nat)
  | _, [] => []
  | start, piece :: pieces => (start, start + piece.length) :: spans gap (start + piece.length + gap) pieces

private theorem splitAround_suffix (hp : pattern ≠ []) (whole : List α) {text : List α} {start : Nat}
    (h : text = whole.drop start) :
    splitAround glyph pattern text =
      (spans pattern.length start ((splitAround glyph pattern text).map (·.map glyph))).map
        fun span => (whole.take span.2).drop span.1 := by
  cases hcut : cut? glyph pattern text with
  | none =>
    rw [splitAround_of_none hp hcut]
    simp [spans, List.drop_take, List.take_of_length_le, h]
  | some cut =>
    obtain ⟨before, after⟩ := cut
    obtain ⟨hbefore, hafter⟩ := parts_of_cut? hcut
    -- the rest begins behind the piece and the pattern
    rw [h, List.drop_drop, ← Nat.add_assoc] at hafter
    have := length_lt_of_cut? glyph hcut hp
    have ih := splitAround_suffix hp whole hafter
    rw [splitAround_of_some hp hcut, List.map_cons, spans, List.map_cons, List.length_map, ← ih,
      List.drop_take, Nat.add_sub_cancel_left, ← h, ← hbefore]
termination_by text.length

/-- The pieces are those parts of the text where their characters lie. -/
theorem splitAround_eq_spans (hp : pattern ≠ []) (text : List α) :
    splitAround glyph pattern text =
      (spans pattern.length 0 ((splitAround glyph pattern text).map (·.map glyph))).map
        fun span => (text.take span.2).drop span.1 :=
  splitAround_suffix hp text List.drop_zero.symm

end StyledCode.Text
