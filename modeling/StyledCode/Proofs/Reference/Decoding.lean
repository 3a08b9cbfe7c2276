import StyledCode.Proofs.Reference.Pieces

/-!
# Decoded text, position by position

What becomes of a text when its references are replaced, said of each of its positions alone and without an order in
which the text is searched.

* `Occurs` : a reference that stands for a character, at a position of a text
* `Shows` : what a position shows in the decoded text: the character of the reference that begins there, nothing
  inside a reference, and else its own character
* `Decoding` : what each position of a text shows
* `decoding_shown` : the pieces of a text show this
* `expand_of_decoding` : `expand` puts it in place of the characters of each run, if anything is to be replaced
-/

namespace StyledCode.Reference

/-- At a position of a text a reference begins that stands for a character, which is another text than the reference
itself. -/
structure Occurs (text : List Char) (start : Nat) (reference : List Char) (c : Char) : Prop where
  isReference : IsReference reference
  isPrefix : reference <+: text.drop start
  decode : decode? reference = some c
  differs : reference ≠ [c]

theorem Occurs.add_length_le {text reference : List Char} {start : Nat} {c : Char}
    (h : Occurs text start reference c) : start + reference.length ≤ text.length := by
  have hlen := h.isPrefix.length_le
  have := h.isReference.three_le_length
  rw [List.length_drop] at hlen
  omega

/-- Two references that are replaced are the same, or have no character in common. -/
theorem Occurs.eq_of_overlap {text reference reference' : List Char} {start start' : Nat} {c c' : Char}
    (h : Occurs text start reference c) (h' : Occurs text start' reference' c') (hle : start ≤ start')
    (hlt : start' < start + reference.length) : start = start' ∧ reference = reference' ∧ c = c' := by
  obtain ⟨rfl, rfl⟩ := h.isReference.eq_of_overlap h'.isReference h.isPrefix h'.isPrefix hle hlt
  exact ⟨rfl, rfl, Option.some.inj (h.decode.symm.trans h'.decode)⟩

/-- What a position of a text shows in the decoded text. -/
inductive Shows (text : List Char) (position : Nat) : List Char → Prop
  /-- A reference that begins there shows its character. -/
  | reference {reference : List Char} {c : Char} : Occurs text position reference c → Shows text position [c]
  /-- The other characters of a reference show nothing. -/
  | inside {start : Nat} {reference : List Char} {c : Char} :
      Occurs text start reference c → start < position → position < start + reference.length →
      Shows text position []
  /-- A character outside all references shows itself. -/
  | kept {a : Char} : text[position]? = some a →
      (∀ start reference c, Occurs text start reference c →
        position < start ∨ start + reference.length ≤ position) →
      Shows text position [a]

/-- A position shows one thing only. -/
theorem Shows.unique {text out out' : List Char} {position : Nat} (h : Shows text position out)
    (h' : Shows text position out') : out = out' := by
  cases h with
  | reference h =>
    have := h.isReference.three_le_length
    cases h' with
    | reference h' => rw [(h.eq_of_overlap h' (Nat.le_refl _) (by omega)).2.2]
    | inside h' hlt hgt =>
      have := (h'.eq_of_overlap h (Nat.le_of_lt hlt) hgt).1
      omega
    | kept _ hfree => rcases hfree _ _ _ h with hlt | hle <;> omega
  | inside h hlt hgt =>
    cases h' with
    | reference h' =>
      have := (h.eq_of_overlap h' (Nat.le_of_lt hlt) hgt).1
      omega
    | inside => rfl
    | kept _ hfree => rcases hfree _ _ _ h with hlt | hle <;> omega
  | kept ha hfree =>
    cases h' with
    | reference h' =>
      have := h'.isReference.three_le_length
      rcases hfree _ _ _ h' with hlt | hle <;> omega
    | inside h' hlt hgt => rcases hfree _ _ _ h' with hlt | hle <;> omega
    | kept hb _ => rw [Option.some.inj (ha.symm.trans hb)]

/-- What each position of a text shows in the decoded text. -/
structure Decoding (text : List Char) (outs : List (List Char)) : Prop where
  length_eq : outs.length = text.length
  shows : ∀ i out, outs[i]? = some out → Shows text i out

/-- A text is decoded in one way only. -/
theorem Decoding.unique {text : List Char} {outs outs' : List (List Char)} (h : Decoding text outs)
    (h' : Decoding text outs') : outs = outs' := by
  refine List.ext_getElem (h.length_eq.trans h'.length_eq.symm) fun i hi hi' => ?_
  exact (h.shows i _ (List.getElem?_eq_getElem hi)).unique (h'.shows i _ (List.getElem?_eq_getElem hi'))

/-- Nothing stands in place of some character if a reference occurs, and only then. -/
theorem Decoding.nil_mem_iff {text : List Char} {outs : List (List Char)} (h : Decoding text outs) :
    [] ∈ outs ↔ ∃ start reference c, Occurs text start reference c := by
  constructor
  · intro hmem
    obtain ⟨i, hi⟩ := List.mem_iff_getElem?.1 hmem
    cases h.shows i [] hi with
    | inside hocc _ _ => exact ⟨_, _, _, hocc⟩
  · rintro ⟨start, reference, c, hocc⟩
    have hlen := hocc.isReference.three_le_length
    have hlt : start + 1 < outs.length := by
      have := hocc.add_length_le
      rw [h.length_eq]
      omega
    have hshows := h.shows (start + 1) _ (List.getElem?_eq_getElem hlt)
    have hnil : Shows text (start + 1) [] := .inside hocc (by omega) (by omega)
    rw [hnil.unique hshows]
    exact List.getElem_mem hlt

/-! ### The pieces of a text -/

variable {α : Type} {glyph : α → Char}

/-- No reference that is replaced lies across a position. -/
private def Clear (whole : List Char) (position : Nat) : Prop :=
  ∀ start reference c, Occurs whole start reference c → start < position → start + reference.length ≤ position

private theorem Clear.add_length {whole reference : List Char} {position : Nat} (h : Clear whole position)
    (hreference : IsReference reference) (hp : reference <+: whole.drop position) :
    Clear whole (position + reference.length) := by
  intro start reference' c hocc hlt
  by_cases hstart : start < position
  · have := h _ _ _ hocc hstart
    omega
  · obtain ⟨rfl, rfl⟩ := hreference.eq_of_overlap hocc.isReference hp hocc.isPrefix (by omega) hlt
    exact Nat.le_refl _

private theorem not_occurs_of_take?_eq_none {whole : List Char} {text : List α} {position : Nat}
    (h : text.map glyph = whole.drop position) (htake : take? glyph text = none) (reference : List Char) (c : Char) :
    ¬ Occurs whole position reference c := by
  intro hocc
  have hp := hocc.isPrefix
  rw [← h] at hp
  have hmap : (text.take reference.length).map glyph = reference := by
    rw [List.map_take]
    exact (List.prefix_iff_eq_take.1 hp).symm
  have hreference : IsReference ((text.take reference.length).map glyph) := by
    rw [hmap]
    exact hocc.isReference
  have hsome := take?_append hreference (text.drop reference.length)
  rw [List.take_append_drop, htake] at hsome
  contradiction

private theorem prefix_of_map_eq_drop {whole : List Char} {front after : List α} {position : Nat}
    (h : (front ++ after).map glyph = whole.drop position) :
    front.map glyph <+: whole.drop position ∧
      after.map glyph = whole.drop (position + (front.map glyph).length) := by
  rw [List.map_append] at h
  refine ⟨⟨_, h⟩, ?_⟩
  rw [← List.drop_drop, ← h, List.drop_left]

/-- What the positions from one on show. -/
private def ShowsFrom (whole : List Char) (position : Nat) (outs : List (List Char)) : Prop :=
  ∀ i out, outs[i]? = some out → Shows whole (position + i) out

private theorem ShowsFrom.append {whole : List Char} {position : Nat} {outs outs' : List (List Char)}
    (h : ShowsFrom whole position outs) (h' : ShowsFrom whole (position + outs.length) outs') :
    ShowsFrom whole position (outs ++ outs') := by
  intro i out hi
  by_cases hlt : i < outs.length
  · rw [List.getElem?_append_left hlt] at hi
    exact h i out hi
  · rw [List.getElem?_append_right (by omega)] at hi
    have := h' _ out hi
    rwa [show position + outs.length + (i - outs.length) = position + i by omega] at this

private theorem Occurs.showsFrom {whole reference : List Char} {position : Nat} {c : Char}
    (h : Occurs whole position reference c) :
    ShowsFrom whole position ([c] :: List.replicate (reference.length - 1) []) := by
  intro i out hi
  cases i with
  | zero =>
    obtain rfl := Option.some.inj hi
    exact .reference h
  | succ i =>
    rw [List.getElem?_cons_succ] at hi
    obtain rfl := List.eq_of_mem_replicate (List.mem_of_getElem? hi)
    have hlt := (List.getElem?_eq_some_iff.1 hi).1
    rw [List.length_replicate] at hlt
    exact .inside h (by omega) (by omega)

/-- Characters that no reference covers which is replaced show themselves. -/
private theorem showsFrom_kept {whole front : List Char} {position : Nat} (hp : front <+: whole.drop position)
    (hfree : ∀ start reference c, Occurs whole start reference c →
      start + reference.length ≤ position ∨ position + front.length ≤ start) :
    ShowsFrom whole position (front.map fun c => [c]) := by
  intro i out hi
  rw [List.getElem?_map] at hi
  obtain ⟨a, ha, rfl⟩ := Option.map_eq_some_iff.1 hi
  obtain ⟨hlt, -⟩ := List.getElem?_eq_some_iff.1 ha
  obtain ⟨after, hafter⟩ := hp
  refine .kept ?_ fun start reference c hocc => ?_
  · rw [← List.getElem?_drop, ← hafter, List.getElem?_append_left hlt, ha]
  · rcases hfree _ _ _ hocc with hle | hle
    · exact .inr (by omega)
    · exact .inl (by omega)

private theorem Clear.free_kept {whole : List Char} {position : Nat} (h : Clear whole position)
    (hnone : ∀ reference c, ¬ Occurs whole position reference c) {start : Nat} {reference : List Char} {c : Char}
    (hocc : Occurs whole start reference c) : start + reference.length ≤ position ∨ position + 1 ≤ start := by
  by_cases hstart : start < position
  · exact .inl (h _ _ _ hocc hstart)
  · by_cases heq : start = position
    · subst heq
      exact absurd hocc (hnone _ _)
    · exact .inr (by omega)

private theorem Clear.succ {whole : List Char} {position : Nat} (h : Clear whole position)
    (hnone : ∀ reference c, ¬ Occurs whole position reference c) : Clear whole (position + 1) := by
  intro start reference c hocc hlt
  rcases h.free_kept hnone hocc with hle | hle <;> omega

private theorem Clear.free_unknown {whole reference : List Char} {position : Nat} (h : Clear whole position)
    (hreference : IsReference reference) (hp : reference <+: whole.drop position) (hc : decode? reference = none)
    {start : Nat} {reference' : List Char} {c : Char} (hocc : Occurs whole start reference' c) :
    start + reference'.length ≤ position ∨ position + reference.length ≤ start := by
  by_cases hstart : start < position
  · exact .inl (h _ _ _ hocc hstart)
  · by_cases hend : start < position + reference.length
    · -- it would be this reference, which stands for no character
      obtain ⟨-, rfl⟩ := hreference.eq_of_overlap hocc.isReference hp hocc.isPrefix (by omega) hend
      rw [hocc.decode] at hc
      contradiction
    · exact .inr (by omega)

/-- The induction goes along the pieces; that no reference lies across the beginning of a piece carries it. -/
private theorem showsFrom_shown (whole : List Char) (text : List α) :
    ∀ position, text.map glyph = whole.drop position → Clear whole position →
      ShowsFrom whole position (shown glyph text) := by
  induction text using pieces_induction glyph with
  | nil =>
    intro position _ _ i out hi
    rw [shown_nil] at hi
    contradiction
  | kept a rest htake ih =>
    intro position h hclear
    have hnone := not_occurs_of_take?_eq_none h htake
    have hcons : ([a] ++ rest).map glyph = whole.drop position := h
    obtain ⟨hp, hrest⟩ := prefix_of_map_eq_drop hcons
    rw [shown_kept htake]
    exact (showsFrom_kept hp fun _ _ _ => hclear.free_kept hnone).append (ih _ hrest (hclear.succ hnone))
  | replaced reference after c hreference hc ih =>
    intro position h hclear
    obtain ⟨hp, hafter⟩ := prefix_of_map_eq_drop h
    have hlen := hreference.three_le_length
    -- one character is shorter than a reference, so it differs from it
    have hocc : Occurs whole position (reference.map glyph) c :=
      ⟨hreference, hp, hc, fun heq => by rw [heq] at hlen; contradiction⟩
    have hblock : ([c] :: List.replicate (reference.length - 1) []).length = (reference.map glyph).length := by
      rw [List.length_map] at hlen ⊢
      rw [List.length_cons, List.length_replicate]
      omega
    have hshows := hocc.showsFrom
    rw [List.length_map] at hshows
    rw [shown_replaced hreference hc]
    refine hshows.append ?_
    rw [hblock]
    exact ih _ hafter (hclear.add_length hreference hp)
  | unknown reference after hreference hc ih =>
    intro position h hclear
    obtain ⟨hp, hafter⟩ := prefix_of_map_eq_drop h
    have hshows := showsFrom_kept hp fun _ _ _ => hclear.free_unknown hreference hp hc
    rw [List.map_map] at hshows
    rw [shown_unknown hreference hc]
    refine hshows.append ?_
    have := ih _ hafter (hclear.add_length hreference hp)
    rwa [List.length_map] at this ⊢

/-- The pieces of a text show what its positions show. -/
theorem decoding_shown (text : List α) : Decoding (text.map glyph) (shown glyph text) := by
  refine ⟨by rw [length_shown, List.length_map], fun i out hi => ?_⟩
  have hclear : Clear (text.map glyph) 0 := fun _ _ _ _ hlt => absurd hlt (Nat.not_lt_zero _)
  have := showsFrom_shown (text.map glyph) text 0 rfl hclear i out hi
  rwa [Nat.zero_add] at this

/-- A reference that is replaced shows its character where it begins, and nothing behind that. -/
theorem Decoding.of_occurs {text reference : List Char} {outs : List (List Char)} {start : Nat} {c : Char}
    (h : Decoding text outs) (hocc : Occurs text start reference c) :
    outs[start]? = some [c] ∧ ∀ i, start < i → i < start + reference.length → outs[i]? = some [] := by
  have hle := hocc.add_length_le
  have := hocc.isReference.three_le_length
  rw [← h.length_eq] at hle
  constructor
  · have hlt : start < outs.length := by omega
    rw [List.getElem?_eq_getElem hlt, (h.shows start _ (List.getElem?_eq_getElem hlt)).unique (.reference hocc)]
  · intro i hstart hstop
    have hlt : i < outs.length := by omega
    rw [List.getElem?_eq_getElem hlt,
      (h.shows i _ (List.getElem?_eq_getElem hlt)).unique (.inside hocc hstart hstop)]

/-- A text is decoded in one way.  If there is a reference to replace, each run gets what its positions show, in its
own style, and is dropped if they show nothing; a reference counts for the run in which it begins, wherever it ends.
If there is none, the runs stay as they are. -/
theorem expand_of_decoding (runs : List Run) :
    ∃ outs, Decoding (Run.plainText runs).toList outs ∧
      (∀ others, Decoding (Run.plainText runs).toList others → others = outs) ∧
      (∀ start reference c, Occurs (Run.plainText runs).toList start reference c →
        outs[start]? = some [c] ∧ ∀ i, start < i → i < start + reference.length → outs[i]? = some []) ∧
      ((∃ start reference c, Occurs (Run.plainText runs).toList start reference c) ∧
          expand runs = Run.substitute runs outs ∨
        (¬ ∃ start reference c, Occurs (Run.plainText runs).toList start reference c) ∧ expand runs = runs) := by
  have hdecoding : Decoding (Run.plainText runs).toList (shown Cell.glyph (Run.cells runs)) := by
    rw [← Run.glyphs_cells]
    exact decoding_shown _
  refine ⟨_, hdecoding, fun others hothers => hothers.unique hdecoding,
    fun start reference c hocc => hdecoding.of_occurs hocc, ?_⟩
  rw [← hdecoding.nil_mem_iff, ← any_isReplaced_iff]
  by_cases hany : (pieces Cell.glyph (Run.cells runs)).any Piece.isReplaced = true
  · refine .inl ⟨hany, ?_⟩
    rw [expand, if_pos hany, flatMap_cells_pieces, Run.ofCells_edit (length_shown _)]
  · refine .inr ⟨hany, ?_⟩
    rw [expand, if_neg hany]

end StyledCode.Reference
