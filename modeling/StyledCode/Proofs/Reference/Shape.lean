import StyledCode.Proofs.Text.Search
import StyledCode.Reference.Basic

/-!
# The shape of references

* `IsReference` : `&`, perhaps `#`, letters and digits, and `;`
* `take?_iff` : what `take?` takes from a text is a reference at its beginning, and the only one
* `IsReference.eq_of_overlap` : two references in a text that have a character in common are the same
-/

namespace StyledCode.Reference

open Text

/-- The shape of a reference: `&`, perhaps `#`, letters and digits, and `;`. -/
def IsReference (reference : List Char) : Prop :=
  ∃ mark name : List Char, (mark = [] ∨ mark = ['#']) ∧ name ≠ [] ∧ (∀ c ∈ name, c.isAlphanum = true) ∧
    reference = '&' :: (mark ++ name ++ [';'])

/-- A name between `&` and `;` is a reference. -/
theorem isReference_name (name : List Char) (hname : name ≠ []) (h : name.all Char.isAlphanum = true) :
    IsReference ('&' :: (name ++ [';'])) :=
  ⟨[], name, .inl rfl, hname, fun c hc => List.all_eq_true.1 h c hc, rfl⟩

/-- A reference is at least three characters long. -/
theorem IsReference.three_le_length {reference : List Char} (h : IsReference reference) : 3 ≤ reference.length := by
  obtain ⟨mark, name, -, hname, -, rfl⟩ := h
  have := List.length_pos_iff.2 hname
  simp only [List.length_cons, List.length_append, List.length_nil]
  omega

/-- Only the first character of a reference is an `&`. -/
theorem IsReference.eq_zero_of_getElem? {reference : List Char} (h : IsReference reference) {i : Nat}
    (hi : reference[i]? = some '&') : i = 0 := by
  obtain ⟨mark, name, hmark, -, hname, rfl⟩ := h
  cases i with
  | zero => rfl
  | succ i =>
    exfalso
    rw [List.getElem?_cons_succ] at hi
    have hmem := List.mem_of_getElem? hi
    simp only [List.mem_append, List.mem_singleton] at hmem
    rcases hmem with (h | h) | h
    · rcases hmark with rfl | rfl
      · contradiction
      · exact absurd (List.mem_singleton.1 h) (by decide)
    · exact absurd (hname _ h) (by decide)
    · exact absurd h (by decide)

theorem IsReference.head {reference : List Char} (h : IsReference reference) : reference[0]? = some '&' := by
  obtain ⟨mark, name, -, -, -, rfl⟩ := h
  rfl

variable {α : Type} {glyph : α → Char}

theorem takeMark_append (glyph : α → Char) (text : List α) :
    (takeMark glyph text).1 ++ (takeMark glyph text).2 = text := by
  cases text with
  | nil => rfl
  | cons a text =>
    simp only [takeMark]
    split <;> rfl

private theorem takeMark_glyphs (glyph : α → Char) (text : List α) :
    (takeMark glyph text).1.map glyph = [] ∨ (takeMark glyph text).1.map glyph = ['#'] := by
  cases text with
  | nil => exact .inl rfl
  | cons a text =>
    simp only [takeMark]
    split
    · rename_i h
      exact .inr (by simp [h])
    · exact .inl rfl

private theorem takeMark_of_mark {a : α} (h : glyph a = '#') (text : List α) :
    takeMark glyph (a :: text) = ([a], text) := by
  rw [takeMark, if_pos h]

private theorem takeMark_of_alphanum {a : α} (h : (glyph a).isAlphanum = true) (text : List α) :
    takeMark glyph (a :: text) = ([], a :: text) := by
  rw [takeMark, if_neg]
  intro hmark
  rw [hmark] at h
  exact absurd h (by decide)

/-- What `take?` takes is a reference at the beginning of the text. -/
theorem isReference_of_take? {text reference rest : List α} (h : take? glyph text = some (reference, rest)) :
    text = reference ++ rest ∧ IsReference (reference.map glyph) := by
  cases text with
  | nil => contradiction
  | cons a text =>
    simp only [take?] at h
    split at h
    · rename_i ha
      split at h
      · contradiction
      · rename_i stop after hafter
        split at h
        · rename_i hstop
          simp only [Bool.and_eq_true, Bool.not_eq_true', List.isEmpty_eq_false_iff, beq_iff_eq] at hstop
          simp only [Option.some.injEq, Prod.mk.injEq] at h
          obtain ⟨rfl, rfl⟩ := h
          have htext := takeMark_append glyph text
          have hmark := takeMark_glyphs glyph text
          generalize takeMark glyph text = marked at *
          have hspan := List.takeWhile_append_dropWhile (p := fun b => (glyph b).isAlphanum) (l := marked.2)
          rw [hafter] at hspan
          refine ⟨?_, marked.1.map glyph, (marked.2.takeWhile fun b => (glyph b).isAlphanum).map glyph, hmark,
            ?_, ?_, ?_⟩
          · rw [← htext]
            simp [hspan]
          · exact fun hnil => hstop.1 (List.map_eq_nil_iff.1 hnil)
          · intro c hc
            obtain ⟨b, hb, rfl⟩ := List.mem_map.1 hc
            exact List.all_eq_true.1 List.all_takeWhile b hb
          · simp [ha, hstop.2]
        · contradiction
    · contradiction

/-- A reference at the beginning of a text is taken. -/
theorem take?_append {reference : List α} (h : IsReference (reference.map glyph)) (rest : List α) :
    take? glyph (reference ++ rest) = some (reference, rest) := by
  obtain ⟨mark, name, hmark, hne, hname, heq⟩ := h
  -- the `&`, the mark, the name and the `;` as parts of the text
  obtain ⟨a, tail, rfl, ha, htail⟩ := List.map_eq_cons_iff.1 heq
  obtain ⟨front, last, rfl, hfront, hlast⟩ := List.map_eq_append_iff.1 htail
  obtain ⟨m, n, rfl, rfl, rfl⟩ := List.map_eq_append_iff.1 hfront
  obtain ⟨stop, rfl, hstop⟩ := List.map_eq_singleton_iff.1 hlast
  have hn : n ≠ [] := fun hnil => hne (by rw [hnil]; rfl)
  have hmarked : takeMark glyph (m ++ (n ++ (stop :: rest))) = (m, n ++ (stop :: rest)) := by
    rcases hmark with hm | hm
    · obtain rfl := List.map_eq_nil_iff.1 hm
      obtain ⟨b, n, rfl⟩ := List.exists_cons_of_ne_nil hn
      exact takeMark_of_alphanum (hname _ (by simp)) _
    · obtain ⟨b, rfl, hb⟩ := List.map_eq_singleton_iff.1 hm
      exact takeMark_of_mark hb _
  have hfront : ∀ b ∈ n, (glyph b).isAlphanum = true := fun b hb => hname _ (List.mem_map_of_mem hb)
  -- the name ends at the `;`, whatever follows
  have hend : ∀ b ∈ (stop :: rest).head?, (glyph b).isAlphanum = false := by
    intro b hb
    obtain rfl := Option.some.inj hb
    rw [hstop]
    decide
  have hspan := span_append hfront hend
  have hempty : n.isEmpty = false := by simpa using hn
  simp [take?, ha, hmarked, hspan.1, hspan.2, hstop, hempty]

/-- What `take?` takes from a text is the reference at its beginning. -/
theorem take?_iff {text reference rest : List α} :
    take? glyph text = some (reference, rest) ↔ text = reference ++ rest ∧ IsReference (reference.map glyph) := by
  constructor
  · exact isReference_of_take?
  · rintro ⟨rfl, h⟩
    exact take?_append h rest

/-- Two references at the beginning of a text are the same. -/
theorem IsReference.eq_of_prefix {text reference reference' : List Char} (h : IsReference reference)
    (h' : IsReference reference') (hp : reference <+: text) (hp' : reference' <+: text) :
    reference = reference' := by
  obtain ⟨rest, rfl⟩ := hp
  obtain ⟨rest', hrest⟩ := hp'
  have htake : take? id (reference ++ rest) = some (reference, rest) := take?_append (by rwa [List.map_id]) rest
  have htake' : take? id (reference' ++ rest') = some (reference', rest') :=
    take?_append (by rwa [List.map_id]) rest'
  rw [hrest, htake] at htake'
  exact (Prod.mk.inj (Option.some.inj htake')).1

/-- Two references in a text that have a character in common are the same. -/
theorem IsReference.eq_of_overlap {text reference reference' : List Char} {start start' : Nat}
    (h : IsReference reference) (h' : IsReference reference') (hp : reference <+: text.drop start)
    (hp' : reference' <+: text.drop start') (hle : start ≤ start') (hlt : start' < start + reference.length) :
    start = start' ∧ reference = reference' := by
  -- the second one begins with an `&` inside the first one
  have hamp : reference[start' - start]? = some '&' := by
    have hfirst : text[start']? = some '&' := by
      obtain ⟨rest, hrest⟩ := hp'
      have hhead := congrArg (·[0]?) hrest
      simp only [List.getElem?_drop, Nat.add_zero] at hhead
      rw [← hhead, List.getElem?_append_left (by have := h'.three_le_length; omega), h'.head]
    obtain ⟨rest, hrest⟩ := hp
    have hinside := congrArg (·[start' - start]?) hrest
    simp only [List.getElem?_drop, Nat.add_sub_cancel' hle] at hinside
    rw [List.getElem?_append_left (by omega), hfirst] at hinside
    exact hinside
  have hzero := h.eq_zero_of_getElem? hamp
  obtain rfl : start = start' := by omega
  exact ⟨rfl, h.eq_of_prefix h' hp hp'⟩

end StyledCode.Reference
