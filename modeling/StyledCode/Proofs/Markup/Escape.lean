import StyledCode.Markup.Tree
import StyledCode.Proofs.Reference.Pieces

/-!
# Escaped text

* `escapeChar_cases` : in markup a character stands for itself and is no `&`, or a reference stands for it
* `bracket_not_mem_escaped` : there is no `<` in escaped text
* `expand_map_escapedRun` : the references of escaped runs are replaced by the characters that were escaped, and a
  reference is never found in the characters of several runs
-/

namespace StyledCode.Markup

open Reference

/-- In markup a character stands for itself and is no `&`, or a reference stands for it. -/
theorem escapeChar_cases (c : Char) :
    escapeChar c = [c] ∧ c ≠ '&' ∨ IsReference (escapeChar c) ∧ decode? (escapeChar c) = some c := by
  unfold escapeChar
  split
  · exact .inr ⟨isReference_name "amp".toList (by decide) rfl, rfl⟩
  · exact .inr ⟨isReference_name "lt".toList (by decide) rfl, rfl⟩
  · exact .inr ⟨isReference_name "gt".toList (by decide) rfl, rfl⟩
  · exact .inr ⟨isReference_name "apos".toList (by decide) rfl, rfl⟩
  · exact .inr ⟨isReference_name "quot".toList (by decide) rfl, rfl⟩
  · rename_i hamp _ _ _ _
    exact .inl ⟨rfl, hamp⟩

theorem escapeChar_ne_nil (c : Char) : escapeChar c ≠ [] := by
  rcases escapeChar_cases c with ⟨h, -⟩ | ⟨h, -⟩
  · rw [h]
    exact List.cons_ne_nil _ _
  · obtain ⟨mark, name, -, -, -, heq⟩ := h
    rw [heq]
    exact List.cons_ne_nil _ _

private theorem bracket_not_mem_escapeChar (c : Char) : '<' ∉ escapeChar c := by
  unfold escapeChar
  split
  case h_6 hlt _ _ _ =>
    intro h
    exact hlt (List.mem_singleton.1 h).symm
  all_goals decide

/-- There is no `<` in escaped text. -/
theorem bracket_not_mem_escaped (text : List Char) : '<' ∉ text.flatMap escapeChar := by
  intro h
  obtain ⟨c, -, hc⟩ := List.mem_flatMap.1 h
  exact bracket_not_mem_escapeChar c hc

theorem escaped_ne_nil {text : List Char} (h : text ≠ []) : text.flatMap escapeChar ≠ [] := by
  cases text with
  | nil => exact absurd rfl h
  | cons c text =>
    rw [List.flatMap_cons]
    exact List.append_ne_nil_of_left_ne_nil (escapeChar_ne_nil c) _

/-! ### Escaped runs -/

/-- A run with its text escaped. -/
def escapedRun (run : Run) : Run := { run with text := escape run.text }

/-- The cells of a character as it stands in markup. -/
private def escapedCell (cell : Cell) : List Cell := (escapeChar cell.glyph).map fun c => { cell with glyph := c }

private theorem glyphs_escapedCell (cell : Cell) : (escapedCell cell).map Cell.glyph = escapeChar cell.glyph := by
  rw [escapedCell, List.map_map]
  exact List.map_id _

private theorem toCells_escapedRun (run : Run) (number : Nat) :
    (escapedRun run).toCells number = (run.toCells number).flatMap escapedCell := by
  rw [Run.toCells, Run.toCells, escapedRun, escape, String.toList_ofList, List.map_flatMap, List.flatMap_map]
  rfl

private theorem cells_map_escapedRun (runs : List Run) :
    Run.cells (runs.map escapedRun) = (Run.cells runs).flatMap escapedCell := by
  rw [Run.cells, List.zipIdx_map, List.flatMap_map, Run.cells, List.flatMap_assoc]
  simp only [← toCells_escapedRun]
  rfl

/-- Along the characters: what stands for each of them is one piece. -/
private theorem flatMap_cells_pieces_escaped (text : List Cell) :
    (pieces Cell.glyph (text.flatMap escapedCell)).flatMap Piece.cells = text := by
  induction text with
  | nil => rw [List.flatMap_nil, pieces_nil]; rfl
  | cons cell text ih =>
    rw [List.flatMap_cons]
    rcases escapeChar_cases cell.glyph with ⟨h, hne⟩ | ⟨h, hc⟩
    · have hcell : escapedCell cell = [cell] := by rw [escapedCell, h]; rfl
      have htake : take? Cell.glyph (cell :: text.flatMap escapedCell) = none := if_neg hne
      rw [hcell, List.singleton_append, pieces_kept htake, List.flatMap_cons, ih]
      rfl
    · -- the reference is one piece, whatever text follows it
      rw [← glyphs_escapedCell] at h hc
      rw [pieces_replaced h hc, List.flatMap_cons, ih]
      cases hcells : escapedCell cell with
      | nil => rw [hcells] at h; exact absurd h.three_le_length (by decide)
      | cons first rest =>
        have hfirst : first ∈ escapedCell cell := by rw [hcells]; exact List.mem_cons_self
        obtain ⟨c, -, rfl⟩ := List.mem_map.1 hfirst
        rfl

/-- The references of escaped runs are replaced by the characters that were escaped. -/
theorem expand_map_escapedRun {runs : List Run} (h : ∀ run ∈ runs, run.text ≠ "") :
    expand (runs.map escapedRun) = runs := by
  have hescaped : ∀ run ∈ runs.map escapedRun, run.text ≠ "" := by
    intro run hrun
    obtain ⟨run, hmem, rfl⟩ := List.mem_map.1 hrun
    have hne := escaped_ne_nil (mt String.toList_eq_nil_iff.1 (h run hmem))
    exact fun hempty => hne (String.ofList_eq_empty_iff.1 hempty)
  rw [expand_eq_ofCells hescaped, cells_map_escapedRun, flatMap_cells_pieces_escaped, Run.ofCells_cells h]

end StyledCode.Markup
