import Mathlib.Data.List.SplitBy
import StyledCode.Run

/-!
# Runs through their cells

What becomes of runs when their cells are changed and put together again, said of the runs and of positions in their
joined text.

* `glyphs_cells` : the characters of the cells are the joined text
* `ofCells_append` : neighbouring cells of one run are put together, and kept apart from the other runs
* `ofCells_cells` : cells put together again are the runs, if none of them is empty
* `plainText_ofCells` : cells put together show the characters of the cells
* `between`, `ofCells_between` : the part of runs from one position to another
* `substitute`, `ofCells_edit` : runs with other characters in place of each of theirs
-/

namespace StyledCode.Run

/-- The cells of runs that are numbered from some number on. -/
private def cellsFrom (number : Nat) (runs : List Run) : List Cell :=
  (runs.zipIdx number).flatMap fun (run, number) => run.toCells number

private theorem cellsFrom_cons (number : Nat) (run : Run) (runs : List Run) :
    cellsFrom number (run :: runs) = run.toCells number ++ cellsFrom (number + 1) runs := by
  simp [cellsFrom, List.zipIdx_cons]

private theorem length_toCells (run : Run) (number : Nat) : (run.toCells number).length = run.text.length := by
  rw [toCells, List.length_map, String.length_toList]

private theorem glyphs_toCells (run : Run) (number : Nat) :
    (run.toCells number).map Cell.glyph = run.text.toList := by
  rw [toCells, List.map_map]
  exact List.map_id _

private theorem run_of_mem_toCells {run : Run} {number : Nat} {cell : Cell} (h : cell ∈ run.toCells number) :
    cell.run = number := by
  obtain ⟨c, -, rfl⟩ := List.mem_map.1 h
  rfl

private theorem le_run_of_mem_cellsFrom {number : Nat} {runs : List Run} {cell : Cell}
    (h : cell ∈ cellsFrom number runs) : number ≤ cell.run := by
  induction runs generalizing number with
  | nil => contradiction
  | cons run runs ih =>
    rw [cellsFrom_cons, List.mem_append] at h
    rcases h with h | h
    · exact Nat.le_of_eq (run_of_mem_toCells h).symm
    · exact Nat.le_of_succ_le (ih h)

theorem toList_plainText_cons (run : Run) (runs : List Run) :
    (plainText (run :: runs)).toList = run.text.toList ++ (plainText runs).toList := by
  simp [plainText, String.join_cons]

theorem mem_plainText_iff {c : Char} {runs : List Run} :
    c ∈ (plainText runs).toList ↔ ∃ run ∈ runs, c ∈ run.text.toList := by
  induction runs with
  | nil => simp [plainText]
  | cons run runs ih => simp [toList_plainText_cons, ih]

private theorem glyphs_cellsFrom (number : Nat) (runs : List Run) :
    (cellsFrom number runs).map Cell.glyph = (plainText runs).toList := by
  induction runs generalizing number with
  | nil => simp [cellsFrom, plainText]
  | cons run runs ih =>
    rw [cellsFrom_cons, List.map_append, ih, glyphs_toCells, toList_plainText_cons]

/-- The characters of the cells are the joined text. -/
theorem glyphs_cells (runs : List Run) : (cells runs).map Cell.glyph = (plainText runs).toList :=
  glyphs_cellsFrom 0 runs

/-! ### Cells put together -/

/-- A run with another text, or no run in place of an empty text. -/
def showing? (run : Run) (text : List Char) : Option Run :=
  if text = [] then none else some ⟨String.ofList text, run.style⟩

theorem showing?_text (run : Run) (h : run.text ≠ "") : run.showing? run.text.toList = some run := by
  have hne : run.text.toList ≠ [] := fun hnil => h (String.toList_eq_nil_iff.1 hnil)
  rw [showing?, if_neg hne, String.ofList_toList]

private theorem ofGroup?_map (run : Run) (number : Nat) (text : List Char) :
    ofGroup? (text.map fun c => (⟨c, number, run.style⟩ : Cell)) = run.showing? text := by
  cases text with
  | nil => rfl
  | cons c text => simp [ofGroup?, showing?, Function.comp_def]

/-- Neighbouring cells of one run are put together, and kept apart from the cells of other runs. -/
theorem ofCells_append {block rest : List Cell} {number : Nat} (hblock : ∀ a ∈ block, a.run = number)
    (hrest : ∀ a ∈ rest, a.run ≠ number) :
    ofCells (block ++ rest) = (ofGroup? block).toList ++ ofCells rest := by
  cases block with
  | nil => rfl
  | cons first block =>
    have hchain : (first :: block).IsChain fun a b => (a.run == b.run) = true := by
      refine List.Pairwise.isChain (List.pairwise_of_forall_mem_list fun a ha b hb => ?_)
      rw [beq_iff_eq, hblock a ha, hblock b hb]
    have hborder : ∀ a ∈ (first :: block).getLast?, ∀ b ∈ rest.head?, (a.run == b.run) = false := by
      intro a ha b hb
      rw [hblock a (List.mem_of_mem_getLast? ha), beq_eq_false_iff_ne]
      exact (hrest b (List.mem_of_mem_head? hb)).symm
    unfold ofCells
    rw [List.splitBy_append hborder, List.splitBy_of_isChain (List.cons_ne_nil _ _) hchain, List.filterMap_append]
    rfl

private theorem ofCells_block (run : Run) (number : Nat) (text : List Char) {rest : List Cell}
    (h : ∀ a ∈ rest, number + 1 ≤ a.run) :
    ofCells ((text.map fun c => (⟨c, number, run.style⟩ : Cell)) ++ rest) =
      (run.showing? text).toList ++ ofCells rest := by
  have hblock : ∀ a ∈ text.map fun c => (⟨c, number, run.style⟩ : Cell), a.run = number := by
    intro a ha
    obtain ⟨c, -, rfl⟩ := List.mem_map.1 ha
    rfl
  rw [ofCells_append hblock fun a ha => Nat.ne_of_gt (h a ha), ofGroup?_map]

private theorem ofCells_cellsFrom (number : Nat) {runs : List Run} (h : ∀ run ∈ runs, run.text ≠ "") :
    ofCells (cellsFrom number runs) = runs := by
  induction runs generalizing number with
  | nil => rfl
  | cons run runs ih =>
    rw [List.forall_mem_cons] at h
    rw [cellsFrom_cons, toCells, ofCells_block run number _ fun a ha => le_run_of_mem_cellsFrom ha, ih _ h.2,
      showing?_text run h.1]
    rfl

/-- The cells of runs put together again are the runs, if none of them is empty. -/
theorem ofCells_cells {runs : List Run} (h : ∀ run ∈ runs, run.text ≠ "") : ofCells (cells runs) = runs :=
  ofCells_cellsFrom 0 h

private theorem plainText_filterMap (groups : List (List Cell)) :
    (plainText (groups.filterMap ofGroup?)).toList = groups.flatten.map Cell.glyph := by
  induction groups with
  | nil => simp [plainText]
  | cons group groups ih =>
    cases group with
    | nil => exact ih
    | cons cell group =>
      have hcons : ((cell :: group) :: groups).filterMap ofGroup? =
          ⟨String.ofList ((cell :: group).map (·.glyph)), cell.style⟩ :: groups.filterMap ofGroup? := rfl
      rw [hcons, List.flatten_cons, List.map_append, ← ih]
      simp [plainText, String.join_cons]

/-- Cells put together show the characters of the cells. -/
theorem plainText_ofCells (cells : List Cell) : (plainText (ofCells cells)).toList = cells.map Cell.glyph := by
  rw [ofCells, plainText_filterMap, List.flatten_splitBy]

/-! ### Parts of runs -/

/-- What runs show from one position of their joined text up to another: of each run that has characters there,
these characters. -/
def between (start stop : Nat) : List Run → List Run
  | [] => []
  | run :: runs =>
    (run.showing? ((run.text.toList.take stop).drop start)).toList ++
      between (start - run.text.length) (stop - run.text.length) runs

theorem text_ne_of_showing? {run shown : Run} {text : List Char} (h : run.showing? text = some shown) :
    shown.text ≠ "" := by
  unfold showing? at h
  split at h
  · contradiction
  · rename_i hne
    obtain rfl := Option.some.inj h
    exact fun hempty => hne (String.ofList_eq_empty_iff.1 hempty)

/-- No run of a part is empty. -/
theorem text_ne_of_mem_between {start stop : Nat} {runs : List Run} {run : Run} (h : run ∈ between start stop runs) :
    run.text ≠ "" := by
  induction runs generalizing start stop with
  | nil => contradiction
  | cons first runs ih =>
    rw [between, List.mem_append] at h
    rcases h with h | h
    · exact text_ne_of_showing? (Option.mem_toList.1 h)
    · exact ih h

private theorem ofCells_cellsFrom_between (number start stop : Nat) (runs : List Run) :
    ofCells (((cellsFrom number runs).take stop).drop start) = between start stop runs := by
  induction runs generalizing number start stop with
  | nil => simp [cellsFrom, between, ofCells]
  | cons run runs ih =>
    -- if the part ends in this run, nothing is left of the runs behind it, wherever it begins
    have hdrop : start - min stop run.text.length = start - run.text.length ∨ stop - run.text.length = 0 := by
      omega
    have hrest : ((cellsFrom (number + 1) runs).take (stop - run.text.length)).drop
        (start - min stop run.text.length) =
          ((cellsFrom (number + 1) runs).take (stop - run.text.length)).drop (start - run.text.length) := by
      rcases hdrop with h | h
      · rw [h]
      · rw [h]; simp
    rw [cellsFrom_cons, List.take_append, List.drop_append, List.length_take, length_toCells, hrest, between, ← ih,
      toCells, ← List.map_take, ← List.map_drop]
    apply ofCells_block
    intro a ha
    exact le_run_of_mem_cellsFrom (List.mem_of_mem_take (List.mem_of_mem_drop ha))

/-- A part of the cells put together is a part of the runs. -/
theorem ofCells_between (start stop : Nat) (runs : List Run) :
    ofCells (((cells runs).take stop).drop start) = between start stop runs :=
  ofCells_cellsFrom_between 0 start stop runs

/-! ### Runs with other characters -/

/-- Cells with other characters in place of each of theirs. -/
def edit (cells : List Cell) (outs : List (List Char)) : List Cell :=
  (cells.zip outs).flatMap fun (cell, out) => out.map fun c => { cell with glyph := c }

/-- Runs with other characters in place of each of theirs: a run that ends up empty is dropped. -/
def substitute : List Run → List (List Char) → List Run
  | [], _ => []
  | run :: runs, outs =>
    (run.showing? (outs.take run.text.length).flatten).toList ++ substitute runs (outs.drop run.text.length)

theorem edit_append {cells cells' : List Cell} {outs outs' : List (List Char)} (h : cells.length = outs.length) :
    edit (cells ++ cells') (outs ++ outs') = edit cells outs ++ edit cells' outs' := by
  rw [edit, List.zip_append h, List.flatMap_append]
  rfl

theorem edit_cons (cell : Cell) (cells : List Cell) (out : List Char) (outs : List (List Char)) :
    edit (cell :: cells) (out :: outs) = (out.map fun c => { cell with glyph := c }) ++ edit cells outs := by
  rw [edit, List.zip_cons_cons, List.flatMap_cons]
  rfl

/-- Cells with their own characters in place of them. -/
theorem edit_self (cells : List Cell) : edit cells (cells.map fun cell => [cell.glyph]) = cells := by
  induction cells with
  | nil => rfl
  | cons cell cells ih =>
    rw [List.map_cons, edit_cons, ih]
    rfl

/-- Cells with nothing in place of them. -/
theorem edit_replicate_nil (cells : List Cell) : edit cells (List.replicate cells.length []) = [] := by
  induction cells with
  | nil => rfl
  | cons cell cells ih =>
    rw [List.length_cons, List.replicate_succ, edit_cons, ih]
    rfl

private theorem edit_toCells (run : Run) (number : Nat) {outs : List (List Char)}
    (h : outs.length = run.text.length) :
    edit (run.toCells number) outs = outs.flatten.map fun c => (⟨c, number, run.style⟩ : Cell) := by
  rw [← String.length_toList] at h
  unfold toCells
  generalize run.text.toList = text at h
  induction text generalizing outs with
  | nil =>
    obtain rfl := List.length_eq_zero_iff.1 h
    rfl
  | cons c text ih =>
    cases outs with
    | nil => contradiction
    | cons out outs => rw [List.map_cons, edit_cons, ih (Nat.succ.inj h), List.flatten_cons, List.map_append]

private theorem le_run_of_mem_edit {number : Nat} {runs : List Run} {outs : List (List Char)} {cell : Cell}
    (h : cell ∈ edit (cellsFrom number runs) outs) : number ≤ cell.run := by
  obtain ⟨⟨a, out⟩, hmem, ha⟩ := List.mem_flatMap.1 h
  obtain ⟨c, -, rfl⟩ := List.mem_map.1 ha
  have hle : number ≤ a.run := le_run_of_mem_cellsFrom (List.of_mem_zip hmem).1
  exact hle

private theorem ofCells_edit_cellsFrom (number : Nat) (runs : List Run) {outs : List (List Char)}
    (h : outs.length = (cellsFrom number runs).length) :
    ofCells (edit (cellsFrom number runs) outs) = substitute runs outs := by
  induction runs generalizing number outs with
  | nil => simp [cellsFrom, edit, substitute, ofCells]
  | cons run runs ih =>
    rw [cellsFrom_cons, List.length_append, length_toCells] at h
    have htake : (outs.take run.text.length).length = run.text.length := by rw [List.length_take]; omega
    have hdrop : (outs.drop run.text.length).length = (cellsFrom (number + 1) runs).length := by
      rw [List.length_drop]; omega
    -- only the characters of this run go into its block
    nth_rewrite 1 [← List.take_append_drop run.text.length outs]
    rw [cellsFrom_cons, edit_append (by rw [length_toCells, htake]), edit_toCells run number htake,
      ofCells_block run number _ fun a ha => le_run_of_mem_edit ha, ih _ hdrop, substitute]

/-- Edited cells put together are runs with other characters. -/
theorem ofCells_edit {runs : List Run} {outs : List (List Char)} (h : outs.length = (cells runs).length) :
    ofCells (edit (cells runs) outs) = substitute runs outs :=
  ofCells_edit_cellsFrom 0 runs h

end StyledCode.Run
