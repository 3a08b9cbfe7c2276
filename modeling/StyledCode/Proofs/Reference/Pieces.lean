import StyledCode.Proofs.Reference.Shape
import StyledCode.Proofs.Run.Cells
import StyledCode.Reference.Expand

/-!
# Texts in pieces

* `pieces_induction` : the induction along the pieces of a text
* `shown` : what the pieces put in place of each character of the text
* `length_shown`, `any_isReplaced_iff` : one entry for each character, an empty one where a reference is replaced
* `flatMap_cells_pieces` : the cells of the pieces are the cells of the text with these characters in their place
-/

namespace StyledCode.Reference

variable {α : Type} {glyph : α → Char}

/-! ### Induction along the pieces -/

private theorem piecesFrom_done (done : List (Piece α)) (text : List α) :
    piecesFrom glyph done text = done.reverse ++ pieces glyph text := by
  unfold pieces
  cases text with
  | nil => simp [piecesFrom]
  | cons a rest =>
    rw [piecesFrom, piecesFrom]
    split
    · rw [piecesFrom_done, piecesFrom_done [_]]
      simp
    · rename_i reference after h
      have : after.length < rest.length + 1 := length_lt_of_take? glyph h
      split
      · rw [piecesFrom_done, piecesFrom_done [_]]
        simp
      · rw [piecesFrom_done, piecesFrom_done (_ ++ [])]
        simp
termination_by text.length

theorem pieces_nil : pieces glyph [] = [] := by
  rw [pieces, piecesFrom]
  rfl

theorem pieces_kept {a : α} {rest : List α} (h : take? glyph (a :: rest) = none) :
    pieces glyph (a :: rest) = .kept a :: pieces glyph rest := by
  rw [pieces, piecesFrom]
  split
  · exact piecesFrom_done _ _
  · simp_all

private theorem pieces_taken {text reference after : List α} (h : take? glyph text = some (reference, after)) :
    pieces glyph text =
      ((decode? (reference.map glyph)).elim (reference.map .kept) fun c => [.replaced reference c]) ++
        pieces glyph after := by
  cases text with
  | nil => contradiction
  | cons a rest =>
    rw [pieces, piecesFrom]
    split
    · simp_all
    · rename_i reference' after' htake
      obtain ⟨rfl, rfl⟩ := Prod.mk.inj (Option.some.inj (h.symm.trans htake))
      cases decode? (reference.map glyph) with
      | some c => exact piecesFrom_done _ _
      | none =>
        rw [List.append_nil]
        simp only []
        rw [piecesFrom_done, List.reverse_reverse]
        rfl

theorem pieces_replaced {reference after : List α} {c : Char} (h : IsReference (reference.map glyph))
    (hc : decode? (reference.map glyph) = some c) :
    pieces glyph (reference ++ after) = .replaced reference c :: pieces glyph after := by
  rw [pieces_taken (take?_append h after), hc]
  rfl

theorem pieces_unknown {reference after : List α} (h : IsReference (reference.map glyph))
    (hc : decode? (reference.map glyph) = none) :
    pieces glyph (reference ++ after) = reference.map .kept ++ pieces glyph after := by
  rw [pieces_taken (take?_append h after), hc]
  rfl

/-- A property of texts holds if it passes from what follows a piece to what follows the piece before. -/
@[elab_as_elim]
theorem pieces_induction (glyph : α → Char) {motive : List α → Prop} (nil : motive [])
    (kept : ∀ a rest, take? glyph (a :: rest) = none → motive rest → motive (a :: rest))
    (replaced : ∀ reference after c, IsReference (reference.map glyph) →
      decode? (reference.map glyph) = some c → motive after → motive (reference ++ after))
    (unknown : ∀ reference after, IsReference (reference.map glyph) → decode? (reference.map glyph) = none →
      motive after → motive (reference ++ after))
    (text : List α) : motive text := by
  cases text with
  | nil => exact nil
  | cons a rest =>
    cases htake : take? glyph (a :: rest) with
    | none => exact kept a rest htake (pieces_induction glyph nil kept replaced unknown rest)
    | some taken =>
      obtain ⟨reference, after⟩ := taken
      have : after.length < rest.length + 1 := length_lt_of_take? glyph htake
      have ih := pieces_induction glyph nil kept replaced unknown after
      obtain ⟨htext, hreference⟩ := take?_iff.1 htake
      rw [htext]
      cases hc : decode? (reference.map glyph) with
      | none => exact unknown reference after hreference hc ih
      | some c => exact replaced reference after c hreference hc ih
termination_by text.length

/-! ### What the pieces show -/

/-- What a piece puts in place of each character it covers: a reference shows its character in place of its first
one, and nothing in place of the others. -/
def Piece.shown (glyph : α → Char) : Piece α → List (List Char)
  | .kept a => [[glyph a]]
  | .replaced reference c => [c] :: List.replicate (reference.length - 1) []

/-- What the pieces of a text put in place of each of its characters. -/
def shown (glyph : α → Char) (text : List α) : List (List Char) :=
  (pieces glyph text).flatMap (Piece.shown glyph)

theorem shown_nil : shown glyph [] = [] := by rw [shown, pieces_nil]; rfl

theorem shown_kept {a : α} {rest : List α} (h : take? glyph (a :: rest) = none) :
    shown glyph (a :: rest) = [glyph a] :: shown glyph rest := by
  rw [shown, pieces_kept h]
  rfl

theorem shown_replaced {reference after : List α} {c : Char} (h : IsReference (reference.map glyph))
    (hc : decode? (reference.map glyph) = some c) :
    shown glyph (reference ++ after) = [c] :: List.replicate (reference.length - 1) [] ++ shown glyph after := by
  rw [shown, pieces_replaced h hc]
  rfl

theorem shown_unknown {reference after : List α} (h : IsReference (reference.map glyph))
    (hc : decode? (reference.map glyph) = none) :
    shown glyph (reference ++ after) = (reference.map fun a => [glyph a]) ++ shown glyph after := by
  rw [shown, pieces_unknown h hc, List.flatMap_append, List.flatMap_map]
  congr 1
  exact List.map_eq_flatMap.symm

/-- There is one entry for each character. -/
theorem length_shown (text : List α) : (shown glyph text).length = text.length := by
  induction text using pieces_induction glyph with
  | nil => simp [shown_nil]
  | kept a rest h ih => rw [shown_kept h, List.length_cons, List.length_cons, ih]
  | replaced reference after c h hc ih =>
    have := h.three_le_length
    rw [List.length_map] at this
    rw [shown_replaced h hc, List.length_append, List.length_append, ih, List.length_cons, List.length_replicate]
    omega
  | unknown reference after h hc ih =>
    rw [shown_unknown h hc, List.length_append, List.length_append, ih, List.length_map]

/-- A reference is replaced if nothing stands in place of some character, and only then. -/
theorem any_isReplaced_iff (text : List α) :
    (pieces glyph text).any Piece.isReplaced = true ↔ [] ∈ shown glyph text := by
  induction text using pieces_induction glyph with
  | nil => simp [shown_nil, pieces_nil]
  | kept a rest h ih => simp [shown_kept h, pieces_kept h, Piece.isReplaced, ih]
  | replaced reference after c h hc ih =>
    have := h.three_le_length
    rw [List.length_map] at this
    have hne : reference.length - 1 ≠ 0 := by omega
    simp [shown_replaced h hc, pieces_replaced h hc, Piece.isReplaced, List.mem_replicate, hne]
  | unknown reference after h hc ih => simp [shown_unknown h hc, pieces_unknown h hc, Piece.isReplaced, ih]

/-- The cells of the pieces are the cells of the text with the characters they show in their place. -/
theorem flatMap_cells_pieces (text : List Cell) :
    (pieces Cell.glyph text).flatMap Piece.cells = Run.edit text (shown Cell.glyph text) := by
  induction text using pieces_induction Cell.glyph with
  | nil => rw [pieces_nil]; rfl
  | kept a rest h ih =>
    rw [pieces_kept h, shown_kept h, Run.edit_cons, ← ih]
    rfl
  | replaced reference after c h hc ih =>
    have hlen : reference.length = ([c] :: List.replicate (reference.length - 1) []).length := by
      have := h.three_le_length
      rw [List.length_map] at this
      rw [List.length_cons, List.length_replicate]
      omega
    rw [pieces_replaced h hc, shown_replaced h hc, Run.edit_append hlen, ← ih, List.flatMap_cons]
    congr 1
    cases reference with
    | nil => simp at hlen
    | cons first reference =>
      rw [List.length_cons, Nat.add_sub_cancel, Run.edit_cons, Run.edit_replicate_nil]
      rfl
  | unknown reference after h hc ih =>
    rw [pieces_unknown h hc, shown_unknown h hc, Run.edit_append (by simp), ← ih, Run.edit_self,
      List.flatMap_append, List.flatMap_map]
    congr 1
    exact List.flatMap_singleton' _

private theorem flatMap_source_pieces (text : List α) : (pieces glyph text).flatMap Piece.source = text := by
  induction text using pieces_induction glyph with
  | nil => rw [pieces_nil]; rfl
  | kept a rest h ih => rw [pieces_kept h, List.flatMap_cons, ih]; rfl
  | replaced reference after c h hc ih => rw [pieces_replaced h hc, List.flatMap_cons, ih]; rfl
  | unknown reference after h hc ih =>
    rw [pieces_unknown h hc, List.flatMap_append, ih, List.flatMap_map]
    congr 1
    exact List.flatMap_singleton' _

/-- Runs that are not empty are put together from the cells of the pieces, also where nothing is replaced. -/
theorem expand_eq_ofCells {runs : List Run} (h : ∀ run ∈ runs, run.text ≠ "") :
    expand runs = Run.ofCells ((pieces Cell.glyph (Run.cells runs)).flatMap Piece.cells) := by
  by_cases hany : (pieces Cell.glyph (Run.cells runs)).any Piece.isReplaced = true
  · rw [expand, if_pos hany]
  · have hkept : (pieces Cell.glyph (Run.cells runs)).flatMap Piece.cells =
        (pieces Cell.glyph (Run.cells runs)).flatMap Piece.source := by
      refine List.flatMap_congr fun piece hpiece => ?_
      cases piece with
      | kept a => rfl
      | replaced reference c => exact absurd (List.any_eq_true.2 ⟨_, hpiece, rfl⟩) hany
    rw [expand, if_neg hany, hkept, flatMap_source_pieces, Run.ofCells_cells h]

end StyledCode.Reference
