import Mathlib.Data.List.Induction
import StyledCode.Proofs.Markup.OpenTags
import StyledCode.Proofs.Theme.Composition

/-!
# Scopes opened and closed

What becomes of scopes when they are opened and closed in any order, also where there is nothing to close.

* `Move`, `Scopes.follow` : scopes opened and closed one after the other
* `Balanced`, `unmatched` : moves that close what they open, and what moves open and do not close, told without scopes
* `Scopes.follow_initial` : the scopes after some moves are those that the moves leave open
* `Scopes.follow_balanced` : balanced moves bring back the scopes they began with
* `Scopes.composed_follow` : the style kept by the scopes is composed of the classes that are still open
-/

namespace StyledCode.Markup

/-- A scope is opened or closed. -/
inductive Move
  | push (classes : String)
  | pop
  deriving DecidableEq, Repr

namespace Scopes

def move (scopes : Scopes) : Move → Scopes
  | .push classes => scopes.push classes
  | .pop => scopes.pop

/-- The scopes after some moves. -/
def follow (scopes : Scopes) (moves : List Move) : Scopes := moves.foldl move scopes

theorem follow_append (scopes : Scopes) (moves moves' : List Move) :
    scopes.follow (moves ++ moves') = (scopes.follow moves).follow moves' := List.foldl_append

theorem follow_cons (scopes : Scopes) (m : Move) (moves : List Move) :
    scopes.follow (m :: moves) = (scopes.move m).follow moves := rfl

end Scopes

/-! ### Moves that match -/

/-- Moves that close every scope they open, and no other one. -/
inductive Balanced : List Move → Prop
  | nil : Balanced []
  | around {classes : String} {inner rest : List Move} : Balanced inner → Balanced rest →
      Balanced (.push classes :: (inner ++ .pop :: rest))

/-- The first moves are balanced, and the next one closes a scope that was open before them. -/
def Closes (moves : List Move) : Prop := ∃ inner rest, Balanced inner ∧ moves = inner ++ .pop :: rest

/-- The number of moves that close a scope which was open before. -/
private def surplus : List Move → Nat
  | [] => 0
  | .push _ :: moves => surplus moves - 1
  | .pop :: moves => surplus moves + 1

private theorem surplus_balanced {inner : List Move} (h : Balanced inner) (rest : List Move) :
    surplus (inner ++ rest) = surplus rest := by
  induction h generalizing rest with
  | nil => rfl
  | around _ _ ih ih' =>
    rw [List.cons_append, List.append_assoc, surplus, ih, List.cons_append, surplus, ih', Nat.add_sub_cancel]

private theorem closes_of_surplus {moves : List Move} (h : 0 < surplus moves) : Closes moves := by
  match moves, h with
  | .pop :: rest, _ => exact ⟨[], rest, .nil, rfl⟩
  | .push classes :: moves, h =>
    rw [surplus] at h
    -- one of the moves closes this scope, and one of those behind it another one
    obtain ⟨inner, rest, hinner, rfl⟩ := closes_of_surplus (show 0 < surplus moves by omega)
    rw [surplus_balanced hinner, surplus, Nat.add_sub_cancel] at h
    obtain ⟨inner', rest', hinner', rfl⟩ := closes_of_surplus h
    exact ⟨.push classes :: (inner ++ .pop :: inner'), rest', .around hinner hinner', by simp⟩
termination_by moves.length

private theorem closes_iff {moves : List Move} : Closes moves ↔ 0 < surplus moves := by
  constructor
  · rintro ⟨inner, rest, hinner, rfl⟩
    rw [surplus_balanced hinner]
    exact Nat.succ_pos _
  · exact closes_of_surplus

instance : DecidablePred Closes := fun _ => decidable_of_iff _ closes_iff.symm

/-- The class attributes of the scopes that moves open and do not close, outermost first. -/
def unmatched : List Move → List String
  | [] => []
  | .push classes :: moves => if Closes moves then unmatched moves else classes :: unmatched moves
  | .pop :: moves => unmatched moves

example : unmatched [.pop, .push "a", .push "b", .push "c", .pop, .pop, .push ""] = ["a", ""] := by decide

/-! ### One more move -/

private theorem surplus_append_push (moves : List Move) (classes : String) :
    surplus (moves ++ [.push classes]) = surplus moves := by
  induction moves with
  | nil => rfl
  | cons m moves ih => cases m <;> rw [List.cons_append, surplus, surplus, ih]

theorem unmatched_append_push (moves : List Move) (classes : String) :
    unmatched (moves ++ [.push classes]) = unmatched moves ++ [classes] := by
  induction moves with
  | nil =>
    have hcloses : ¬ Closes [] := by decide
    exact if_neg hcloses
  | cons m moves ih =>
    cases m with
    | pop => exact ih
    | push outer =>
      simp only [List.cons_append, unmatched, closes_iff, surplus_append_push, ih]
      split <;> rfl

/-- A pop closes a scope that was open before, unless the moves before it leave one open. -/
private theorem surplus_append_pop (moves : List Move) :
    surplus (moves ++ [.pop]) = if unmatched moves = [] then surplus moves + 1 else surplus moves := by
  induction moves with
  | nil => rfl
  | cons m moves ih =>
    cases m with
    | pop =>
      rw [List.cons_append, surplus, ih, unmatched, surplus]
      split <;> rfl
    | push outer =>
      rw [List.cons_append, surplus, ih, unmatched, surplus]
      by_cases h : Closes moves
      · have hpos := closes_iff.1 h
        rw [if_pos h]
        split <;> omega
      · -- this scope is still open for the pop
        have hzero : surplus moves = 0 := Nat.eq_zero_of_not_pos (mt closes_iff.2 h)
        rw [if_neg h, if_neg (List.cons_ne_nil _ _), hzero]
        split <;> rfl

private theorem closes_append_pop (moves : List Move) :
    Closes (moves ++ [.pop]) ↔ Closes moves ∨ unmatched moves = [] := by
  rw [closes_iff, closes_iff, surplus_append_pop]
  split <;> simp_all

theorem unmatched_append_pop (moves : List Move) : unmatched (moves ++ [.pop]) = (unmatched moves).dropLast := by
  induction moves with
  | nil => rfl
  | cons m moves ih =>
    cases m with
    | pop => exact ih
    | push outer =>
      rw [List.cons_append, unmatched, unmatched, ih]
      by_cases h : Closes moves
      · rw [if_pos ((closes_append_pop moves).2 (.inl h)), if_pos h]
      · by_cases hnil : unmatched moves = []
        · rw [if_pos ((closes_append_pop moves).2 (.inr hnil)), if_neg h, hnil]
          rfl
        · have hneg : ¬ Closes (moves ++ [.pop]) := fun hpop => ((closes_append_pop moves).1 hpop).elim h hnil
          rw [if_neg hneg, if_neg h, List.dropLast_cons_of_ne_nil hnil]

/-! ### The scopes after some moves -/

namespace Scopes

/-- The scopes after some moves are those that the moves leave open. -/
theorem follow_initial (theme : Theme) (moves : List Move) :
    (initial theme).follow moves = ofTags theme (unmatched moves).reverse := by
  induction moves using List.reverseRecOn with
  | nil => rfl
  | append_singleton moves m ih =>
    rw [follow_append, ih]
    cases m with
    | push classes =>
      rw [unmatched_append_push, List.reverse_append]
      rfl
    | pop =>
      rw [unmatched_append_pop, ← List.tail_reverse]
      exact pop_ofTags theme _

/-- Balanced moves bring back the scopes they began with. -/
theorem follow_balanced (scopes : Scopes) {inner : List Move} (h : Balanced inner) : scopes.follow inner = scopes := by
  induction h generalizing scopes with
  | nil => rfl
  | around _ _ ih ih' =>
    rw [follow_cons, follow_append, ih, follow_cons, ih']
    exact pop_push scopes _

theorem classes_ofTags (theme : Theme) (tags : List String) :
    (ofTags theme tags).classes = baseClass :: tags.reverse := by
  have hopened : (ofTags theme tags).opened.map (·.classes) = tags := by
    induction tags with
    | nil => rfl
    | cons classes tags ih => exact congrArg (classes :: ·) ih
  rw [classes, List.map_reverse, hopened]
  rfl

private theorem depth_eq_length_classes (scopes : Scopes) : scopes.depth = scopes.classes.length := by
  simp [depth, classes]

private theorem depth_eq_one_iff (scopes : Scopes) : scopes.depth = 1 ↔ scopes.opened = [] := by
  simp [depth]

theorem pop?_eq_none_iff (scopes : Scopes) : scopes.pop? = none ↔ scopes.depth = 1 := by
  rw [depth_eq_one_iff, pop?]
  cases scopes.opened <;> simp

theorem pop_eq_self_iff (scopes : Scopes) : scopes.pop = scopes ↔ scopes.depth = 1 := by
  obtain ⟨theme, opened⟩ := scopes
  rw [depth_eq_one_iff]
  cases opened with
  | nil => exact iff_of_true rfl rfl
  | cons scope opened =>
    have hne : (⟨theme, opened⟩ : Scopes) ≠ ⟨theme, scope :: opened⟩ := fun h =>
      List.cons_ne_self scope opened (congrArg Scopes.opened h).symm
    exact iff_of_false hne (List.cons_ne_nil _ _)

/-- Opened and closed in any order, the scopes are the base scope and those that are still open.  Closing changes
nothing exactly when only the base scope is left.  The style is composed of all the classes that are open: the last
one that sets an attribute decides it.  Balanced moves in a scope of their own leave no trace. -/
theorem composed_follow (theme : Theme) (moves : List Move) :
    let scopes := (initial theme).follow moves
    let names := scopes.classes.flatMap classNames
    scopes.classes = baseClass :: unmatched moves ∧
      scopes.depth = 1 + (unmatched moves).length ∧
      (scopes.pop? = none ↔ scopes.depth = 1) ∧ (scopes.pop = scopes ↔ scopes.depth = 1) ∧
      scopes.style =
        { font := (theme.lastSet? Overlay.variant names).elim theme.fonts.base theme.fonts.get
          foreground := theme.lastSet? Overlay.foreground names
          background := theme.lastSet? Overlay.background names } ∧
      ∀ classes inner, Balanced inner →
        (initial theme).follow (moves ++ .push classes :: (inner ++ [.pop])) = scopes := by
  intro scopes names
  have hscopes : scopes = ofTags theme (unmatched moves).reverse := follow_initial theme moves
  have hclasses : scopes.classes = baseClass :: unmatched moves := by
    rw [hscopes, classes_ofTags, List.reverse_reverse]
  have hnames : names = namesInside (unmatched moves).reverse := by
    have hbase : classNames baseClass = [baseClass] := by decide
    rw [namesInside, List.reverse_reverse, show names = scopes.classes.flatMap classNames from rfl, hclasses,
      List.flatMap_cons, hbase]
    rfl
  refine ⟨hclasses, ?_, pop?_eq_none_iff scopes, pop_eq_self_iff scopes, ?_, ?_⟩
  · rw [depth_eq_length_classes, hclasses, List.length_cons, Nat.add_comm]
  · rw [hscopes, style_ofTags, styleInside, ← hnames, Theme.styleFor_eq]
  · intro classes inner hinner
    rw [follow_append]
    exact follow_balanced scopes (.around hinner .nil)

/-- Where there is nothing to close, closing does nothing, and what is opened and closed afterwards leaves no trace. -/
theorem composed_follow_nested :
    let regular : Font := ⟨"courier", .regular, 14⟩
    let theme : Theme := ⟨"plain", ⟨regular, regular, regular⟩, .white, [("b", { foreground := some .gray })], ""⟩
    let moves : List Move := [.pop, .push "a", .pop, .pop, .push "a  b", .push ""]
    ((initial theme).follow moves).classes = ["hljs", "a  b", ""] ∧
      ((initial theme).follow (moves ++ [.push "c", .push "d", .pop, .pop])).style = ⟨regular, some .gray, none⟩ := by
  intro regular theme moves
  obtain ⟨hclasses, -, -, -, hstyle, hbalanced⟩ := composed_follow theme moves
  have hclasses' := hclasses.trans (show _ = ["hljs", "a  b", ""] by decide)
  refine ⟨hclasses', (congrArg style (hbalanced "c" [.push "d", .pop] (.around .nil .nil))).trans ?_⟩
  rw [hstyle, hclasses']
  rfl

end Scopes

end StyledCode.Markup
