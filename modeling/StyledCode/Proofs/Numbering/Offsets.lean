import StyledCode.Proofs.Numbering.Lines
import StyledCode.Proofs.Reference.Offsets

/-!
# Lines by byte offsets

The line breaks can be found in the joined text by their offsets, and the lines be put together from parts of the
runs.  An offset in the joined text is one in a run by a difference of offsets, and a line break may reach into the
next run, or over several of them.

* `breakOffsets` : the offsets of the line breaks between pieces of a text
* `cutRun?`, `linesAt?` : the parts of one run that lie between line breaks, and the lines of all runs
* `linesAt?_eq` : every difference of offsets is one, every part that is asked for is there, and the lines are right
-/

namespace StyledCode.Run

open Text

/-- The offsets of the gaps between pieces of a text that begin at an offset. -/
def breakOffsets (gap offset : Nat) : List (List Char) → List Nat
  | [] | [_] => []
  | piece :: next :: pieces =>
    (offset + byteSize piece) :: breakOffsets gap (offset + byteSize piece + gap) (next :: pieces)

/-- The offsets of the line breaks of a text, from left to right. -/
def breaksAt (lineBreak text : String) : List Nat :=
  breakOffsets lineBreak.utf8ByteSize 0 (splitAround id lineBreak.toList text.toList)

/-- The part of a run between two offsets of the joined text, in which the run begins at a third. -/
def fragment? (run : Run) (start offset cut : Nat) : Option (List Run) :=
  if offset < cut then do
    let part ← slice? run.text (← minus? offset start) (← minus? cut start)
    return [⟨part, run.style⟩]
  else some []

/-- The parts of a run from an offset on between the line breaks that begin in it, the offset behind the last of them,
and the line breaks that are left. -/
def cutRun? (gap : Nat) (run : Run) (start offset consumed : Nat) :
    List Nat → Option (List (List Run) × Nat × List Nat)
  | [] => do return ([← fragment? run start offset (start + run.text.utf8ByteSize)], consumed, [])
  | cut :: breaks => do
    let stop := start + run.text.utf8ByteSize
    if offset < stop ∧ cut < stop then
      let fragment ← fragment? run start offset cut
      let (fragments, consumed, breaks) ← cutRun? gap run start (cut + gap) (cut + gap) breaks
      return (fragment :: fragments, consumed, breaks)
    else return ([← fragment? run start offset stop], consumed, cut :: breaks)

/-- Lines, and more of them of which the first goes on with the last of these. -/
def joinLines : List (List Run) → List (List Run) → List (List Run)
  | [], more => more
  | [line], [] => [line]
  | [line], next :: more => (line ++ next) :: more
  | line :: next :: lines, more => line :: joinLines (next :: lines) more

/-- The lines of runs that begin at an offset, of which the text up to another offset belongs to a line break. -/
def linesFrom? (gap start consumed : Nat) (breaks : List Nat) : List Run → Option (List (List Run))
  | [] => some [[]]
  | run :: runs => do
    let (fragments, consumed, breaks) ← cutRun? gap run start (max consumed start) consumed breaks
    return joinLines fragments (← linesFrom? gap (start + run.text.utf8ByteSize) consumed breaks runs)

/-- Runs split into lines by the offsets of the line breaks. -/
def linesAt? (lineBreak : String) (runs : List Run) : Option (List (List Run)) :=
  linesFrom? lineBreak.utf8ByteSize 0 0 (breaksAt lineBreak (plainText runs)) runs

/-! ### Parts of lines -/

/-- The parts of runs that lie in the pieces of their joined text, of which the first begins at a position. -/
def linesIn (gap position : Nat) (pieces : List (List Char)) (runs : List Run) : List (List Run) :=
  (spans gap position pieces).map fun span => between span.1 span.2 runs

private theorem linesIn_cons (gap position : Nat) (piece : List Char) (pieces : List (List Char)) (runs : List Run) :
    linesIn gap position (piece :: pieces) runs =
      between position (position + piece.length) runs :: linesIn gap (position + piece.length + gap) pieces runs :=
  rfl

private theorem spans_add (gap n position : Nat) (pieces : List (List Char)) :
    spans gap (n + position) pieces = (spans gap position pieces).map fun span => (n + span.1, n + span.2) := by
  induction pieces generalizing position with
  | nil => rfl
  | cons piece pieces ih =>
    rw [spans, spans, List.map_cons, ← ih]
    simp only [Nat.add_assoc]

/-- Nothing of a run lies in pieces behind it. -/
private theorem linesIn_add (gap position : Nat) (pieces : List (List Char)) (run : Run) (runs : List Run) :
    linesIn gap (run.text.length + position) pieces (run :: runs) = linesIn gap position pieces runs := by
  rw [linesIn, linesIn, spans_add, List.map_map]
  refine List.map_congr_left fun span _ => ?_
  have hnil : (run.text.toList.take (run.text.length + span.2)).drop (run.text.length + span.1) = [] := by
    rw [← String.length_toList, List.drop_eq_nil_iff, List.length_take]
    omega
  rw [Function.comp_apply, between, hnil]
  simp [showing?]

private theorem between_eq_nil {start stop : Nat} (h : stop ≤ start) (runs : List Run) :
    between start stop runs = [] := by
  induction runs generalizing start stop with
  | nil => rfl
  | cons run runs ih =>
    have hnil : (run.text.toList.take stop).drop start = [] := by
      rw [List.drop_eq_nil_iff, List.length_take]
      omega
    rw [between, hnil, ih (by omega)]
    simp [showing?]

/-! ### Parts of one run -/

variable {lineBreak : String} {run : Run} {front hidden later : List Char}

private theorem fragment?_eq {visible behind : List Char} (h : run.text.toList = hidden ++ visible ++ behind) :
    fragment? run (byteSize front) (byteSize (front ++ hidden)) (byteSize (front ++ hidden ++ visible)) =
      some (run.showing? visible).toList := by
  by_cases hnil : visible = []
  · rw [hnil, List.append_nil, fragment?, if_neg (Nat.lt_irrefl _)]
    rfl
  · have hlt : byteSize (front ++ hidden) < byteSize (front ++ hidden ++ visible) := by
      rw [byteSize_append _ visible]
      exact Nat.lt_add_of_pos_right (byteSize_pos hnil)
    have hstart : minus? (byteSize (front ++ hidden)) (byteSize front) = some (byteSize hidden) :=
      minus?_of_eq_add (byteSize_append _ _)
    have hstop : minus? (byteSize (front ++ hidden ++ visible)) (byteSize front) =
        some (byteSize hidden + byteSize visible) := by
      apply minus?_of_eq_add
      rw [byteSize_append, byteSize_append, Nat.add_assoc]
    rw [fragment?, if_pos hlt, hstart, hstop]
    simp [slice?_of_toList h rfl rfl, showing?, hnil]

/-- What becomes of a run that has some characters in front and begins with hidden ones, where pieces follow the
hidden characters: it is cut into fragments, other characters are hidden behind it, other pieces are left, and the
fragments are its parts of the lines. -/
def Cuts (lineBreak : String) (front : List Char) (run : Run) (later hidden : List Char) (consumed : Nat)
    (pieces : List (List Char)) : Prop :=
  ∃ fragments consumed' hidden' pieces',
    cutRun? lineBreak.utf8ByteSize run (byteSize front) (byteSize (front ++ hidden)) consumed
        (breakOffsets lineBreak.utf8ByteSize (byteSize (front ++ hidden)) pieces) =
      some (fragments, consumed',
        breakOffsets lineBreak.utf8ByteSize (byteSize (front ++ run.text.toList ++ hidden')) pieces') ∧
    later = hidden' ++ lineBreak.toList.intercalate pieces' ∧ pieces' ≠ [] ∧
    max consumed' (byteSize (front ++ run.text.toList)) = byteSize (front ++ run.text.toList ++ hidden') ∧
    fragments ≠ [] ∧
    ∀ runs, linesIn lineBreak.length hidden.length pieces (run :: runs) =
      joinLines fragments (linesIn lineBreak.length hidden'.length pieces' runs)

private theorem joinLines_nil {lines : List (List Run)} (h : lines ≠ []) : joinLines [[]] lines = lines := by
  cases lines with
  | nil => contradiction
  | cons line lines => rfl

private theorem joinLines_cons {line : List Run} {lines more : List (List Run)} (h : lines ≠ []) :
    joinLines (line :: lines) more = line :: joinLines lines more := by
  cases lines with
  | nil => contradiction
  | cons next lines => rfl

private theorem linesIn_ne_nil (gap position : Nat) {pieces : List (List Char)} (h : pieces ≠ []) (runs : List Run) :
    linesIn gap position pieces runs ≠ [] := by
  cases pieces with
  | nil => contradiction
  | cons piece pieces => exact List.cons_ne_nil _ _

/-- Where no line break begins in a run any more, the rest of it is one fragment. -/
private theorem cutRun?_of_le {gap offset consumed : Nat} {breaks : List Nat}
    (h : offset < byteSize (front ++ run.text.toList) →
      ∀ cut ∈ breaks.head?, byteSize (front ++ run.text.toList) ≤ cut) :
    cutRun? gap run (byteSize front) offset consumed breaks =
      (fragment? run (byteSize front) offset (byteSize (front ++ run.text.toList))).map ([·], consumed, breaks) := by
  cases breaks with
  | nil =>
    rw [cutRun?, ← byteSize_append_toList]
    cases fragment? run (byteSize front) offset (byteSize (front ++ run.text.toList)) <;> rfl
  | cons cut breaks =>
    have hnot : ¬ (offset < byteSize (front ++ run.text.toList) ∧ cut < byteSize (front ++ run.text.toList)) :=
      fun hlt => absurd hlt.2 (Nat.not_lt.2 (h hlt.1 cut rfl))
    rw [cutRun?, ← byteSize_append_toList, if_neg hnot]
    cases fragment? run (byteSize front) offset (byteSize (front ++ run.text.toList)) <;> rfl

private theorem cuts_hidden {behind : List Char} {consumed : Nat} {pieces : List (List Char)}
    (h : hidden = run.text.toList ++ behind) (hlater : later = behind ++ lineBreak.toList.intercalate pieces)
    (hne : pieces ≠ []) (hconsumed : max consumed (byteSize front) = byteSize (front ++ hidden)) :
    Cuts lineBreak front run later hidden consumed pieces := by
  have hfront : front ++ hidden = front ++ run.text.toList ++ behind := by rw [h, List.append_assoc]
  have hstart := byteSize_le_append front run.text.toList
  have hstop := byteSize_le_append (front ++ run.text.toList) behind
  have hfragment : fragment? run (byteSize front) (byteSize (front ++ run.text.toList ++ behind))
      (byteSize (front ++ run.text.toList)) = some [] := if_neg (Nat.not_lt.2 hstop)
  rw [hfront] at hconsumed
  refine ⟨[[]], consumed, behind, pieces, ?_, hlater, hne, ?_, by simp, fun runs => ?_⟩
  · rw [hfront, cutRun?_of_le fun hlt => absurd hlt (Nat.not_lt.2 hstop), hfragment]
    rfl
  · omega
  · rw [joinLines_nil (linesIn_ne_nil _ _ hne _), h, List.length_append, String.length_toList, linesIn_add]

private theorem linesIn_whole (gap : Nat) {visible behind : List Char} (h : run.text.toList = hidden ++ visible)
    (pieces : List (List Char)) (runs : List Run) :
    linesIn gap hidden.length ((visible ++ behind) :: pieces) (run :: runs) =
      joinLines [(run.showing? visible).toList] (linesIn gap 0 (behind :: pieces) runs) := by
  have hlength : run.text.length = hidden.length + visible.length := by
    rw [← String.length_toList, h, List.length_append]
  have hvisible :
      (run.text.toList.take (hidden.length + (visible ++ behind).length)).drop hidden.length = visible := by
    rw [List.take_of_length_le (by rw [String.length_toList, hlength, List.length_append]; omega), h,
      List.drop_left]
  have hstart : hidden.length - run.text.length = 0 := by omega
  have hstop : hidden.length + (visible ++ behind).length - run.text.length = 0 + behind.length := by
    rw [hlength, List.length_append]
    omega
  have htail : hidden.length + (visible ++ behind).length + gap = run.text.length + (0 + behind.length + gap) := by
    rw [hlength, List.length_append]
    omega
  rw [linesIn_cons, linesIn_cons, between, hvisible, hstart, hstop, htail, linesIn_add]
  rfl

/-- A run that ends in a piece, or where the piece ends, adds the rest of it to the line. -/
private theorem cuts_whole {visible behind : List Char} {consumed : Nat} {pieces : List (List Char)}
    (h : run.text.toList = hidden ++ visible) (hlater : later = lineBreak.toList.intercalate (behind :: pieces))
    (hconsumed : max consumed (byteSize front) = byteSize (front ++ hidden)) :
    Cuts lineBreak front run later hidden consumed ((visible ++ behind) :: pieces) := by
  have hfront : front ++ run.text.toList = front ++ hidden ++ visible := by rw [h, List.append_assoc]
  have hbreaks : breakOffsets lineBreak.utf8ByteSize (byteSize (front ++ hidden)) ((visible ++ behind) :: pieces) =
      breakOffsets lineBreak.utf8ByteSize (byteSize (front ++ run.text.toList)) (behind :: pieces) := by
    cases pieces with
    | nil => rfl
    | cons next pieces =>
      rw [breakOffsets, breakOffsets, byteSize_append visible, hfront, byteSize_append _ visible]
      simp only [Nat.add_assoc]
  have hhead : ∀ cut ∈ (breakOffsets lineBreak.utf8ByteSize (byteSize (front ++ run.text.toList))
      (behind :: pieces)).head?, byteSize (front ++ run.text.toList) ≤ cut := by
    intro cut hcut
    cases pieces with
    | nil => contradiction
    | cons next pieces =>
      obtain rfl := Option.some.inj hcut
      exact Nat.le_add_right _ _
  have hfragment : fragment? run (byteSize front) (byteSize (front ++ hidden)) (byteSize (front ++ run.text.toList)) =
      some (run.showing? visible).toList := by
    rw [hfront]
    exact fragment?_eq (by rw [h, List.append_nil])
  refine ⟨[(run.showing? visible).toList], consumed, [], behind :: pieces, ?_, hlater, by simp, ?_, by simp,
    fun runs => linesIn_whole _ h pieces runs⟩
  · rw [hbreaks, cutRun?_of_le fun _ => hhead, hfragment, List.append_nil]
    rfl
  · have hle := byteSize_le_append (front ++ hidden) visible
    rw [List.append_nil]
    rw [hfront]
    omega

private theorem linesIn_next (gap : Nat) {piece behind : List Char} (h : run.text.toList = hidden ++ piece ++ behind)
    (pieces : List (List Char)) (runs : List Run) :
    linesIn gap hidden.length (piece :: pieces) (run :: runs) =
      (run.showing? piece).toList :: linesIn gap (hidden.length + piece.length + gap) pieces (run :: runs) := by
  have hlength : run.text.length = hidden.length + piece.length + behind.length := by
    rw [← String.length_toList, h, List.length_append, List.length_append]
  have hpiece : (run.text.toList.take (hidden.length + piece.length)).drop hidden.length = piece := by
    rw [h, ← List.length_append, List.take_left, List.drop_left]
  rw [linesIn_cons, between, hpiece, between_eq_nil (by omega), List.append_nil]

private theorem Cuts.next {piece behind : List Char} {c : Char} {consumed : Nat} {pieces : List (List Char)}
    (h : run.text.toList = hidden ++ piece ++ c :: behind) (hne : pieces ≠ [])
    (hcuts : Cuts lineBreak front run later (hidden ++ piece ++ lineBreak.toList)
      (byteSize (front ++ (hidden ++ piece ++ lineBreak.toList))) pieces) :
    Cuts lineBreak front run later hidden consumed (piece :: pieces) := by
  obtain ⟨fragments, consumed', hidden', pieces', hcut, hlater, hne', hconsumed, hfragments, hlines⟩ := hcuts
  obtain ⟨next, pieces, rfl⟩ := List.exists_cons_of_ne_nil hne
  have hfront : front ++ run.text.toList = front ++ hidden ++ piece ++ c :: behind := by rw [h]; simp
  have hfragment : fragment? run (byteSize front) (byteSize (front ++ hidden)) (byteSize (front ++ hidden ++ piece)) =
      some (run.showing? piece).toList := fragment?_eq h
  have hgap : byteSize (front ++ hidden) + byteSize piece + lineBreak.utf8ByteSize =
      byteSize (front ++ (hidden ++ piece ++ lineBreak.toList)) := by
    rw [← List.append_assoc, byteSize_append_toList, ← List.append_assoc, byteSize_append _ piece]
  have hpos := byteSize_pos (List.cons_ne_nil c behind)
  have hstop : byteSize front + run.text.utf8ByteSize =
      byteSize (front ++ hidden) + byteSize piece + byteSize (c :: behind) := by
    rw [← byteSize_append_toList, hfront, byteSize_append, byteSize_append _ piece]
  refine ⟨(run.showing? piece).toList :: fragments, consumed', hidden', pieces', ?_, hlater, hne', hconsumed,
    by simp, fun runs => ?_⟩
  · rw [byteSize_append _ piece] at hfragment
    rw [breakOffsets, cutRun?, if_pos (by omega), hfragment, hgap]
    simp only [Option.bind_eq_bind, Option.bind_some, hcut]
    rfl
  · rw [linesIn_next _ h, joinLines_cons hfragments, ← hlines, List.length_append, List.length_append,
      String.length_toList]

/-- Every run is cut at the line breaks that begin in it. -/
private theorem cuts {consumed : Nat} {pieces : List (List Char)} (hne : pieces ≠ [])
    (h : run.text.toList ++ later = hidden ++ lineBreak.toList.intercalate pieces)
    (hconsumed : max consumed (byteSize front) = byteSize (front ++ hidden)) :
    Cuts lineBreak front run later hidden consumed pieces := by
  induction pieces generalizing hidden consumed with
  | nil => contradiction
  | cons piece pieces ih =>
    rcases List.append_eq_append_iff.1 h with ⟨behind, hhidden, hlater⟩ | ⟨visible, hvisible, hrest⟩
    · exact cuts_hidden hhidden hlater hne hconsumed
    · cases pieces with
      | nil =>
        -- no line break is left, so that the run ends in the last piece
        rw [List.intercalate_singleton] at hrest
        rw [hrest]
        exact cuts_whole hvisible List.intercalate_singleton.symm hconsumed
      | cons next pieces =>
        rw [List.intercalate_cons_cons, List.append_assoc] at hrest
        have hends : (∃ behind, piece = visible ++ behind ∧
              later = behind ++ (lineBreak.toList ++ lineBreak.toList.intercalate (next :: pieces))) ∨
            ∃ c behind, visible = piece ++ c :: behind := by
          rcases List.append_eq_append_iff.1 hrest with ⟨behind, hpiece, hlater⟩ | ⟨behind, hpiece, hlater⟩
          · cases behind with
            | nil => exact .inl ⟨[], by simp [hpiece], hlater.symm⟩
            | cons c behind => exact .inr ⟨c, behind, hpiece⟩
          · exact .inl ⟨behind, hpiece, hlater⟩
        -- a line break that begins where the run ends is left to the next run
        rcases hends with ⟨behind, rfl, hlater⟩ | ⟨c, behind, rfl⟩
        · refine cuts_whole hvisible ?_ hconsumed
          rw [List.intercalate_cons_cons, List.append_assoc, hlater]
        · rw [← List.append_assoc] at hvisible
          refine Cuts.next hvisible (List.cons_ne_nil next pieces) (ih (List.cons_ne_nil next pieces) ?_ ?_)
          · rw [h, List.intercalate_cons_cons]
            simp only [List.append_assoc]
          · exact Nat.max_eq_left (byteSize_le_append _ _)

/-! ### Lines of all runs -/

private theorem linesFrom?_eq {runs : List Run} {consumed : Nat} {pieces : List (List Char)} (hne : pieces ≠ [])
    (hbreak : lineBreak ≠ "") (h : (plainText runs).toList = hidden ++ lineBreak.toList.intercalate pieces)
    (hconsumed : max consumed (byteSize front) = byteSize (front ++ hidden)) :
    linesFrom? lineBreak.utf8ByteSize (byteSize front) consumed
        (breakOffsets lineBreak.utf8ByteSize (byteSize (front ++ hidden)) pieces) runs =
      some (linesIn lineBreak.length hidden.length pieces runs) := by
  induction runs generalizing front hidden consumed pieces with
  | nil =>
    obtain ⟨-, hnil⟩ := List.append_eq_nil_iff.1 h.symm
    have hbreak : lineBreak.toList ≠ [] := fun hnil => hbreak (String.toList_eq_nil_iff.1 hnil)
    match pieces with
    | [piece] => rfl
    | piece :: next :: pieces =>
      rw [List.intercalate_cons_cons] at hnil
      simp [hbreak] at hnil
  | cons run runs ih =>
    rw [toList_plainText_cons] at h
    obtain ⟨fragments, consumed', hidden', pieces', hcut, hlater, hne', hconsumed', -, hlines⟩ := cuts hne h hconsumed
    have hmore := ih hne' hlater hconsumed'
    rw [linesFrom?, hconsumed, hcut, hlines, ← byteSize_append_toList]
    simp only [Option.bind_eq_bind, Option.bind_some, hmore]
    rfl

/-- The lines put together by offsets are the lines of the runs. -/
theorem linesAt?_eq {lineBreak : String} (h : lineBreak ≠ "") (runs : List Run) :
    linesAt? lineBreak runs = some (lines lineBreak runs) := by
  have hne : lineBreak.toList ≠ [] := fun hnil => h (String.toList_eq_nil_iff.1 hnil)
  have hsplits := splits_linePieces h runs
  have hpieces : splitAround id lineBreak.toList (plainText runs).toList = linePieces lineBreak runs := by
    have hsplits' := @splits_splitAround _ id _ hne (plainText runs).toList
    simp only [List.map_id, List.map_id'] at hsplits'
    exact hsplits'.unique hsplits
  have hstart : max 0 (byteSize []) = byteSize ([] ++ []) := rfl
  have hlines := linesFrom?_eq hsplits.ne_nil h hsplits.eq_intercalate hstart
  rw [linesAt?, breaksAt, hpieces, lines_eq h]
  exact hlines

end StyledCode.Run

namespace StyledCode.Numbering

/-- Runs with every line numbered, where the lines are put together by offsets. -/
def numberAt? (numbering : Numbering) (runs : List Run) : Option (List Run) := do
  let lines ← Run.linesAt? numbering.lineBreak runs
  let width := numbering.digitWidth (UInt64.ofNat lines.length)
  return lines.zipIdx.flatMap fun (line, index) => numbering.numberLine width line index

private theorem numberAt?_eq (numbering : Numbering) (runs : List Run) :
    numbering.numberAt? runs = some (numbering.number runs) := by
  rw [numberAt?, Run.linesAt?_eq numbering.lineBreak_ne]
  rfl

/-- Whatever the markup, the runs and the line break: all parts and differences of offsets that are asked for to read
the markup, to replace the references, to find the lines and to number them are there, so that each gives its runs. -/
theorem at_offsets_eq (theme : Theme) (html : String) (runs : List Run) {lineBreak : String}
    (h : lineBreak ≠ "") (numbering : Numbering) :
    Markup.decodeAt? theme html = some (Markup.decode theme html) ∧
      Reference.expandAt? runs = some (Reference.expand runs) ∧
      Run.linesAt? lineBreak runs = some (Run.lines lineBreak runs) ∧
      numbering.numberAt? runs = some (numbering.number runs) :=
  ⟨Markup.decodeAt?_eq theme html, Reference.expandAt?_eq runs, Run.linesAt?_eq h runs, numberAt?_eq numbering runs⟩

/-- A reference across three runs, and a line break of which the parts are in two runs. -/
theorem at_offsets_eq_straddling :
    let regular : Style := ⟨⟨"courier", .regular, 14⟩, none, none⟩
    let bold : Style := ⟨⟨"courier", .bold, 14⟩, none, none⟩
    let theme : Theme :=
      ⟨"plain", ⟨regular.font, bold.font, regular.font⟩, .white, [("b", { variant := some .bold })], ""⟩
    let html := "é<span class=\"b\">&#252;¶</span>↵"
    let runs : List Run := [⟨"é&#2", regular⟩, ⟨"", bold⟩, ⟨"52;¶", bold⟩, ⟨"↵", regular⟩]
    "¶↵" ≠ "" ∧ Markup.decodeAt? theme html = some (Markup.decode theme html) ∧
      Reference.expandAt? runs = some [⟨"éü", regular⟩, ⟨"¶", bold⟩, ⟨"↵", regular⟩] ∧
      Run.linesAt? "¶↵" runs = some [[⟨"é&#2", regular⟩, ⟨"52;", bold⟩], []] := by
  intro regular bold theme html runs
  have hne : "¶↵" ≠ "" := by decide
  obtain ⟨hdecode, hexpand, hlines, -⟩ := at_offsets_eq theme html runs hne .standard
  refine ⟨hne, hdecode, hexpand.trans ?_, hlines.trans ?_⟩
  · decide +kernel
  · decide +kernel

end StyledCode.Numbering
