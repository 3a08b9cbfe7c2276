import Mathlib.Algebra.Ring.Nat
import StyledCode.Proofs.Terminal.Visible

/-!
# Wrapped lines

Where a line has a width, nothing that is shown goes beyond it, and filled lines end exactly there.  The invariant
of the layout is that its column is what the open line measures, and never more than the width.

* `Ruled` : a text of which no line goes beyond a limit, and the column behind it
* `Ruled.splitOn_eq` : the lines of such a text
* `Ruled.typesetOne`, `Ruled.typesetFrom` : one character, and a text, is set within the limit
* `wrapped_lines` : the lines that a terminal shows of runs
-/

namespace StyledCode.Terminal

/-- The number of columns that characters take. -/
def textWidth (measure : Char → Nat) (text : List Char) : Nat := (text.map measure).sum

/-- No line of a text goes beyond a limit, and its last line leads to a column; if lines are filled, all others reach
the limit. -/
inductive Ruled (measure : Char → Nat) (limit : Nat) (filled : Bool) : List Char → Nat → Prop
  | start : Ruled measure limit filled [] 0
  | more {shown more : List Char} {column : Nat} : Ruled measure limit filled shown column → '\n' ∉ more →
      column + textWidth measure more ≤ limit →
      Ruled measure limit filled (shown ++ more) (column + textWidth measure more)
  | lineEnd {shown : List Char} {column : Nat} : Ruled measure limit filled shown column →
      (filled = true → column = limit) → Ruled measure limit filled (shown ++ ['\n']) 0

variable {measure : Char → Nat}

private theorem textWidth_append (text text' : List Char) :
    textWidth measure (text ++ text') = textWidth measure text + textWidth measure text' := by
  simp [textWidth]

private theorem splitOn_closed {closed : List (List Char)} {current : List Char}
    (hclosed : ∀ line ∈ closed, '\n' ∉ line) (hcurrent : '\n' ∉ current) :
    (closed.flatMap (· ++ ['\n']) ++ current).splitOn '\n' = closed ++ [current] := by
  induction closed with
  | nil => exact List.splitOn_eq_singleton hcurrent
  | cons line closed ih =>
    obtain ⟨hline, hclosed⟩ := List.forall_mem_cons.1 hclosed
    have hparts : (line :: closed).flatMap (· ++ ['\n']) ++ current =
        line ++ '\n' :: (closed.flatMap (· ++ ['\n']) ++ current) := by simp
    rw [hparts, List.splitOn_append_cons_self_of_not_mem hline, ih hclosed, List.cons_append]

namespace Ruled

variable {limit : Nat} {filled : Bool} {shown : List Char} {column : Nat}

theorem column_le (h : Ruled measure limit filled shown column) : column ≤ limit := by
  cases h with
  | start => omega
  | more _ _ hle => exact hle
  | lineEnd => omega

private theorem eq_closed (h : Ruled measure limit filled shown column) :
    ∃ (closed : List (List Char)) (current : List Char), shown = closed.flatMap (· ++ ['\n']) ++ current ∧
      (∀ line ∈ closed, '\n' ∉ line ∧ textWidth measure line ≤ limit ∧
        (filled = true → textWidth measure line = limit)) ∧
      '\n' ∉ current ∧ textWidth measure current = column := by
  induction h with
  | start => exact ⟨[], [], rfl, by simp, by simp, rfl⟩
  | @more shown more column _ hmore _ ih =>
    obtain ⟨closed, current, rfl, hclosed, hcurrent, rfl⟩ := ih
    refine ⟨closed, current ++ more, List.append_assoc .., hclosed, ?_, textWidth_append current more⟩
    rw [List.mem_append, not_or]
    exact ⟨hcurrent, hmore⟩
  | @lineEnd shown column h hfilled ih =>
    have hle := h.column_le
    obtain ⟨closed, current, rfl, hclosed, hcurrent, rfl⟩ := ih
    refine ⟨closed ++ [current], [], by simp, ?_, by simp, rfl⟩
    rw [List.forall_mem_append, List.forall_mem_singleton]
    exact ⟨hclosed, hcurrent, hle, hfilled⟩

/-- The lines of a ruled text: those that are closed, and the one that is still open. -/
theorem splitOn_eq (h : Ruled measure limit filled shown column) :
    ∃ closed current, shown.splitOn '\n' = closed ++ [current] ∧
      (∀ line ∈ closed, textWidth measure line ≤ limit ∧ (filled = true → textWidth measure line = limit)) ∧
      textWidth measure current = column := by
  obtain ⟨closed, current, rfl, hclosed, hcurrent, hcolumn⟩ := h.eq_closed
  exact ⟨closed, current, splitOn_closed (fun line hline => (hclosed line hline).1) hcurrent,
    fun line hline => (hclosed line hline).2, hcolumn⟩

/-! ### What the layout shows -/

variable {layout : Layout}

section Spaces

variable (hspace : measure ' ' = 1)

include hspace

private theorem spaces (h : Ruled measure limit filled shown column) {count : Nat} (hle : column + count ≤ limit) :
    Ruled measure limit filled (shown ++ List.replicate count ' ') (column + count) := by
  have hwidth : textWidth measure (List.replicate count ' ') = count := by simp [textWidth, hspace]
  have hfeed : '\n' ∉ List.replicate count ' ' := by simp
  have hmore := h.more hfeed (by omega)
  rwa [hwidth] at hmore

variable (hlimit : layout.columnLimit? = some limit)

include hlimit

/-- A filled line is filled up to the limit, since its column is not beyond it. -/
private theorem fill (h : Ruled measure limit layout.filled shown column) :
    Ruled measure limit layout.filled (shown ++ List.replicate (layout.lacking column) ' ')
        (column + layout.lacking column) ∧
      (layout.filled = true → column + layout.lacking column = limit) := by
  have hle := h.column_le
  have hlacking : layout.lacking column = if layout.filled then limit - column else 0 := by
    rw [Layout.lacking, hlimit]
    rfl
  cases hfilled : layout.filled with
  | true =>
    have hcount : column + layout.lacking column = limit := by
      rw [hlacking, if_pos hfilled]
      omega
    rw [hfilled] at h
    exact ⟨h.spaces hspace (by omega), fun _ => hcount⟩
  | false =>
    have hcount : layout.lacking column = 0 := by rw [hlacking, hfilled]; rfl
    rw [hfilled] at h
    exact ⟨h.spaces hspace (by omega), nofun⟩

private theorem breakLine (h : Ruled measure limit layout.filled shown column) :
    Ruled measure limit layout.filled (shown ++ (List.replicate (layout.lacking column) ' ' ++ ['\n'])) 0 := by
  obtain ⟨hfill, hreached⟩ := h.fill hspace hlimit
  rw [← List.append_assoc]
  exact hfill.lineEnd hreached

variable {c : Char}

omit hlimit in
private theorem drawn (h : Ruled measure limit layout.filled shown column) (hfeed : c ≠ '\n')
    (hle : column + layout.advance measure column c ≤ limit) :
    Ruled measure limit layout.filled (shown ++ layout.drawn column c)
      (column + layout.advance measure column c) := by
  unfold Layout.drawn
  unfold Layout.advance at hle ⊢
  split
  · rename_i htab
    rw [if_pos htab] at hle
    exact h.spaces hspace hle
  · rename_i htab
    rw [if_neg htab] at hle
    have hwidth : textWidth measure [c] = measure c := by simp [textWidth]
    have hfeed : '\n' ∉ [c] := by simpa using Ne.symm hfeed
    have hmore := h.more hfeed (by omega)
    rwa [hwidth] at hmore

variable (htab : layout.margin + max layout.tabWidth 1 ≤ limit)

include htab

omit hspace hlimit in
/-- Behind a margin, and nothing more, there is room for a character. -/
private theorem room (hc : c ≠ '\t' → layout.margin + measure c ≤ limit) (hmargin : column ≤ layout.margin) :
    column + layout.advance measure column c ≤ limit := by
  unfold Layout.advance
  split
  · have hstop : layout.toTabStop column ≤ max layout.tabWidth 1 := (layout.toTabStop_spec column).2.1
    omega
  · rename_i hne
    have := hc hne
    omega

private theorem typesetInLine (h : Ruled measure limit layout.filled shown column)
    (hc : c ≠ '\t' → layout.margin + measure c ≤ limit) :
    Ruled measure limit layout.filled (shown ++ (layout.typesetInLine measure column c).1)
      (layout.typesetInLine measure column c).2 := by
  have hle := h.column_le
  unfold Layout.typesetInLine
  split
  · exact h.breakLine hspace hlimit
  · rename_i hfeed
    split
    · rwa [List.append_nil]
    · split
      · -- the character moves to the next line, where nothing but the margin stands before it
        have hmargin : 0 + layout.margin ≤ limit := by omega
        have hopen := (h.breakLine hspace hlimit).spaces hspace hmargin
        rw [Nat.zero_add] at hopen
        have hdrawn := hopen.drawn hspace hfeed (room htab hc (Nat.le_refl _))
        simpa only [List.append_assoc] using hdrawn
      · rename_i hoverflows
        refine h.drawn hspace hfeed ?_
        by_cases hmargin : column ≤ layout.margin
        · exact room htab hc hmargin
        · simp [Layout.overflows, hlimit] at hoverflows
          omega

theorem typesetOne (h : Ruled measure limit layout.filled shown column)
    (hc : c ≠ '\t' → layout.margin + measure c ≤ limit) :
    Ruled measure limit layout.filled (shown ++ (layout.typesetOne measure column c).1)
      (layout.typesetOne measure column c).2 := by
  unfold Layout.typesetOne
  split
  · rename_i hcolumn
    subst hcolumn
    have hmargin : 0 + layout.margin ≤ limit := by omega
    have hopen := h.spaces hspace hmargin
    rw [Nat.zero_add] at hopen
    rw [← List.append_assoc]
    exact hopen.typesetInLine hspace hlimit htab hc
  · exact h.typesetInLine hspace hlimit htab hc

theorem typesetFrom {text : List Char} (h : Ruled measure limit layout.filled shown column)
    (hfits : ∀ c ∈ text, c ≠ '\t' → layout.margin + measure c ≤ limit) :
    Ruled measure limit layout.filled (shown ++ (layout.typesetFrom measure column text).1)
      (layout.typesetFrom measure column text).2 := by
  induction text generalizing shown column with
  | nil => rwa [Layout.typesetFrom, List.append_nil]
  | cons c text ih =>
    obtain ⟨hc, hfits⟩ := List.forall_mem_cons.1 hfits
    rw [Layout.typesetFrom, ← List.append_assoc]
    exact ih (h.typesetOne hspace hlimit htab hc) hfits

/-- The last line is filled up if it is not empty. -/
private theorem typeset {text : List Char} (hfits : ∀ c ∈ text, c ≠ '\t' → layout.margin + measure c ≤ limit) :
    ∃ last, Ruled measure limit layout.filled (layout.typeset measure text) last ∧
      (layout.filled = true → last = limit ∨ last = 0) := by
  have hall := Ruled.start.typesetFrom hspace hlimit htab hfits
  rw [List.nil_append] at hall
  rw [Layout.typeset]
  split
  · rename_i hzero
    rw [List.replicate_zero, List.append_nil]
    exact ⟨_, hall, fun _ => .inr hzero⟩
  · obtain ⟨hfill, hreached⟩ := hall.fill hspace hlimit
    exact ⟨_, hfill, fun hfilled => .inl (hreached hfilled)⟩

end Spaces

end Ruled

/-- Where a space takes one column, and there is room behind the margin for every character and for a tab, no line
that is shown takes more columns than it has.  If lines are filled, every line that is closed takes exactly that
many, and the last one as many or none.  But for spaces, tabs and line ends the text is shown as it is. -/
theorem wrapped_lines {measure : Char → Nat} (hspace : measure ' ' = 1) {options : Options} {width : Nat}
    (hwidth : options.width = some width)
    (htab : options.margin + max options.tabWidth 1 ≤ max width leastWidth) {runs : List Run}
    (hescape : ∀ run ∈ runs, '\x1b' ∉ run.text.toList)
    (hfits : ∀ run ∈ runs, ∀ c ∈ run.text.toList, c ≠ '\t' → options.margin + measure c ≤ max width leastWidth) :
    let shown := visible (Command.written (commands measure options runs)).toList
    let lines := shown.splitOn '\n'
    (∀ line ∈ lines, textWidth measure line ≤ max width leastWidth) ∧
      (options.filled = true →
        (∀ line ∈ lines.dropLast, textWidth measure line = max width leastWidth) ∧
          ∀ line ∈ lines.getLast?, textWidth measure line = max width leastWidth ∨ textWidth measure line = 0) ∧
      shown.filter isInk = (Run.plainText runs).toList.filter isInk := by
  intro shown lines
  have hshown : shown = options.toLayout.typeset measure (Run.plainText runs).toList :=
    visible_commands measure options (Run.not_mem_plainText_iff.2 hescape)
  have hlimit : options.columnLimit? = some (max width leastWidth) := by
    rw [Layout.columnLimit?, hwidth]
    rfl
  have htext : ∀ c ∈ (Run.plainText runs).toList, c ≠ '\t' → options.margin + measure c ≤ max width leastWidth := by
    intro c hc
    rw [Run.toList_plainText, List.mem_flatMap] at hc
    obtain ⟨run, hrun, hmem⟩ := hc
    exact hfits run hrun c hmem
  obtain ⟨last, hruled, hlast⟩ := Ruled.typeset hspace hlimit htab htext
  rw [← hshown] at hruled
  have hle := hruled.column_le
  obtain ⟨closed, current, hlines, hclosed, rfl⟩ := hruled.splitOn_eq
  have hlines : lines = closed ++ [current] := hlines
  refine ⟨?_, fun hfilled => ⟨?_, ?_⟩, ?_⟩
  · rw [hlines, List.forall_mem_append, List.forall_mem_singleton]
    exact ⟨fun line hline => (hclosed line hline).1, hle⟩
  · rw [hlines, List.dropLast_concat]
    exact fun line hline => (hclosed line hline).2 hfilled
  · rw [hlines, List.getLast?_concat]
    rintro line hline
    obtain rfl := Option.some.inj hline
    exact hlast hfilled
  · rw [hshown]
    exact options.toLayout.filter_isInk_typeset measure _

private theorem columns_le_three (c : Char) : columns c ≤ 3 := by
  unfold columns
  dsimp only
  repeat' split
  all_goals omega

/-- A line of the least width with room for a tab and nothing more: wide characters, a combining accent, tabs and
carriage returns, over a run boundary. -/
theorem wrapped_lines_least :
    let bold : Font := ⟨"courier", .bold, 14⟩
    let options : Options := { width := some 4, filled := true, margin := 2, tabWidth := 8 }
    let runs : List Run := [⟨"你好世界\te\u0301\t", ⟨bold, some .white, none⟩⟩, ⟨"\r\nif x\t\tthen", ⟨bold, none, none⟩⟩]
    let shown := visible (render options runs).toList
    let lines := shown.splitOn '\n'
    columns ' ' = 1 ∧ options.width = some 4 ∧ options.margin + max options.tabWidth 1 ≤ max 4 leastWidth ∧
      (∀ run ∈ runs, '\x1b' ∉ run.text.toList) ∧
      (∀ run ∈ runs, ∀ c ∈ run.text.toList, c ≠ '\t' → options.margin + columns c ≤ max 4 leastWidth) ∧
      (∀ line ∈ lines, textWidth columns line ≤ 10) ∧
      (∀ line ∈ lines.dropLast, textWidth columns line = 10) ∧
      (∀ line ∈ lines.getLast?, textWidth columns line = 10 ∨ textWidth columns line = 0) ∧
      shown.filter isInk = "你好世界e\u0301ifxthen".toList := by
  intro bold options runs shown lines
  have hspace : columns ' ' = 1 := by decide
  have hescape : ∀ run ∈ runs, '\x1b' ∉ run.text.toList := by decide
  have hfits : ∀ run ∈ runs, ∀ c ∈ run.text.toList, c ≠ '\t' → options.margin + columns c ≤ max 4 leastWidth := by
    intro run _ c _ _
    have hthree := columns_le_three c
    simp only [options, leastWidth]
    omega
  obtain ⟨hwithin, hfilled, hink⟩ := wrapped_lines hspace (rfl : options.width = some 4) (by decide) hescape hfits
  obtain ⟨hclosed, hlast⟩ := hfilled rfl
  exact ⟨hspace, rfl, by decide, hescape, hfits, hwithin, hclosed, hlast, hink.trans (by decide)⟩

end StyledCode.Terminal
