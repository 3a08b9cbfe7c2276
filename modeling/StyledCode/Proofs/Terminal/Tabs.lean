import StyledCode.Proofs.Terminal.Visible

/-!
# Tabs

What a terminal shows of runs is told by their joined text and by the layout.  Without a width and without a margin
it is the text itself, its carriage returns dropped and its tabs expanded.

* `Expands` : a text with its tabs expanded, from a column on
* `Expands.unique` : there is one way to expand a text
* `visible_of_plainText` : the same joined text is shown in the same way, with its tabs expanded
-/

namespace StyledCode.Terminal

/-- A text from a column on, its carriage returns dropped and each of its tabs replaced by the spaces, at least one
and at most as many as the distance of tab stops, that lead to the next multiple of that distance.  A column is the
sum of what the characters since the last line feed measure. -/
inductive Expands (measure : Char → Nat) (distance : Nat) : Nat → List Char → List Char → Prop
  | done {column : Nat} : Expands measure distance column [] []
  | lineFeed {column : Nat} {text shown : List Char} : Expands measure distance 0 text shown →
      Expands measure distance column ('\n' :: text) ('\n' :: shown)
  | carriageReturn {column : Nat} {text shown : List Char} : Expands measure distance column text shown →
      Expands measure distance column ('\r' :: text) shown
  | tab {column count : Nat} {text shown : List Char} : 1 ≤ count → count ≤ distance → distance ∣ column + count →
      Expands measure distance (column + count) text shown →
      Expands measure distance column ('\t' :: text) (List.replicate count ' ' ++ shown)
  | glyph {column : Nat} {c : Char} {text shown : List Char} : c ≠ '\n' → c ≠ '\r' → c ≠ '\t' →
      Expands measure distance (column + measure c) text shown →
      Expands measure distance column (c :: text) (c :: shown)

variable {measure : Char → Nat}

private theorem count_unique {distance column count count' : Nat} (hpos : 1 ≤ count) (hle : count ≤ distance)
    (hdvd : distance ∣ column + count) (hpos' : 1 ≤ count') (hle' : count' ≤ distance)
    (hdvd' : distance ∣ column + count') : count = count' := by
  have hsub := Nat.dvd_sub hdvd hdvd'
  have hsub' := Nat.dvd_sub hdvd' hdvd
  rw [Nat.add_sub_add_left] at hsub hsub'
  have hzero := Nat.eq_zero_of_dvd_of_lt hsub (by omega)
  have hzero' := Nat.eq_zero_of_dvd_of_lt hsub' (by omega)
  omega

/-- There is one way to expand a text. -/
theorem Expands.unique {distance column : Nat} {text shown shown' : List Char}
    (h : Expands measure distance column text shown) (h' : Expands measure distance column text shown') :
    shown = shown' := by
  induction h generalizing shown' with
  | done =>
    cases h'
    rfl
  | lineFeed _ ih =>
    cases h' with
    | lineFeed h' => rw [ih h']
    | glyph hfeed => exact absurd rfl hfeed
  | carriageReturn _ ih =>
    cases h' with
    | carriageReturn h' => exact ih h'
    | glyph _ hreturn => exact absurd rfl hreturn
  | tab hpos hle hdvd _ ih =>
    cases h' with
    | tab hpos' hle' hdvd' h' =>
      obtain rfl := count_unique hpos hle hdvd hpos' hle' hdvd'
      rw [ih h']
    | glyph _ _ htab => exact absurd rfl htab
  | glyph hfeed hreturn htab _ ih =>
    cases h' with
    | lineFeed => exact absurd rfl hfeed
    | carriageReturn => exact absurd rfl hreturn
    | tab => exact absurd rfl htab
    | glyph _ _ _ h' => rw [ih h']

/-! ### Lines as long as they are -/

section Unbounded

variable {layout : Layout} (hwidth : layout.width = none) (hmargin : layout.margin = 0)

include hwidth

private theorem lacking_eq_zero (column : Nat) : layout.lacking column = 0 := by
  simp [Layout.lacking, Layout.columnLimit?, hwidth]

include hmargin

private theorem typesetOne_unbounded (column : Nat) (c : Char) :
    layout.typesetOne measure column c =
      if c = '\n' then (['\n'], 0) else if c = '\r' then ([], column)
      else (layout.drawn column c, column + layout.advance measure column c) := by
  have hfits : ∀ column width, layout.overflows column width = false := by
    simp [Layout.overflows, Layout.columnLimit?, hwidth]
  have hinLine : ∀ column, layout.typesetInLine measure column c =
      if c = '\n' then (['\n'], 0) else if c = '\r' then ([], column)
      else (layout.drawn column c, column + layout.advance measure column c) := by
    simp [Layout.typesetInLine, lacking_eq_zero hwidth, hfits]
  unfold Layout.typesetOne
  split
  · rename_i hcolumn
    rw [hmargin, hinLine, hcolumn]
    rfl
  · exact hinLine column

private theorem expands_typesetFrom (column : Nat) (text : List Char) :
    Expands measure (max layout.tabWidth 1) column text (layout.typesetFrom measure column text).1 := by
  induction text generalizing column with
  | nil => exact .done
  | cons c text ih =>
    rw [Layout.typesetFrom, typesetOne_unbounded hwidth hmargin]
    by_cases hfeed : c = '\n'
    · subst hfeed
      exact .lineFeed (ih 0)
    · by_cases hreturn : c = '\r'
      · subst hreturn
        exact .carriageReturn (ih column)
      · rw [if_neg hfeed, if_neg hreturn]
        by_cases htab : c = '\t'
        · subst htab
          obtain ⟨hpos, hle, hdvd⟩ := layout.toTabStop_spec column
          exact .tab hpos hle hdvd (ih _)
        · simp only [Layout.drawn, Layout.advance, if_neg htab]
          exact .glyph hfeed hreturn htab (ih _)

theorem expands_iff (text shown : List Char) :
    Expands measure (max layout.tabWidth 1) 0 text shown ↔ layout.typeset measure text = shown := by
  have htypeset : layout.typeset measure text = (layout.typesetFrom measure 0 text).1 := by
    simp [Layout.typeset, lacking_eq_zero hwidth]
  have hexpands : Expands measure (max layout.tabWidth 1) 0 text (layout.typeset measure text) := by
    rw [htypeset]
    exact expands_typesetFrom hwidth hmargin 0 text
  constructor
  · exact fun h => hexpands.unique h
  · rintro rfl
    exact hexpands

end Unbounded

/-- Runs with the same joined text are shown as the same text under the same layout, wherever they begin, whatever
their styles and on any background.  Without a width and without a margin this is their joined text, its carriage
returns dropped and its tabs expanded. -/
theorem visible_of_plainText (measure : Char → Nat) {options options' : Options} {runs runs' : List Run}
    (hescape : ∀ run ∈ runs, '\x1b' ∉ run.text.toList) (htext : Run.plainText runs = Run.plainText runs')
    (hlayout : options.toLayout = options'.toLayout) :
    visible (Command.written (commands measure options runs)).toList =
        visible (Command.written (commands measure options' runs')).toList ∧
      (options.width = none → options.margin = 0 → ∀ shown,
        Expands measure (max options.tabWidth 1) 0 (Run.plainText runs).toList shown ↔
          visible (Command.written (commands measure options runs)).toList = shown) := by
  have hplain : '\x1b' ∉ (Run.plainText runs).toList := Run.not_mem_plainText_iff.2 hescape
  have hshown := visible_commands measure options hplain
  have hshown' := visible_commands measure options' (htext ▸ hplain)
  refine ⟨?_, fun hwidth hmargin shown => ?_⟩
  · rw [hshown, hshown', htext, hlayout]
  · rw [hshown]
    exact expands_iff hwidth hmargin _ shown

/-- A tab behind a wide character, and one whose column is counted over a run boundary. -/
theorem visible_of_plainText_wide :
    let bold : Font := ⟨"courier", .bold, 14⟩
    let runs : List Run := [⟨"你\t", ⟨bold, some .white, none⟩⟩, ⟨"", ⟨bold, none, none⟩⟩,
      ⟨"\t\r\nx", ⟨bold, none, some .gray⟩⟩]
    let runs' : List Run := [⟨"你\t\t\r\nx", ⟨bold, none, none⟩⟩]
    (∀ run ∈ runs, '\x1b' ∉ run.text.toList) ∧ Run.plainText runs = Run.plainText runs' ∧
      ({ background := some .black } : Options).toLayout = ({} : Options).toLayout ∧
      visible (render { background := some .black } runs).toList = visible (render {} runs').toList ∧
      visible (render { background := some .black } runs).toList =
        '你' :: (List.replicate 2 ' ' ++ (List.replicate 4 ' ' ++ ['\n', 'x'])) := by
  intro bold runs runs'
  have hescape : ∀ run ∈ runs, '\x1b' ∉ run.text.toList := by decide
  have htext : Run.plainText runs = Run.plainText runs' := by decide
  have hlayout : ({ background := some .black } : Options).toLayout = ({} : Options).toLayout := rfl
  obtain ⟨hsame, hexpands⟩ := visible_of_plainText columns hescape htext hlayout
  refine ⟨hescape, htext, hlayout, hsame, (hexpands rfl rfl _).1 ?_⟩
  have hplain : (Run.plainText runs).toList = ['你', '\t', '\t', '\r', '\n', 'x'] := by decide
  rw [hplain]
  exact .glyph (by decide) (by decide) (by decide) (.tab (by decide) (by decide) (by decide)
    (.tab (by decide) (by decide) (by decide) (.carriageReturn (.lineFeed
      (.glyph (by decide) (by decide) (by decide) .done)))))

end StyledCode.Terminal
