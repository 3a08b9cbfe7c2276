import StyledCode.Proofs.Terminal.Painting

/-!
# Visible text

Once its control sequences are removed, what is sent for runs is a text of its own.  It is the joined text of the
runs, typeset by the layout alone: where the runs begin and how they look makes no difference.

* `visible` : a text without its control sequences
* `Layout.typeset` : a text as a layout shows it
* `Layout.toTabStop_spec` : where the next tab stop is
* `Layout.filter_isInk_typeset` : typesetting changes nothing but spaces, tabs and line ends
* `shownBy_commands` : the commands for runs show their joined text, typeset
* `visible_commands` : so does the text that these commands are written as
-/

namespace StyledCode

theorem Run.toList_plainText (runs : List Run) : (plainText runs).toList = runs.flatMap (·.text.toList) := by
  rw [plainText, String.toList_join, List.flatMap_map]

theorem Run.not_mem_plainText_iff {c : Char} {runs : List Run} :
    c ∉ (plainText runs).toList ↔ ∀ run ∈ runs, c ∉ run.text.toList := by
  rw [toList_plainText, List.mem_flatMap]
  simp

namespace Terminal

/-- A text without its control sequences: the characters that a terminal shows of it. -/
def visible (text : List Char) : List Char := (({} : Screen).read text).shown.map (·.1)

/-- The characters that a command shows. -/
def Command.shown : Command → List Char
  | select _ => []
  | glyph c => [c]
  | blank => [' ']
  | lineFeed => ['\n']

/-- The characters that commands show. -/
def shownBy (commands : List Command) : List Char := commands.flatMap Command.shown

/-- Whether a character is anything but a space, a tab or a character that ends lines. -/
def isInk (c : Char) : Bool := c ∉ [' ', '\t', '\r', '\n']

namespace Layout

/-- The number of spaces that fill a line up from a column. -/
def lacking (layout : Layout) (column : Nat) : Nat :=
  if layout.filled then layout.columnLimit?.getD 0 - column else 0

/-- What a character shows at a column where it fits. -/
def drawn (layout : Layout) (column : Nat) (c : Char) : List Char :=
  if c = '\t' then List.replicate (layout.toTabStop column) ' ' else [c]

/-- What a character shows behind an open margin, and the column after it. -/
def typesetInLine (measure : Char → Nat) (layout : Layout) (column : Nat) (c : Char) : List Char × Nat :=
  if c = '\n' then (List.replicate (layout.lacking column) ' ' ++ ['\n'], 0)
  else if c = '\r' then ([], column)
  else if layout.overflows column (layout.advance measure column c) then
    (List.replicate (layout.lacking column) ' ' ++ ['\n'] ++
        (List.replicate layout.margin ' ' ++ layout.drawn layout.margin c),
      layout.margin + layout.advance measure layout.margin c)
  else (layout.drawn column c, column + layout.advance measure column c)

/-- What a character shows, and the column after it. -/
def typesetOne (measure : Char → Nat) (layout : Layout) (column : Nat) (c : Char) : List Char × Nat :=
  if column = 0 then
    (List.replicate layout.margin ' ' ++ (layout.typesetInLine measure layout.margin c).1,
      (layout.typesetInLine measure layout.margin c).2)
  else layout.typesetInLine measure column c

/-- What a text shows from a column on, and the column after it. -/
def typesetFrom (measure : Char → Nat) (layout : Layout) : Nat → List Char → List Char × Nat
  | column, [] => ([], column)
  | column, c :: text =>
    let one := layout.typesetOne measure column c
    let more := layout.typesetFrom measure one.2 text
    (one.1 ++ more.1, more.2)

/-- What a text shows; a last line that is not empty is filled up as well. -/
def typeset (measure : Char → Nat) (layout : Layout) (text : List Char) : List Char :=
  let all := layout.typesetFrom measure 0 text
  all.1 ++ List.replicate (if all.2 = 0 then 0 else layout.lacking all.2) ' '

variable (measure : Char → Nat) (layout : Layout)

theorem typesetFrom_append (column : Nat) (text text' : List Char) :
    layout.typesetFrom measure column (text ++ text') =
      ((layout.typesetFrom measure column text).1 ++
          (layout.typesetFrom measure (layout.typesetFrom measure column text).2 text').1,
        (layout.typesetFrom measure (layout.typesetFrom measure column text).2 text').2) := by
  induction text generalizing column with
  | nil => rfl
  | cons c text ih => simp only [List.cons_append, typesetFrom, ih, List.append_assoc]

/-- The next tab stop is one to as many columns away as tab stops are from each other. -/
theorem toTabStop_spec (column : Nat) :
    1 ≤ layout.toTabStop column ∧ layout.toTabStop column ≤ max layout.tabWidth 1 ∧
      max layout.tabWidth 1 ∣ column + layout.toTabStop column := by
  have hdistance : 0 < max layout.tabWidth 1 := by omega
  unfold toTabStop
  dsimp only
  generalize max layout.tabWidth 1 = distance at hdistance ⊢
  have hmod := Nat.mod_lt column hdistance
  have hsplit := Nat.div_add_mod column distance
  have hstop : (column / distance + 1) * distance = distance * (column / distance) + distance := by
    rw [Nat.add_mul, Nat.one_mul, Nat.mul_comm]
  refine ⟨by omega, by omega, ?_⟩
  have hsum : column + ((column / distance + 1) * distance - column) = (column / distance + 1) * distance := by omega
  simp only [hsum]
  exact Nat.dvd_mul_left _ _

/-! ### Spaces and line ends come and go -/

private theorem filter_isInk_replicate (count : Nat) : (List.replicate count ' ').filter isInk = [] := by
  rw [List.filter_replicate_of_neg]
  decide

private theorem filter_isInk_drawn (column : Nat) (c : Char) :
    (layout.drawn column c).filter isInk = [c].filter isInk := by
  unfold drawn
  split
  · rename_i htab
    rw [filter_isInk_replicate, htab]
    rfl
  · rfl

private theorem filter_isInk_typesetInLine (column : Nat) (c : Char) :
    (layout.typesetInLine measure column c).1.filter isInk = [c].filter isInk := by
  have hfeed : ['\n'].filter isInk = [] := rfl
  unfold typesetInLine
  split
  · rename_i hc
    rw [List.filter_append, filter_isInk_replicate, hc, List.nil_append]
  · split
    · rename_i hc
      rw [hc]
      rfl
    · split
      · simp only [List.filter_append, filter_isInk_replicate, hfeed, List.nil_append]
        exact layout.filter_isInk_drawn _ c
      · exact layout.filter_isInk_drawn _ c

private theorem filter_isInk_typesetOne (column : Nat) (c : Char) :
    (layout.typesetOne measure column c).1.filter isInk = [c].filter isInk := by
  unfold typesetOne
  split
  · rw [List.filter_append, filter_isInk_replicate, List.nil_append, filter_isInk_typesetInLine]
  · exact layout.filter_isInk_typesetInLine measure column c

private theorem filter_isInk_typesetFrom (column : Nat) (text : List Char) :
    (layout.typesetFrom measure column text).1.filter isInk = text.filter isInk := by
  induction text generalizing column with
  | nil => rfl
  | cons c text ih =>
    rw [typesetFrom, List.filter_append, filter_isInk_typesetOne, ih, ← List.filter_append, List.singleton_append]

/-- A text keeps all its characters but spaces, tabs and line ends, in their order. -/
theorem filter_isInk_typeset (text : List Char) : (layout.typeset measure text).filter isInk = text.filter isInk := by
  rw [typeset, List.filter_append, filter_isInk_replicate, List.append_nil, filter_isInk_typesetFrom]

theorem mem_typeset_iff {c : Char} (hc : isInk c = true) (text : List Char) :
    c ∈ layout.typeset measure text ↔ c ∈ text := by
  have hfilter : ∀ l : List Char, c ∈ l ↔ c ∈ l.filter isInk := fun l => by simp [hc]
  rw [hfilter, filter_isInk_typeset, ← hfilter]

end Layout

/-! ### What commands show -/

theorem shownBy_cons (command : Command) (commands : List Command) :
    shownBy (command :: commands) = command.shown ++ shownBy commands := List.flatMap_cons

theorem shownBy_append (commands commands' : List Command) :
    shownBy (commands ++ commands') = shownBy commands ++ shownBy commands' := List.flatMap_append

section Shown

variable (measure : Char → Nat) (layout : Layout) (paper ink : List Attribute) (column : Nat) (c : Char)

private theorem shownBy_replicate (command : Command) (count : Nat) (h : command.shown = [c]) :
    shownBy (List.replicate count command) = List.replicate count c := by
  induction count with
  | zero => rfl
  | succ count ih =>
    rw [List.replicate_succ, shownBy_cons, ih, h]
    rfl

private theorem shownBy_blanks (count : Nat) : shownBy (Layout.blanks paper count) = List.replicate count ' ' :=
  shownBy_replicate ' ' .blank count rfl

private theorem shownBy_openLine : shownBy (layout.openLine paper ink) = List.replicate layout.margin ' ' := by
  unfold Layout.openLine
  split
  · rename_i hmargin
    rw [hmargin]
    rfl
  · rw [shownBy_append, shownBy_blanks]
    exact List.append_nil _

private theorem shownBy_closeLine :
    shownBy (layout.closeLine paper column) = List.replicate (layout.lacking column) ' ' := by
  have hfill : shownBy (layout.fill paper column) = List.replicate (layout.lacking column) ' ' := by
    unfold Layout.fill Layout.lacking
    cases layout.columnLimit? with
    | none => cases layout.filled <;> simp [shownBy]
    | some limit =>
      cases layout.filled with
      | false => rfl
      | true =>
        by_cases hlt : column < limit
        · simp [hlt, shownBy_blanks]
        · have hzero : limit - column = 0 := by omega
          simp [hlt, hzero, shownBy]
  rw [Layout.closeLine, shownBy_append, hfill]
  exact List.append_nil _

private theorem shownBy_breakLine :
    shownBy (layout.breakLine paper ink column) = List.replicate (layout.lacking column) ' ' ++ ['\n'] := by
  rw [Layout.breakLine, shownBy_append, shownBy_closeLine]
  rfl

private theorem shownBy_draw : shownBy (layout.draw measure column c).1 = layout.drawn column c := by
  unfold Layout.draw Layout.drawn Layout.advance
  split
  · exact shownBy_replicate ' ' (.glyph ' ') _ rfl
  · rfl

private theorem shownBy_placeInLine :
    shownBy (layout.placeInLine measure paper ink column c).1 = (layout.typesetInLine measure column c).1 ∧
      (layout.placeInLine measure paper ink column c).2 = (layout.typesetInLine measure column c).2 := by
  unfold Layout.placeInLine Layout.typesetInLine
  split
  · exact ⟨shownBy_breakLine .., rfl⟩
  · split
    · exact ⟨rfl, rfl⟩
    · split
      · refine ⟨?_, rfl⟩
        rw [shownBy_append, shownBy_append, shownBy_breakLine, shownBy_openLine, shownBy_draw, List.append_assoc]
      · exact ⟨shownBy_draw .., rfl⟩

/-- The commands for a character show it typeset, whatever its style. -/
theorem shownBy_place :
    shownBy (layout.place measure paper ink column c).1 = (layout.typesetOne measure column c).1 ∧
      (layout.place measure paper ink column c).2 = (layout.typesetOne measure column c).2 := by
  unfold Layout.place Layout.typesetOne
  split
  · obtain ⟨hshown, hnext⟩ := shownBy_placeInLine measure layout paper ink layout.margin c
    refine ⟨?_, hnext⟩
    rw [shownBy_append, shownBy_openLine, hshown]
  · exact shownBy_placeInLine measure layout paper ink column c

end Shown

/-! ### Runs -/

section Runs

variable (measure : Char → Nat) (options : Options)

/-- The characters shown so far. -/
def Sent.shown (sent : Sent) : List Char := shownBy sent.commands

private theorem Sent.shown_send (sent : Sent) (more : List Command) (column : Nat) :
    (sent.send more column).shown = sent.shown ++ shownBy more := by
  rw [shown, commands_send, shownBy_append, ← shown]

private theorem shown_foldl_character (ink : List Attribute) (sent : Sent) (text : List Char) :
    (text.foldl (Sent.character measure options ink) sent).shown =
        sent.shown ++ (options.toLayout.typesetFrom measure sent.column text).1 ∧
      (text.foldl (Sent.character measure options ink) sent).column =
        (options.toLayout.typesetFrom measure sent.column text).2 := by
  induction text generalizing sent with
  | nil => exact ⟨(List.append_nil _).symm, rfl⟩
  | cons c text ih =>
    obtain ⟨hplaced, hnext⟩ := shownBy_place measure options.toLayout options.paper ink sent.column c
    have hshown : (sent.character measure options ink c).shown =
        sent.shown ++ (options.toLayout.typesetOne measure sent.column c).1 := by
      rw [Sent.character, Sent.shown_send, hplaced]
    have hcolumn : (sent.character measure options ink c).column =
        (options.toLayout.typesetOne measure sent.column c).2 := hnext
    rw [List.foldl_cons, Layout.typesetFrom, ← List.append_assoc, ← hshown, ← hcolumn]
    exact ih _

private theorem shown_run (sent : Sent) (run : Run) :
    (sent.run measure options run).shown =
        sent.shown ++ (options.toLayout.typesetFrom measure sent.column run.text.toList).1 ∧
      (sent.run measure options run).column =
        (options.toLayout.typesetFrom measure sent.column run.text.toList).2 := by
  have hselect : ∀ (sent : Sent) attributes, (sent.send [.select attributes] sent.column).shown = sent.shown := by
    intro sent attributes
    rw [Sent.shown_send]
    exact List.append_nil _
  obtain ⟨hshown, hcolumn⟩ := shown_foldl_character measure options (run.style.attributes options.background)
    (sent.send [.select (run.style.attributes options.background)] sent.column) run.text.toList
  rw [hselect] at hshown
  exact ⟨(hselect _ _).trans hshown, hcolumn⟩

private theorem shown_foldl_run (sent : Sent) (runs : List Run) :
    (runs.foldl (Sent.run measure options) sent).shown =
        sent.shown ++ (options.toLayout.typesetFrom measure sent.column (Run.plainText runs).toList).1 ∧
      (runs.foldl (Sent.run measure options) sent).column =
        (options.toLayout.typesetFrom measure sent.column (Run.plainText runs).toList).2 := by
  rw [Run.toList_plainText]
  induction runs generalizing sent with
  | nil => exact ⟨(List.append_nil _).symm, rfl⟩
  | cons run runs ih =>
    obtain ⟨hshown, hcolumn⟩ := shown_run measure options sent run
    rw [List.foldl_cons, List.flatMap_cons, Layout.typesetFrom_append, ← List.append_assoc, ← hshown, ← hcolumn]
    exact ih _

/-- The commands for runs show their joined text, typeset. -/
theorem shownBy_commands (runs : List Run) :
    shownBy (commands measure options runs) = options.toLayout.typeset measure (Run.plainText runs).toList := by
  obtain ⟨hshown, hcolumn⟩ := shown_foldl_run measure options {} runs
  have hclosed : shownBy (commands measure options runs) =
      (runs.foldl (Sent.run measure options) {}).shown ++
        shownBy (if (runs.foldl (Sent.run measure options) {}).column = 0 then []
          else options.toLayout.closeLine options.paper (runs.foldl (Sent.run measure options) {}).column) :=
    Sent.shown_send _ _ 0
  have hstart : ({} : Sent).shown = [] := rfl
  rw [hclosed, hshown, hcolumn, Layout.typeset, hstart, List.nil_append]
  split
  · rfl
  · rw [shownBy_closeLine]

end Runs

/-! ### Control sequences -/

private theorem read_command (shown : List (Char × Graphic)) (state : Graphic) {command : Command}
    (h : '\x1b' ∉ command.shown) :
    ∃ state', (⟨shown, state, .text⟩ : Screen).read command.characters =
      ⟨shown ++ command.shown.map (·, state), state', .text⟩ := by
  cases command with
  | select attributes =>
    rw [Command.shown, List.map_nil, List.append_nil]
    exact ⟨_, Screen.read_selection attributes⟩
  | glyph c => exact ⟨state, Screen.read_glyph fun hc => h (hc ▸ List.mem_singleton.2 rfl)⟩
  | blank => exact ⟨state, Screen.read_glyph (by decide)⟩
  | lineFeed => exact ⟨state, Screen.read_glyph (by decide)⟩

private theorem read_characters (shown : List (Char × Graphic)) (state : Graphic) {commands : List Command}
    (h : '\x1b' ∉ shownBy commands) :
    ((⟨shown, state, .text⟩ : Screen).read (commands.flatMap Command.characters)).shown.map (·.1) =
      shown.map (·.1) ++ shownBy commands := by
  induction commands generalizing shown state with
  | nil => exact (List.append_nil _).symm
  | cons command commands ih =>
    rw [shownBy_cons, List.mem_append, not_or] at h
    obtain ⟨state', hread⟩ := read_command shown state h.1
    rw [List.flatMap_cons, Screen.read_append, hread, ih _ _ h.2, shownBy_cons]
    simp [Function.comp_def]

/-- Without its control sequences, the text that the commands for runs are written as is their joined text,
typeset. -/
theorem visible_commands (measure : Char → Nat) (options : Options) {runs : List Run}
    (hescape : '\x1b' ∉ (Run.plainText runs).toList) :
    visible (Command.written (commands measure options runs)).toList =
      options.toLayout.typeset measure (Run.plainText runs).toList := by
  have hshown : '\x1b' ∉ shownBy (commands measure options runs) := by
    rwa [shownBy_commands, Layout.mem_typeset_iff measure options.toLayout rfl]
  rw [visible, Command.written, String.toList_ofList, read_characters [] {} hshown, shownBy_commands]
  rfl

end Terminal

end StyledCode
