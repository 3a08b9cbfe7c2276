import StyledCode.Proofs.Text.Numeral
import StyledCode.Terminal.Layout

/-!
# What a terminal shows

A terminal reads one character after the other.  Most of them it shows in its present graphic state; a selection
changes that state.

* `Graphic` : a graphic state, and `Graphic.select` the state after the codes of a selection
* `Screen.read` : a terminal that has read a text
* `Graphic.selected` : the state that a selection makes of the terminal's own
* `Screen.read_selection`, `Screen.read_glyph` : what the commands of a layout do to a terminal
-/

namespace StyledCode.Terminal

/-- The graphic state of a terminal; colours that are not set are the terminal's own. -/
structure Graphic where
  bold : Bool := false
  faint : Bool := false
  italic : Bool := false
  foreground : Option (Nat × Nat × Nat) := none
  background : Option (Nat × Nat × Nat) := none
  deriving DecidableEq, Repr

/-- The graphic state after the codes of a selection, those that it does not know left out. -/
def Graphic.select : Graphic → List Nat → Graphic
  | state, [] => state
  | _, 0 :: codes => select {} codes
  | state, 1 :: codes => select { state with bold := true } codes
  | state, 2 :: codes => select { state with faint := true } codes
  | state, 3 :: codes => select { state with italic := true } codes
  | state, 38 :: 2 :: red :: green :: blue :: codes =>
    select { state with foreground := some (red, green, blue) } codes
  | state, 48 :: 2 :: red :: green :: blue :: codes =>
    select { state with background := some (red, green, blue) } codes
  | state, _ :: codes => select state codes

/-- What a terminal is in the middle of. -/
inductive Reading
  | text
  /-- It has read an escape character. -/
  | escape
  /-- It is inside a control sequence: the codes before the last semicolon, and the number behind it. -/
  | control (before : List Nat) (last : Nat)
  deriving DecidableEq, Repr

/-- A terminal: the characters it shows, each in the graphic state it was shown in, its present state, and what it is
in the middle of. -/
structure Screen where
  shown : List (Char × Graphic) := []
  graphic : Graphic := {}
  reading : Reading := .text
  deriving DecidableEq, Repr

namespace Screen

/-- The terminal after one more character.  An escape character and a bracket begin a control sequence, which goes on
through digits and semicolons; the letter that ends it says what it does, and `m` is the only one known here. -/
def receive (screen : Screen) (c : Char) : Screen :=
  match screen.reading with
  | .text =>
    if c = '\x1b' then { screen with reading := .escape }
    else { screen with shown := screen.shown ++ [(c, screen.graphic)] }
  | .escape => { screen with reading := if c = '[' then .control [] 0 else .text }
  | .control before last =>
    if c.isDigit then { screen with reading := .control before (10 * last + (c.toNat - '0'.toNat)) }
    else if c = ';' then { screen with reading := .control (before ++ [last]) 0 }
    else if c = 'm' then { screen with graphic := screen.graphic.select (before ++ [last]), reading := .text }
    else { screen with reading := .text }

def read (screen : Screen) (text : List Char) : Screen := text.foldl receive screen

theorem read_append (screen : Screen) (text text' : List Char) :
    screen.read (text ++ text') = (screen.read text).read text' := List.foldl_append

end Screen

/-- The graphic state that a selection makes of the terminal's own. -/
def Graphic.selected (attributes : List Attribute) : Graphic :=
  (({} : Screen).read (selection attributes).toList).graphic

/-! ### Selections -/

def Attribute.codes : Attribute → List Nat
  | reset => [0]
  | bold => [1]
  | faint => [2]
  | italic => [3]
  | foreground red green blue => [38, 2, red.toNat, green.toNat, blue.toNat]
  | background red green blue => [48, 2, red.toNat, green.toNat, blue.toNat]

namespace Screen

variable {shown : List (Char × Graphic)} {state : Graphic}

private theorem receive_digit {c : Char} (h : c.isDigit = true) (before : List Nat) (last : Nat) :
    (⟨shown, state, .control before last⟩ : Screen).receive c =
      ⟨shown, state, .control before (10 * last + (c.toNat - '0'.toNat))⟩ := if_pos h

private theorem read_digits {digits : List Char} (h : ∀ c ∈ digits, c.isDigit = true) (before : List Nat)
    (last : Nat) :
    (⟨shown, state, .control before last⟩ : Screen).read digits =
      ⟨shown, state, .control before (Nat.ofDigitChars 10 digits last)⟩ := by
  induction digits generalizing last with
  | nil => rfl
  | cons c digits ih =>
    rw [List.forall_mem_cons] at h
    rw [read, List.foldl_cons, receive_digit h.1]
    exact ih h.2 _

private theorem read_repr (before : List Nat) (n : Nat) :
    (⟨shown, state, .control before 0⟩ : Screen).read n.repr.toList = ⟨shown, state, .control before n⟩ := by
  rw [read_digits fun c => Text.isDigit_of_mem_repr, Text.ofDigitChars_repr]

private theorem read_next (before : List Nat) (last n : Nat) :
    (⟨shown, state, .control before last⟩ : Screen).read (";" ++ n.repr).toList =
      ⟨shown, state, .control (before ++ [last]) n⟩ := by
  rw [String.toList_append, read_append]
  exact read_repr _ n

private theorem read_colour (before : List Nat) (layer red green blue : Nat) :
    (⟨shown, state, .control before 0⟩ : Screen).read
        (layer.repr ++ (";2;" ++ red.repr ++ ";" ++ green.repr ++ ";" ++ blue.repr)).toList =
      ⟨shown, state, .control (before ++ [layer, 2, red, green]) blue⟩ := by
  have hparts : layer.repr ++ (";2;" ++ red.repr ++ ";" ++ green.repr ++ ";" ++ blue.repr) =
      layer.repr ++ (";" ++ (2 : Nat).repr) ++ (";" ++ red.repr) ++ (";" ++ green.repr) ++ (";" ++ blue.repr) := by
    have htwo : ";2;" = ";" ++ (2 : Nat).repr ++ ";" := by decide
    simp only [htwo, String.append_assoc]
  rw [hparts]
  iterate 4 rw [String.toList_append, read_append]
  rw [read_repr, read_next, read_next, read_next, read_next]
  simp only [List.append_assoc, List.cons_append, List.nil_append]

/-- An attribute is read as its codes, of which the last is still open. -/
private theorem read_written (a : Attribute) :
    ∃ front last, a.codes = front ++ [last] ∧ ∀ before, (⟨shown, state, .control before 0⟩ : Screen).read
      a.written.toList = ⟨shown, state, .control (before ++ front) last⟩ := by
  have hnumber : ∀ n before, (⟨shown, state, .control before 0⟩ : Screen).read n.repr.toList =
      ⟨shown, state, .control (before ++ []) n⟩ := by
    intro n before
    rw [List.append_nil, read_repr]
  cases a with
  | reset => exact ⟨[], 0, rfl, hnumber 0⟩
  | bold => exact ⟨[], 1, rfl, hnumber 1⟩
  | faint => exact ⟨[], 2, rfl, hnumber 2⟩
  | italic => exact ⟨[], 3, rfl, hnumber 3⟩
  | foreground red green blue => exact ⟨[38, 2, _, _], _, rfl, fun before => read_colour before 38 _ _ _⟩
  | background red green blue => exact ⟨[48, 2, _, _], _, rfl, fun before => read_colour before 48 _ _ _⟩

private theorem read_attributes (before : List Nat) (a : Attribute) (attributes : List Attribute) :
    (⟨shown, state, .control before 0⟩ : Screen).read
        (";".intercalate ((a :: attributes).map Attribute.written) ++ "m").toList =
      ⟨shown, state.select (before ++ (a :: attributes).flatMap Attribute.codes), .text⟩ := by
  induction attributes generalizing before a with
  | nil =>
    obtain ⟨front, last, hcodes, hread⟩ := @read_written shown state a
    rw [List.map_singleton, String.intercalate_singleton, String.toList_append, read_append, hread,
      List.flatMap_singleton, hcodes, ← List.append_assoc]
    rfl
  | cons a' attributes ih =>
    obtain ⟨front, last, hcodes, hread⟩ := @read_written shown state a
    have hnext : (⟨shown, state, .control before 0⟩ : Screen).read (a.written.toList ++ ";".toList) =
        ⟨shown, state, .control (before ++ a.codes) 0⟩ := by
      rw [read_append, hread, hcodes, ← List.append_assoc]
      rfl
    rw [List.map_cons, List.map_cons, String.intercalate_cons_cons, ← List.map_cons, String.append_assoc,
      String.append_assoc, String.toList_append, String.toList_append, ← List.append_assoc, read_append, hnext, ih,
      List.append_assoc, ← List.flatMap_cons]

/-- A selection changes the graphic state by the codes of its attributes. -/
theorem read_selection (attributes : List Attribute) :
    (⟨shown, state, .text⟩ : Screen).read (selection attributes).toList =
      ⟨shown, state.select (attributes.flatMap Attribute.codes), .text⟩ := by
  cases attributes with
  | nil => rfl
  | cons a attributes =>
    have hbegin : selection (a :: attributes) =
        "\x1b[" ++ (";".intercalate ((a :: attributes).map Attribute.written) ++ "m") := String.append_assoc
    rw [hbegin, String.toList_append, read_append]
    exact read_attributes [] a attributes

/-- A character other than the escape character is shown in the present state. -/
theorem read_glyph {c : Char} (h : c ≠ '\x1b') :
    (⟨shown, state, .text⟩ : Screen).read [c] = ⟨shown ++ [(c, state)], state, .text⟩ := if_neg h

end Screen

end StyledCode.Terminal
