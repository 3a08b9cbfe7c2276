import StyledCode.Proofs.Markup.Grammar
import StyledCode.Proofs.Text.Offsets

/-!
# Scanning markup by byte offsets

The scan can be done by a cursor that keeps the offset up to which the markup is read.  Every step reads a part of
the markup, so that it is done only where the cursor stands at the end of a character.

* `Cursor` : a text and the offset of what is not read yet
* `Cursor.At` : a cursor in front of the rest of its text
* `Cursor.scan?` : the tokens of what is not read yet
* `Cursor.scan?_eq` : a cursor at the end of a character finds the tokens of the rest
-/

namespace StyledCode.Markup

open Text

/-- A text and the offset of what is not read yet. -/
structure Cursor where
  text : String
  offset : Nat

namespace Cursor

/-- What is not read yet. -/
def rest? (cursor : Cursor) : Option String := slice? cursor.text cursor.offset cursor.text.utf8ByteSize

def peek? (cursor : Cursor) : Option (Option Char) := cursor.rest?.map fun rest => rest.toList.head?

/-- Whether a pattern comes next, and the cursor behind it if it does. -/
def eat? (pattern : String) (cursor : Cursor) : Option (Bool × Cursor) := do
  let rest ← cursor.rest?
  if begins id pattern.toList rest.toList then
    return (true, { cursor with offset := cursor.offset + pattern.utf8ByteSize })
  else return (false, cursor)

/-- What stands in front of the next occurrence of a pattern, or else all the rest, and the cursor behind it. -/
def takeUntil? (pattern : String) (cursor : Cursor) : Option (String × Cursor) := do
  let rest ← cursor.rest?
  let length := (find? pattern rest).getD rest.utf8ByteSize
  let taken ← slice? rest 0 length
  return (taken, { cursor with offset := cursor.offset + length })

/-- The token that begins with a `<` just read, and the cursor behind it. -/
def tag? (cursor : Cursor) : Option (Token × Cursor) := do
  match ← cursor.peek? with
  | some 's' =>
    let (found, cursor) ← cursor.eat? "span class=\""
    if found then
      let (classes, cursor) ← cursor.takeUntil? "\">"
      let (closed, cursor) ← cursor.eat? "\">"
      return (if closed then .opening classes.toList else .unfinished classes.toList, cursor)
    else return (.bracket, cursor)
  | some '/' =>
    let (found, cursor) ← cursor.eat? "/span>"
    return (if found then .closing else .bracket, cursor)
  | _ => return (.bracket, cursor)

/-- The tokens up to the next `<` and the one that begins with it, and the cursor behind them; no cursor if the text
ends before. -/
def round? (cursor : Cursor) : Option (List Token × Option Cursor) := do
  let (characters, cursor) ← cursor.takeUntil? "<"
  let front := if characters = "" then [] else [Token.text characters.toList]
  let (found, cursor) ← cursor.eat? "<"
  if found then
    let (token, cursor) ← cursor.tag?
    return (front ++ [token], some cursor)
  else return (front, none)

/-! ### Progress -/

/-- A cursor that has gone on in the same text. -/
def Goes (cursor next : Cursor) : Prop := next.text = cursor.text ∧ cursor.offset ≤ next.offset

theorem Goes.trans {cursor next last : Cursor} (h : cursor.Goes next) (h' : next.Goes last) : cursor.Goes last :=
  ⟨h'.1.trans h.1, Nat.le_trans h.2 h'.2⟩

private theorem goes_eat? {pattern : String} {cursor next : Cursor} {found : Bool}
    (h : cursor.eat? pattern = some (found, next)) :
    cursor.Goes next ∧ cursor.offset ≤ cursor.text.utf8ByteSize ∧
      (found = true → cursor.offset + pattern.utf8ByteSize ≤ next.offset) := by
  obtain ⟨rest, hrest, h⟩ := Option.bind_eq_some_iff.1 h
  have hle := (le_of_slice? hrest).1
  split at h
  · obtain ⟨rfl, rfl⟩ := Prod.mk.inj (Option.some.inj h)
    exact ⟨⟨rfl, Nat.le_add_right ..⟩, hle, fun _ => Nat.le_refl _⟩
  · obtain ⟨rfl, rfl⟩ := Prod.mk.inj (Option.some.inj h)
    exact ⟨⟨rfl, Nat.le_refl _⟩, hle, fun hfound => by contradiction⟩

private theorem goes_takeUntil? {pattern taken : String} {cursor next : Cursor}
    (h : cursor.takeUntil? pattern = some (taken, next)) : cursor.Goes next := by
  obtain ⟨rest, -, h⟩ := Option.bind_eq_some_iff.1 h
  obtain ⟨taken', -, h⟩ := Option.bind_eq_some_iff.1 h
  obtain ⟨rfl, rfl⟩ := Prod.mk.inj (Option.some.inj h)
  exact ⟨rfl, Nat.le_add_right ..⟩

private theorem goes_tag? {cursor next : Cursor} {token : Token} (h : cursor.tag? = some (token, next)) :
    cursor.Goes next := by
  obtain ⟨c, -, h⟩ := Option.bind_eq_some_iff.1 h
  split at h
  · obtain ⟨⟨found, second⟩, heat, h⟩ := Option.bind_eq_some_iff.1 h
    dsimp only at h
    split at h
    · obtain ⟨⟨classes, third⟩, htake, h⟩ := Option.bind_eq_some_iff.1 h
      obtain ⟨⟨closed, fourth⟩, hend, h⟩ := Option.bind_eq_some_iff.1 h
      obtain ⟨-, rfl⟩ := Prod.mk.inj (Option.some.inj h)
      exact ((goes_eat? heat).1.trans (goes_takeUntil? htake)).trans (goes_eat? hend).1
    · obtain ⟨-, rfl⟩ := Prod.mk.inj (Option.some.inj h)
      exact (goes_eat? heat).1
  · obtain ⟨⟨found, second⟩, heat, h⟩ := Option.bind_eq_some_iff.1 h
    obtain ⟨-, rfl⟩ := Prod.mk.inj (Option.some.inj h)
    exact (goes_eat? heat).1
  · obtain ⟨-, rfl⟩ := Prod.mk.inj (Option.some.inj h)
    exact ⟨rfl, Nat.le_refl _⟩

/-- The number of offsets that the cursor has not passed yet. -/
def remaining (cursor : Cursor) : Nat := cursor.text.utf8ByteSize + 1 - cursor.offset

/-- A round that goes on reads something. -/
theorem remaining_lt_of_round? {cursor next : Cursor} {tokens : List Token}
    (h : cursor.round? = some (tokens, some next)) : next.remaining < cursor.remaining := by
  obtain ⟨⟨characters, second⟩, htake, h⟩ := Option.bind_eq_some_iff.1 h
  obtain ⟨⟨found, third⟩, heat, h⟩ := Option.bind_eq_some_iff.1 h
  dsimp only at h
  split at h
  · rename_i hfound
    obtain ⟨⟨token, last⟩, htag, h⟩ := Option.bind_eq_some_iff.1 h
    obtain ⟨-, hnext⟩ := Prod.mk.inj (Option.some.inj h)
    obtain rfl := Option.some.inj hnext
    obtain ⟨htext, hle⟩ := goes_takeUntil? htake
    obtain ⟨⟨htext', hle'⟩, hinside, hread⟩ := goes_eat? heat
    obtain ⟨htext'', hle''⟩ := goes_tag? htag
    -- the `<` that was found is what the round has read at least
    have hone : second.offset + 1 ≤ third.offset := hread hfound
    rw [htext] at hinside
    dsimp only at htext'' hle'' ⊢
    rw [remaining, remaining, htext'', htext', htext]
    omega
  · obtain ⟨-, hnext⟩ := Prod.mk.inj (Option.some.inj h)
    contradiction

/-- The tokens of what is not read yet. -/
def scan? (cursor : Cursor) : Option (List Token) :=
  match h : cursor.round? with
  | none => none
  | some (tokens, none) => some tokens
  | some (tokens, some next) =>
    have := remaining_lt_of_round? h
    next.scan?.map (tokens ++ ·)
termination_by cursor.remaining

/-! ### Cursors at the end of a character -/

/-- A cursor at the end of a character, in front of the rest of the text. -/
def At (cursor : Cursor) (rest : List Char) : Prop :=
  ∃ front, cursor.text.toList = front ++ rest ∧ cursor.offset = byteSize front

variable {cursor : Cursor} {rest : List Char}

theorem At.rest?_eq (h : cursor.At rest) : cursor.rest? = some (String.ofList rest) := by
  obtain ⟨front, htext, hoffset⟩ := h
  exact slice?_rest htext hoffset

theorem At.peek?_eq (h : cursor.At rest) : cursor.peek? = some rest.head? := by
  rw [peek?, h.rest?_eq, Option.map_some, String.toList_ofList]

theorem At.advance {taken : List Char} (h : cursor.At (taken ++ rest)) :
    At { cursor with offset := cursor.offset + byteSize taken } rest := by
  obtain ⟨front, htext, hoffset⟩ := h
  refine ⟨front ++ taken, by rw [htext, List.append_assoc], ?_⟩
  rw [byteSize_append, hoffset]

theorem At.eat?_of_behind? {after : List Char} (h : cursor.At rest) (pattern : String)
    (hbehind : behind? id pattern.toList rest = some after) :
    ∃ next, cursor.eat? pattern = some (true, next) ∧ next.At after := by
  obtain rfl := behind?_id_iff.1 hbehind
  refine ⟨_, ?_, h.advance⟩
  have hbegins : begins id pattern.toList (pattern.toList ++ after) = true := by
    rw [begins_iff, List.map_id]
    exact List.prefix_append _ _
  rw [eat?, h.rest?_eq, byteSize_toList]
  simp [hbegins]

theorem At.eat?_of_behind?_eq_none (h : cursor.At rest) (pattern : String)
    (hbehind : behind? id pattern.toList rest = none) : cursor.eat? pattern = some (false, cursor) := by
  have hbegins : ¬ begins id pattern.toList rest = true := by
    rw [begins_iff]
    exact behind?_eq_none_iff.1 hbehind
  rw [eat?, h.rest?_eq]
  simp [hbegins]

theorem At.takeUntil?_of_cut? {before after : List Char} (h : cursor.At rest) (pattern : String)
    (hcut : cut? id pattern.toList rest = some (before, after)) :
    ∃ next, cursor.takeUntil? pattern = some (String.ofList before, next) ∧ next.At (pattern.toList ++ after) := by
  have hrest := (cut?_id_iff.1 hcut).eq
  rw [List.append_assoc] at hrest
  have hslice : slice? (String.ofList rest) 0 (byteSize before) = some (String.ofList before) :=
    slice?_front (String.toList_ofList.trans hrest) rfl
  rw [hrest] at h
  refine ⟨_, ?_, h.advance⟩
  rw [takeUntil?, h.rest?_eq, ← hrest]
  simp [find?_of_cut? hcut, hslice]

theorem At.takeUntil?_of_cut?_eq_none (h : cursor.At rest) (pattern : String)
    (hcut : cut? id pattern.toList rest = none) :
    ∃ next, cursor.takeUntil? pattern = some (String.ofList rest, next) ∧ next.At [] := by
  have hslice : slice? (String.ofList rest) 0 (byteSize rest) = some (String.ofList rest) :=
    slice?_front (String.toList_ofList.trans (List.append_nil rest).symm) rfl
  have hsize : (String.ofList rest).utf8ByteSize = byteSize rest := rfl
  rw [← List.append_nil rest] at h
  refine ⟨_, ?_, h.advance⟩
  rw [takeUntil?, h.rest?_eq, List.append_nil]
  simp [find?_of_cut?_eq_none hcut, hslice, hsize]

/-! ### Tokens -/

private theorem head_of_behind? {c : Char} {pattern after : List Char}
    (h : behind? id (c :: pattern) rest = some after) : rest.head? = some c := by
  rw [behind?_id_iff.1 h]
  rfl

private theorem At.tag?_opening {tag : List Char} (h : cursor.At rest)
    (hopen : behind? id Token.openMark rest = some tag) :
    ∃ next, cursor.tag? = some ((Token.afterBracket rest).1, next) ∧ next.At (Token.afterBracket rest).2 := by
  obtain ⟨second, heat, hsecond⟩ := h.eat?_of_behind? "span class=\"" hopen
  have hpeek : cursor.peek? = some (some 's') :=
    h.peek?_eq.trans (congrArg some (head_of_behind? hopen))
  cases hcut : cut? id Token.openEnd tag with
  | some cut =>
    obtain ⟨classes, after⟩ := cut
    obtain ⟨third, htake, hthird⟩ := hsecond.takeUntil?_of_cut? "\">" hcut
    obtain ⟨last, hend, hlast⟩ := hthird.eat?_of_behind? "\">" (behind?_id_iff.2 rfl)
    refine ⟨last, ?_, ?_⟩
    · simp [tag?, hpeek, heat, htake, hend, Token.afterBracket, hopen, hcut]
    · simpa [Token.afterBracket, hopen, hcut] using hlast
  | none =>
    obtain ⟨third, htake, hthird⟩ := hsecond.takeUntil?_of_cut?_eq_none "\">" hcut
    have hend := hthird.eat?_of_behind?_eq_none "\">" rfl
    refine ⟨third, ?_, ?_⟩
    · simp [tag?, hpeek, heat, htake, hend, Token.afterBracket, hopen, hcut]
    · simpa [Token.afterBracket, hopen, hcut] using hthird

private theorem At.tag?_other (h : cursor.At rest) (hopen : behind? id Token.openMark rest = none) :
    ∃ next, cursor.tag? = some ((Token.afterBracket rest).1, next) ∧ next.At (Token.afterBracket rest).2 := by
  have heat := h.eat?_of_behind?_eq_none "span class=\"" hopen
  cases hclose : behind? id Token.closeMark rest with
  | some after =>
    obtain ⟨last, hend, hlast⟩ := h.eat?_of_behind? "/span>" hclose
    have hpeek : cursor.peek? = some (some '/') :=
      h.peek?_eq.trans (congrArg some (head_of_behind? hclose))
    refine ⟨last, ?_, ?_⟩
    · simp [tag?, hpeek, hend, Token.afterBracket, hopen, hclose]
    · simpa [Token.afterBracket, hopen, hclose] using hlast
  | none =>
    have hend := h.eat?_of_behind?_eq_none "/span>" hclose
    refine ⟨cursor, ?_, ?_⟩
    · -- the next character decides what is tried, and nothing that is tried comes next
      rw [tag?, h.peek?_eq, Option.bind_eq_bind, Option.bind_some]
      split <;> simp [heat, hend, Token.afterBracket, hopen, hclose]
    · simpa [Token.afterBracket, hopen, hclose] using h

/-- What begins with a `<` just read is the token that the scan finds there. -/
theorem At.tag?_eq (h : cursor.At rest) :
    ∃ next, cursor.tag? = some ((Token.afterBracket rest).1, next) ∧ next.At (Token.afterBracket rest).2 := by
  cases hopen : behind? id Token.openMark rest with
  | some tag => exact h.tag?_opening hopen
  | none => exact h.tag?_other hopen

/-- The text in front of the next `<`, as tokens. -/
private def frontTokens (characters : List Char) : List Token :=
  if characters = [] then [] else [.text characters]

private theorem scan_frontTokens {characters : List Char} (hfree : '<' ∉ characters)
    (hrest : ∀ c ∈ rest.head?, c = '<') :
    Token.scan (characters ++ rest) = frontTokens characters ++ Token.scan rest := by
  unfold frontTokens
  split
  · rename_i hnil
    rw [hnil]
    rfl
  · rename_i hne
    have hfits : (Token.text characters).Fits rest := ⟨hne, hfree, hrest⟩
    exact Token.scan_of_some (Token.next?_of_fits hfits)

private theorem ite_ofList_eq (characters : List Char) :
    (if String.ofList characters = "" then [] else [Token.text (String.ofList characters).toList]) =
      frontTokens characters := by
  rw [frontTokens, String.toList_ofList]
  simp only [String.ofList_eq_empty_iff]

private theorem At.round?_last (h : cursor.At rest) (hcut : cut? id "<".toList rest = none) :
    cursor.round? = some (Token.scan rest, none) := by
  obtain ⟨second, htake, hsecond⟩ := h.takeUntil?_of_cut?_eq_none "<" hcut
  have heat := hsecond.eat?_of_behind?_eq_none "<" rfl
  have hfree : '<' ∉ rest := by
    rw [cut?_eq_none_iff, List.map_id] at hcut
    exact fun hmem => hcut ((List.singleton_infix_iff '<' rest).2 hmem)
  have hscan := @scan_frontTokens [] rest hfree (by simp)
  rw [List.append_nil, Token.scan_nil, List.append_nil] at hscan
  rw [hscan, ← ite_ofList_eq]
  simp [round?, htake, heat]

private theorem At.round?_next {before after : List Char} (h : cursor.At rest)
    (hcut : cut? id "<".toList rest = some (before, after)) :
    ∃ tokens next rest', cursor.round? = some (tokens, some next) ∧ next.At rest' ∧
      Token.scan rest = tokens ++ Token.scan rest' := by
  obtain ⟨second, htake, hsecond⟩ := h.takeUntil?_of_cut? "<" hcut
  obtain ⟨third, heat, hthird⟩ := hsecond.eat?_of_behind? "<" (behind?_id_iff.2 rfl)
  obtain ⟨last, htag, hlast⟩ := hthird.tag?_eq
  have hfirst := cut?_id_iff.1 hcut
  have hfree : '<' ∉ before := fun hmem =>
    hfirst.not_infix_before (by simp) ((List.singleton_infix_iff '<' before).2 hmem)
  refine ⟨frontTokens before ++ [(Token.afterBracket after).1], last, (Token.afterBracket after).2, ?_, hlast, ?_⟩
  · rw [← ite_ofList_eq]
    simp [round?, htake, heat, htag]
  · have hbracket : Token.scan ('<' :: after) =
        (Token.afterBracket after).1 :: Token.scan (Token.afterBracket after).2 := Token.scan_of_some rfl
    have hrest : rest = before ++ '<' :: after := by rw [hfirst.eq, List.append_assoc]; rfl
    rw [hrest, scan_frontTokens hfree (by simp), hbracket, List.append_assoc]
    rfl

/-- A cursor at the end of a character finds the tokens of the rest. -/
theorem scan?_eq {cursor : Cursor} {rest : List Char} (h : cursor.At rest) :
    cursor.scan? = some (Token.scan rest) := by
  cases hcut : cut? id "<".toList rest with
  | none =>
    have hround := h.round?_last hcut
    rw [scan?]
    split <;> simp_all
  | some cut =>
    obtain ⟨tokens, next, rest', hround, hnext, hscan⟩ := h.round?_next hcut
    have := remaining_lt_of_round? hround
    have ih := scan?_eq hnext
    rw [scan?]
    split
    · simp_all
    · simp_all
    · rename_i tokens' next' h'
      obtain ⟨rfl, heq⟩ := Prod.mk.inj (Option.some.inj (hround.symm.trans h'))
      obtain rfl := Option.some.inj heq
      rw [ih, hscan]
      rfl
termination_by cursor.remaining

end Cursor

end StyledCode.Markup
