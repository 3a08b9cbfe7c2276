import StyledCode.Proofs.Text.Search

/-!
# Texts by byte offsets

A text is stored in UTF-8, and a program may name its parts by offsets in bytes.  Then there is a part only between
two offsets that are in order and lie at the ends of characters, and a difference of offsets only if it is not
negative.

* `byteSize` : the number of bytes of a text
* `slice?` : the part of a text between two offsets, if there is one
* `slice?_eq_some_iff`, `slice?_of_toList` : between which offsets there is a part
* `minus?` : the difference of two offsets, if it is not negative
* `find?` : the offset of the first occurrence of a pattern
* `byteAt?` : the byte at an offset
* `exists_byteAt?` : a byte of a character is of a kind of ASCII characters exactly if the character is
-/

namespace StyledCode.Text

/-- The number of bytes of a text. -/
def byteSize (text : List Char) : Nat := (String.ofList text).utf8ByteSize

/-- The part of a text from one byte offset up to another; both must be ends of characters, and in order. -/
def slice? (text : String) (start stop : Nat) : Option String :=
  if h : start ≤ stop ∧ String.Pos.Raw.IsValid text ⟨start⟩ ∧ String.Pos.Raw.IsValid text ⟨stop⟩ then
    some (String.extract (text.pos ⟨start⟩ h.2.1) (text.pos ⟨stop⟩ h.2.2))
  else none

/-- The difference of two offsets, unless it is negative. -/
def minus? (a b : Nat) : Option Nat := if b ≤ a then some (a - b) else none

/-- The offset of the first occurrence of a pattern. -/
def find? (pattern text : String) : Option Nat :=
  (cut? id pattern.toList text.toList).map fun cut => byteSize cut.1

/-- The byte at an offset, as the character of the same number. -/
def byteAt? (text : String) (offset : Nat) : Option Char :=
  text.toByteArray[offset]?.map Char.ofUInt8

/-- A kind of characters that are all of ASCII. -/
def IsAscii (p : Char → Bool) : Prop := ∀ c, p c = true → c.toNat < 128

/-! ### Sizes -/

theorem utf8Size_eq_one_iff {c : Char} : c.utf8Size = 1 ↔ c.toNat < 128 := by
  rw [Char.utf8Size_eq_one_iff, UInt32.le_iff_toNat_le]
  exact Nat.lt_succ_iff.symm

theorem IsAscii.utf8Size_eq {p : Char → Bool} (hp : IsAscii p) {c : Char} (hc : p c = true) : c.utf8Size = 1 :=
  utf8Size_eq_one_iff.2 (hp c hc)

@[simp] theorem byteSize_nil : byteSize [] = 0 := rfl

@[simp] theorem byteSize_append (front back : List Char) :
    byteSize (front ++ back) = byteSize front + byteSize back := by
  rw [byteSize, String.ofList_append, String.utf8ByteSize_append]
  rfl

@[simp] theorem byteSize_cons (c : Char) (text : List Char) :
    byteSize (c :: text) = c.utf8Size + byteSize text := by
  rw [← List.singleton_append, byteSize_append, byteSize, ← String.singleton_eq_ofList,
    String.utf8ByteSize_singleton]

@[simp] theorem byteSize_reverse (text : List Char) : byteSize text.reverse = byteSize text := by
  induction text with
  | nil => rfl
  | cons c text ih => simp only [List.reverse_cons, byteSize_append, byteSize_cons, byteSize_nil, ih]; omega

theorem byteSize_toList (text : String) : byteSize text.toList = text.utf8ByteSize := by
  rw [byteSize, String.ofList_toList]

theorem byteSize_append_toList (front : List Char) (text : String) :
    byteSize (front ++ text.toList) = byteSize front + text.utf8ByteSize := by
  rw [byteSize_append, byteSize_toList]

theorem byteSize_le_append (front back : List Char) : byteSize front ≤ byteSize (front ++ back) := by
  rw [byteSize_append]
  exact Nat.le_add_right _ _

theorem byteSize_pos {text : List Char} (h : text ≠ []) : 0 < byteSize text := by
  obtain ⟨c, rest, rfl⟩ := List.exists_cons_of_ne_nil h
  rw [byteSize_cons]
  exact Nat.add_pos_left c.utf8Size_pos _

theorem isAscii_isAlphanum : IsAscii Char.isAlphanum := by
  intro c h
  have h : (decide (c.val ≥ 65 ∧ c.val ≤ 90) || (c.val ≥ 97 && c.val ≤ 122) ||
      (c.val ≥ 48 && c.val ≤ 57)) = true := h
  simp only [Bool.or_eq_true, Bool.and_eq_true, decide_eq_true_eq] at h
  rcases h with (h | h) | h <;> exact Nat.lt_of_le_of_lt h.2 (by decide)

/-! ### Parts -/

theorem slice?_append (front part back : String) :
    slice? (front ++ part ++ back) front.utf8ByteSize (front.utf8ByteSize + part.utf8ByteSize) = some part := by
  have hstart : String.Pos.Raw.IsValid (front ++ part ++ back) ⟨front.utf8ByteSize⟩ :=
    String.Pos.Raw.isValid_iff_exists_append.2 ⟨front, part ++ back, String.append_assoc .., rfl⟩
  have hstop : String.Pos.Raw.IsValid (front ++ part ++ back) ⟨front.utf8ByteSize + part.utf8ByteSize⟩ := by
    refine String.Pos.Raw.isValid_iff_exists_append.2 ⟨front ++ part, back, rfl, ?_⟩
    rw [← String.utf8ByteSize_append]
    rfl
  have hempty : front.toByteArray.extract front.toByteArray.size
      (front.toByteArray.size + part.toByteArray.size) = ByteArray.empty :=
    ByteArray.extract_eq_empty_iff.2 (by omega)
  rw [slice?, dif_pos ⟨Nat.le_add_right .., hstart, hstop⟩, Option.some.injEq, ← String.toByteArray_inj,
    String.toByteArray_extract, String.toByteArray_append, String.toByteArray_append]
  simp [ByteArray.append_assoc, ByteArray.extract_append, ← String.size_toByteArray, hempty]

/-- An end of a character in front of another one cuts what stands in front of that. -/
private theorem exists_append_of_le {upto back : String} {start : Nat}
    (h : String.Pos.Raw.IsValid (upto ++ back) ⟨start⟩) (hle : start ≤ upto.utf8ByteSize) :
    ∃ front part, upto = front ++ part ∧ start = front.utf8ByteSize := by
  have hvalid : String.Pos.Raw.IsValid upto ⟨start⟩ := by
    rcases String.Pos.Raw.isValid_append.1 h with h | ⟨hge, -⟩
    · exact h
    · exact String.Pos.Raw.isValid_of_eq_rawEndPos (String.Pos.Raw.ext (Nat.le_antisymm hle hge))
  obtain ⟨front, part, heq, hstart⟩ := String.Pos.Raw.isValid_iff_exists_append.1 hvalid
  exact ⟨front, part, heq, congrArg String.Pos.Raw.byteIdx hstart⟩

/-- There is a part between two offsets if they cut the text in three, and only then. -/
theorem slice?_eq_some_iff {text part : String} {start stop : Nat} :
    slice? text start stop = some part ↔
      ∃ front back, text = front ++ part ++ back ∧ start = front.utf8ByteSize ∧
        stop = front.utf8ByteSize + part.utf8ByteSize := by
  constructor
  · intro h
    have hrange := h
    unfold slice? at hrange
    split at hrange
    · rename_i hvalid
      obtain ⟨hle, hstart, hstop⟩ := hvalid
      obtain ⟨upto, back, rfl, hupto⟩ := String.Pos.Raw.isValid_iff_exists_append.1 hstop
      obtain rfl : stop = upto.utf8ByteSize := congrArg String.Pos.Raw.byteIdx hupto
      obtain ⟨front, part', rfl, rfl⟩ := exists_append_of_le hstart hle
      rw [String.utf8ByteSize_append] at h ⊢
      obtain rfl := Option.some.inj ((slice?_append front part' back).symm.trans h)
      exact ⟨front, back, rfl, rfl, rfl⟩
    · contradiction
  · rintro ⟨front, back, rfl, rfl, rfl⟩
    exact slice?_append front part back

theorem le_of_slice? {text part : String} {start stop : Nat} (h : slice? text start stop = some part) :
    start ≤ stop ∧ stop ≤ text.utf8ByteSize ∧ part.utf8ByteSize = stop - start := by
  obtain ⟨front, back, rfl, rfl, rfl⟩ := slice?_eq_some_iff.1 h
  simp only [String.utf8ByteSize_append]
  omega

/-- A part told by its characters. -/
theorem slice?_of_toList {text : String} {front part back : List Char} (h : text.toList = front ++ part ++ back)
    {start stop : Nat} (hstart : start = byteSize front) (hstop : stop = byteSize front + byteSize part) :
    slice? text start stop = some (String.ofList part) := by
  have htext : text = String.ofList front ++ String.ofList part ++ String.ofList back := by
    rw [← String.ofList_append, ← String.ofList_append, ← h, String.ofList_toList]
  exact slice?_eq_some_iff.2 ⟨_, _, htext, hstart, hstop⟩

/-- The end of a text told by its characters. -/
theorem slice?_rest {text : String} {front rest : List Char} (h : text.toList = front ++ rest) {start : Nat}
    (hstart : start = byteSize front) : slice? text start text.utf8ByteSize = some (String.ofList rest) := by
  have hcut : text.toList = front ++ rest ++ [] := by rw [List.append_nil, h]
  exact slice?_of_toList hcut hstart (by rw [← byteSize_toList, h, byteSize_append])

/-- The beginning of a text told by its characters. -/
theorem slice?_front {text : String} {front rest : List Char} (h : text.toList = front ++ rest) {stop : Nat}
    (hstop : stop = byteSize front) : slice? text 0 stop = some (String.ofList front) := by
  have hcut : text.toList = [] ++ front ++ rest := h
  exact slice?_of_toList hcut rfl (by rw [hstop, byteSize_nil, Nat.zero_add])

theorem minus?_of_eq_add {a b n : Nat} (h : a = b + n) : minus? a b = some n := by
  rw [minus?, if_pos (by omega), Option.some.injEq]
  omega

theorem find?_of_cut? {pattern : String} {text before after : List Char}
    (h : cut? id pattern.toList text = some (before, after)) :
    find? pattern (String.ofList text) = some (byteSize before) := by
  rw [find?, String.toList_ofList, h]
  rfl

theorem find?_of_cut?_eq_none {pattern : String} {text : List Char} (h : cut? id pattern.toList text = none) :
    find? pattern (String.ofList text) = none := by
  rw [find?, String.toList_ofList, h]
  rfl

/-! ### Bytes -/

private theorem toByteArray_eq (text : String) :
    text.toByteArray = (text.toList.flatMap String.utf8EncodeChar).toByteArray := by
  rw [← List.utf8Encode, ← String.toByteArray_ofList, String.ofList_toList]

private theorem byteAt?_eq (text : String) (offset : Nat) :
    byteAt? text offset = (text.toList.flatMap String.utf8EncodeChar)[offset]?.map Char.ofUInt8 := by
  have hget : text.toByteArray[offset]? = text.toByteArray.data[offset]? := rfl
  rw [byteAt?, hget, toByteArray_eq, List.data_toByteArray, List.getElem?_toArray]

private theorem byteSize_eq (text : List Char) :
    byteSize text = (text.flatMap String.utf8EncodeChar).length := by
  rw [byteSize, ← String.size_toByteArray, toByteArray_eq, List.size_toByteArray, String.toList_ofList]

/-- The bytes of a character that is not of ASCII are not of ASCII either. -/
private theorem le_of_mem_utf8EncodeChar {c : Char} (hc : c.utf8Size ≠ 1) :
    ∀ b ∈ String.utf8EncodeChar c, 128 ≤ b.toNat := by
  have hor : ∀ x y : UInt8, 128 ≤ y.toNat → 128 ≤ (x ||| y).toNat := by
    intro x y hy
    rw [UInt8.toNat_or]
    exact Nat.le_trans hy Nat.right_le_or
  rcases c.utf8Size_eq with h | h | h | h
  · exact absurd h hc
  · rw [String.utf8EncodeChar_eq_cons_cons h]
    simp only [List.forall_mem_cons]
    exact ⟨hor _ _ (by decide), hor _ _ (by decide), List.forall_mem_nil _⟩
  · rw [String.utf8EncodeChar_eq_cons_cons_cons h]
    simp only [List.forall_mem_cons]
    exact ⟨hor _ _ (by decide), hor _ _ (by decide), hor _ _ (by decide), List.forall_mem_nil _⟩
  · rw [String.utf8EncodeChar_eq_cons_cons_cons_cons h]
    simp only [List.forall_mem_cons]
    exact ⟨hor _ _ (by decide), hor _ _ (by decide), hor _ _ (by decide), hor _ _ (by decide),
      List.forall_mem_nil _⟩

private theorem ofUInt8_toUInt8 {c : Char} (hc : c.utf8Size = 1) : Char.ofUInt8 c.val.toUInt8 = c := by
  have hlt : c.toNat < 128 := utf8Size_eq_one_iff.1 hc
  have hmod : (Char.ofUInt8 c.val.toUInt8).toNat = c.toNat % 256 := rfl
  rw [← Char.toNat_inj, hmod, Nat.mod_eq_of_lt (by omega)]

/-- Where a character stands there are its bytes, and each of them is of a kind of ASCII characters exactly if the
character is. -/
theorem exists_byteAt? {text : String} {front rest : List Char} {c : Char} (h : text.toList = front ++ c :: rest)
    {i : Nat} (hi : i < c.utf8Size) :
    ∃ d, byteAt? text (byteSize front + i) = some d ∧ ∀ p : Char → Bool, IsAscii p → p d = p c := by
  have hlen : i < (String.utf8EncodeChar c).length := by rwa [String.length_utf8EncodeChar]
  refine ⟨Char.ofUInt8 (String.utf8EncodeChar c)[i], ?_, fun p hp => ?_⟩
  · rw [byteAt?_eq, h, List.flatMap_append, byteSize_eq, List.getElem?_append_right (Nat.le_add_right ..),
      Nat.add_sub_cancel_left, List.flatMap_cons, List.getElem?_append_left hlen, List.getElem?_eq_getElem hlen]
    rfl
  · by_cases hc : c.utf8Size = 1
    · obtain rfl : i = 0 := by omega
      simp only [String.utf8EncodeChar_eq_singleton hc, List.getElem_cons_zero, ofUInt8_toUInt8 hc]
    · have hno : ∀ d : Char, 128 ≤ d.toNat → p d = false := by
        intro d hd
        rw [Bool.eq_false_iff]
        exact fun hpd => absurd (hp d hpd) (Nat.not_lt.2 hd)
      have hbyte := le_of_mem_utf8EncodeChar hc _ (List.getElem_mem hlen)
      have hchar := Nat.not_lt.1 (mt utf8Size_eq_one_iff.2 hc)
      rw [hno (Char.ofUInt8 _) hbyte, hno c hchar]

theorem exists_firstByteAt? {text : String} {front rest : List Char} {c : Char}
    (h : text.toList = front ++ c :: rest) :
    ∃ d, byteAt? text (byteSize front) = some d ∧ ∀ p : Char → Bool, IsAscii p → p d = p c :=
  exists_byteAt? h c.utf8Size_pos

theorem byteAt?_eq_none {text : String} {front : List Char} (h : text.toList = front) :
    byteAt? text (byteSize front) = none := by
  rw [byteAt?_eq, h, byteSize_eq, List.getElem?_eq_none (Nat.le_refl _)]
  rfl

/-- A byte is an ASCII character where this character stands, and only there. -/
theorem byteAt?_eq_some_iff {text : String} {front rest : List Char} (h : text.toList = front ++ rest) {c : Char}
    (hc : c.toNat < 128) : byteAt? text (byteSize front) = some c ↔ rest.head? = some c := by
  cases rest with
  | nil => simp [byteAt?_eq_none (h.trans (List.append_nil front))]
  | cons d rest =>
    obtain ⟨e, he, hkind⟩ := exists_firstByteAt? h
    have hascii : IsAscii (· == c) := fun _ heq => beq_iff_eq.1 heq ▸ hc
    have hsame : e = c ↔ d = c := by simpa using congrArg (· = true) (hkind _ hascii)
    rw [he, Option.some.injEq, List.head?_cons, Option.some.injEq, hsame]

theorem lt_of_byteAt? {text : String} {offset : Nat} {c : Char} (h : byteAt? text offset = some c) :
    offset < text.utf8ByteSize := by
  obtain ⟨b, hb, -⟩ := Option.map_eq_some_iff.1 ((byteAt?_eq text offset).symm.trans h)
  rw [← byteSize_toList, byteSize_eq]
  exact (List.getElem?_eq_some_iff.1 hb).1

end StyledCode.Text
