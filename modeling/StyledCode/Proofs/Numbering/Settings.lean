import StyledCode.Numbering.Basic

/-!
# Settings of a numbering

* `withStart_eq`, `withMinWidth_eq` : a setting is changed to the nearest one that makes sense, and no other is touched
* `settings_eq_iff` : the numbering with given settings
-/

namespace StyledCode.Numbering

/-- Another first number changes nothing else. -/
theorem withStart_eq (numbering : Numbering) (n : Int64) :
    ∃ start one_le_start start_lt,
      numbering.withStart n = { numbering with start, one_le_start, start_lt } ∧
        start.toNat = max n.toInt.toNat 1 := by
  have hlt := n.toNatClampNeg_lt
  have hvalue : (UInt64.ofNat n.toNatClampNeg).toNat = n.toNatClampNeg := by
    rw [UInt64.toNat_ofNat', Nat.mod_eq_of_lt (by omega)]
  unfold withStart
  dsimp only
  split
  · rename_i h
    refine ⟨_, h, by rwa [hvalue], rfl, ?_⟩
    rw [UInt64.le_iff_toNat_le, hvalue] at h
    rw [hvalue]
    exact (Nat.max_eq_left h).symm
  · rename_i h
    refine ⟨1, by decide, by decide, rfl, ?_⟩
    rw [UInt64.le_iff_toNat_le, hvalue] at h
    exact (Nat.max_eq_right (Nat.le_of_not_le h)).symm

/-- Another least width changes nothing else. -/
theorem withMinWidth_eq (numbering : Numbering) (width : UInt64) :
    ∃ minWidth two_le_minWidth,
      numbering.withMinWidth width = { numbering with minWidth, two_le_minWidth } ∧
        minWidth.toNat = max width.toNat 2 := by
  unfold withMinWidth
  split
  · rename_i h
    exact ⟨width, h, rfl, (Nat.max_eq_left (UInt64.le_iff_toNat_le.1 h)).symm⟩
  · rename_i h
    refine ⟨2, by decide, rfl, ?_⟩
    rw [UInt64.le_iff_toNat_le] at h
    exact (Nat.max_eq_right (Nat.le_of_not_le h)).symm

private theorem eq_iff {numbering other : Numbering} :
    numbering = other ↔ numbering.start = other.start ∧ numbering.minWidth = other.minWidth ∧
      numbering.separator = other.separator ∧ numbering.lineBreak = other.lineBreak ∧ numbering.dark = other.dark ∧
      numbering.fontSize = other.fontSize := by
  cases numbering
  cases other
  simp only [mk.injEq]

/-- A numbering with given settings is the one with the nearest settings that make sense. -/
theorem settings_eq_iff {n : Int64} {width : UInt64} {separator lineBreak : String} {dark : Bool} {fontSize : Float32}
    {numbering : Numbering} :
    (((((standard.withStart n).withMinWidth width).withSeparator separator).withLineBreak lineBreak).withDark
        dark).withFontSize fontSize = numbering ↔
      numbering.start.toNat = max n.toInt.toNat 1 ∧ numbering.minWidth.toNat = max width.toNat 2 ∧
        numbering.separator = (if separator = "" then "  " else separator) ∧
        numbering.lineBreak = (if lineBreak = "" then "\n" else lineBreak) ∧
        numbering.dark = dark ∧ numbering.fontSize = fontSize := by
  obtain ⟨start, one_le_start, start_lt, hstart, hfirst⟩ := withStart_eq standard n
  obtain ⟨minWidth, two_le, hminWidth, hwidth⟩ := withMinWidth_eq { standard with start, one_le_start, start_lt } width
  rw [hstart, hminWidth, eq_comm, eq_iff, ← hfirst, ← hwidth, UInt64.toNat_inj, UInt64.toNat_inj]
  rfl

end StyledCode.Numbering
