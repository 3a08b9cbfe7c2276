import Mathlib.Algebra.Ring.Nat
import Mathlib.Data.Nat.Log
import StyledCode.Numbering.Basic

/-!
# The width of numbers

A width grows by 1 for every factor of 100 in the greatest number, and no sum on the way to it leaves 64 bits.

* `digitWidth?` : the width of the numbers, where every sum must fit into 64 bits
* `Magnitude` : how often 100 is a factor of a total
* `widen?_eq` : what the rounds of the division come to, whatever they begin with
* `log_succ_ne_iff` : where a magnitude changes
* `digitWidth_magnitude` : every sum fits, and the width is the least one and the magnitude of the greatest number
-/

namespace StyledCode.Numbering

/-! ### Sums that fit -/

/-- A sum that must fit into 64 bits. -/
def sum? (a b : UInt64) : Option UInt64 := if a.toNat + b.toNat < 2 ^ 64 then some (a + b) else none

/-- A width that grows by 1 whenever a total above 99 is divided by 100, where it must fit into 64 bits. -/
def widen? (width total : UInt64) : Option UInt64 :=
  if h : total ≤ 99 then some width
  else do
    have := div_hundred_lt h
    widen? (← sum? width 1) (total / 100)
termination_by total.toNat

/-- The width of the numbers of so many lines, where every sum must fit into 64 bits. -/
def digitWidth? (numbering : Numbering) (lines : UInt64) : Option UInt64 := do
  widen? numbering.minWidth (← sum? lines (numbering.start - 1))

private theorem sum?_of_lt (a b : UInt64) (h : a.toNat + b.toNat < 2 ^ 64) :
    sum? a b = some (a + b) ∧ (a + b).toNat = a.toNat + b.toNat := by
  rw [UInt64.toNat_add, Nat.mod_eq_of_lt h]
  exact ⟨if_pos h, rfl⟩

/-! ### Rounds of the division -/

/-- A total, which counts as 1 at least, has so many factors of 100. -/
def Magnitude (total k : Nat) : Prop := 100 ^ k ≤ max total 1 ∧ max total 1 < 100 ^ (k + 1)

theorem magnitude_iff {total k : Nat} : Magnitude total k ↔ Nat.log 100 total = k := by
  have hlog : Nat.log 100 (max total 1) = Nat.log 100 total := by
    rcases Nat.eq_zero_or_pos total with rfl | h
    · simp
    · rw [Nat.max_eq_left h]
  rw [Magnitude, ← hlog, Nat.log_eq_iff (.inr ⟨by decide, by omega⟩)]

private theorem log_toNat_le (total : UInt64) : Nat.log 100 total.toNat ≤ 9 := by
  rcases Nat.eq_zero_or_pos total.toNat with h | h
  · simp [h]
  · have hlt := total.toNat_lt
    exact Nat.lt_succ_iff.1 (Nat.log_lt_of_lt_pow h.ne' (by omega))

private theorem log_div_hundred {total : UInt64} (h : ¬ total ≤ 99) :
    Nat.log 100 total.toNat = Nat.log 100 (total / 100).toNat + 1 := by
  have hlarge : 100 ≤ total.toNat := Nat.lt_of_not_le h
  rw [Nat.log_of_one_lt_of_le (by decide) hlarge, UInt64.toNat_div]
  rfl

theorem widen?_eq {width total : UInt64} (h : width.toNat + Nat.log 100 total.toNat < 2 ^ 64) :
    widen? width total = some (widen width total) ∧
      (widen width total).toNat = width.toNat + Nat.log 100 total.toNat := by
  fun_induction widen width total with
  | case1 width total hsmall =>
    have hlog : Nat.log 100 total.toNat = 0 := Nat.log_of_lt (Nat.lt_succ_iff.2 hsmall)
    rw [widen?, dif_pos hsmall, hlog]
    exact ⟨rfl, rfl⟩
  | case2 width total hlarge _ ih =>
    -- one round takes 1 from the magnitude and gives it to the width, so that their sum stays in bounds
    rw [log_div_hundred hlarge] at h ⊢
    have hone : (1 : UInt64).toNat = 1 := rfl
    obtain ⟨hsum, hadd⟩ := sum?_of_lt width 1 (by omega)
    obtain ⟨hrest, hwidth⟩ := ih (by omega)
    rw [widen?, dif_neg hlarge, hsum, hwidth]
    exact ⟨hrest, by omega⟩

/-! ### The width -/

private theorem sum?_greatest (numbering : Numbering) {lines : UInt64} (h : lines.toNat ≤ 2 ^ 63) :
    sum? lines (numbering.start - 1) = some (lines + (numbering.start - 1)) ∧
      (lines + (numbering.start - 1)).toNat = lines.toNat + numbering.start.toNat - 1 := by
  have hone : 1 ≤ numbering.start.toNat := numbering.one_le_start
  have hlt := numbering.start_lt
  have hless : (numbering.start - 1).toNat = numbering.start.toNat - 1 :=
    UInt64.toNat_sub_of_le _ _ numbering.one_le_start
  obtain ⟨hsum, hadd⟩ := sum?_of_lt lines (numbering.start - 1) (by omega)
  exact ⟨hsum, by omega⟩

private theorem digitWidth?_eq (numbering : Numbering) {lines : UInt64} (hwidth : numbering.minWidth.toNat ≤ 2 ^ 63)
    (hlines : lines.toNat ≤ 2 ^ 63) :
    numbering.digitWidth? lines = some (numbering.digitWidth lines) ∧
      (numbering.digitWidth lines).toNat =
        numbering.minWidth.toNat + Nat.log 100 (lines.toNat + numbering.start.toNat - 1) := by
  obtain ⟨hsum, hgreatest⟩ := numbering.sum?_greatest hlines
  have hlog := log_toNat_le (lines + (numbering.start - 1))
  rw [digitWidth?, hsum, digitWidth, ← hgreatest]
  exact widen?_eq (by omega)

theorem log_succ_ne_iff {total : Nat} :
    Nat.log 100 (total + 1) ≠ Nat.log 100 total ↔ ∃ k, 0 < k ∧ total + 1 = 100 ^ k := by
  constructor
  · intro hne
    have hlt : Nat.log 100 total < Nat.log 100 (total + 1) :=
      Nat.lt_of_le_of_ne (Nat.log_mono_right (Nat.le_succ _)) hne.symm
    -- the power of 100 at most `total + 1` is more than `total`
    refine ⟨Nat.log 100 (total + 1), by omega, Nat.le_antisymm ?_ (Nat.pow_log_le_self 100 (Nat.succ_ne_zero _))⟩
    exact Nat.lt_pow_of_log_lt (by decide) hlt
  · rintro ⟨k, hk, heq⟩
    have hlt : Nat.log 100 total < k := Nat.log_lt_of_lt_pow' hk.ne' (by omega)
    rw [heq, Nat.log_pow (by decide)]
    exact hlt.ne'

/-- The greatest number of up to `2 ^ 63` lines fits into 64 bits and so does every sum for its width, which is the
least width and the magnitude of that number.  So the width never falls when the first number or the lines grow, and
with one more line it changes where the greatest number becomes 100, 10000 and so on. -/
theorem digitWidth_magnitude (numbering : Numbering) {lines : UInt64} (hwidth : numbering.minWidth.toNat ≤ 2 ^ 63)
    (hlines : lines.toNat ≤ 2 ^ 63) :
    let greatest := lines.toNat + numbering.start.toNat - 1
    (lines + (numbering.start - 1)).toNat = greatest ∧
      (∃! k, Magnitude greatest k) ∧
      (∀ k, Magnitude greatest k → ∃ width, numbering.digitWidth? lines = some width ∧
        numbering.digitWidth lines = width ∧ width.toNat = numbering.minWidth.toNat + k) ∧
      (∀ (other : Numbering) (more : UInt64), other.minWidth = numbering.minWidth → numbering.start ≤ other.start →
        lines ≤ more → more.toNat ≤ 2 ^ 63 → numbering.digitWidth lines ≤ other.digitWidth more) ∧
      (lines.toNat < 2 ^ 63 → (numbering.digitWidth (lines + 1) ≠ numbering.digitWidth lines ↔
        ∃ k, 0 < k ∧ greatest + 1 = 100 ^ k)) := by
  intro greatest
  obtain ⟨hchecked, htoNat⟩ := numbering.digitWidth?_eq hwidth hlines
  refine ⟨(numbering.sum?_greatest hlines).2, ⟨_, magnitude_iff.2 rfl, fun k hk => (magnitude_iff.1 hk).symm⟩,
    fun k hk => ⟨_, hchecked, rfl, ?_⟩, fun other more hsame hstart hmore hbound => ?_, fun hlt => ?_⟩
  · rw [htoNat, magnitude_iff.1 hk]
  · have hother := (other.digitWidth?_eq (hsame ▸ hwidth) hbound).2
    rw [UInt64.le_iff_toNat_le] at hstart hmore ⊢
    rw [htoNat, hother, hsame]
    exact Nat.add_le_add_left (Nat.log_mono_right (by omega)) _
  · have hone : 1 ≤ numbering.start.toNat := numbering.one_le_start
    have hadd : (lines + 1).toNat = lines.toNat + 1 :=
      (sum?_of_lt lines 1 (Nat.add_lt_of_lt_sub (Nat.lt_of_lt_of_le hlt (by decide)))).2
    have hbound : (lines + 1).toNat ≤ 2 ^ 63 := by omega
    have hgreatest : (lines + 1).toNat + numbering.start.toNat - 1 = greatest + 1 := by omega
    have hnext := (numbering.digitWidth?_eq hwidth hbound).2
    rw [hgreatest] at hnext
    rw [← log_succ_ne_iff, ne_eq, ← UInt64.toNat_inj, htoNat, hnext, Nat.add_left_cancel_iff]

/-- The greatest number that can arise, and the first line that needs a fourth digit. -/
theorem digitWidth_magnitude_greatest :
    let last : Numbering := { start := 0x7fffffffffffffff, minWidth := 0x8000000000000000 }
    last.minWidth.toNat ≤ 2 ^ 63 ∧ (0x8000000000000000 : UInt64).toNat ≤ 2 ^ 63 ∧
      (last.digitWidth 0x8000000000000000).toNat = 2 ^ 63 + 9 ∧
      standard.digitWidth 10000 ≠ standard.digitWidth 9999 := by
  intro last
  have hwidth : last.minWidth.toNat ≤ 2 ^ 63 := by decide
  have hlines : (0x8000000000000000 : UInt64).toNat ≤ 2 ^ 63 := by decide
  obtain ⟨-, -, hlast, -, -⟩ := digitWidth_magnitude last hwidth hlines
  obtain ⟨width, -, hdigits, hvalue⟩ := hlast 9 ⟨by decide, by decide⟩
  have hcommon : (9999 : UInt64).toNat ≤ 2 ^ 63 := by decide
  obtain ⟨-, -, -, -, hchange⟩ := digitWidth_magnitude standard (by decide) hcommon
  exact ⟨hwidth, hlines, hdigits ▸ hvalue, (hchange (by decide)).2 ⟨2, by decide, by decide⟩⟩

end StyledCode.Numbering
