import Mathlib.Data.Nat.Log
import StyledCode.Text.Numeral

/-!
# Padded numerals

* `IsPadded` : the numeral of a number at a width, said of its characters
* `isPadded_iff` : `padded` gives this numeral, and there is no other one
* `isDigit_of_mem_repr`, `ofDigitChars_repr` : the same of a numeral without zeros in front
-/

namespace StyledCode.Text

/-- A numeral of decimal digits with a value, as long as the value needs or as the width if that is more. -/
structure IsPadded (width n : Nat) (text : String) : Prop where
  digits : ∀ c ∈ text.toList, c.isDigit = true
  value : Nat.ofDigitChars 10 text.toList 0 = n
  length : text.length = max width (Nat.log 10 n + 1)

theorem isDigit_of_mem_repr {n : Nat} {c : Char} (h : c ∈ n.repr.toList) : c.isDigit = true := by
  rw [Nat.toList_repr] at h
  exact Nat.isDigit_of_mem_toDigits (by decide) (by decide) h

theorem ofDigitChars_repr (n : Nat) : Nat.ofDigitChars 10 n.repr.toList 0 = n := by
  rw [Nat.toList_repr, Nat.ofDigitChars_ten_toDigits]

private theorem length_repr (n : Nat) : n.repr.length = Nat.log 10 n + 1 := by
  apply Nat.le_antisymm
  · exact (Nat.length_repr_le_iff (Nat.succ_pos _)).2 (Nat.lt_pow_succ_log_self (by decide) n)
  · have hlt : n < 10 ^ n.repr.length := (Nat.length_repr_le_iff Nat.length_repr_pos).1 (Nat.le_refl _)
    exact Nat.log_lt_of_lt_pow' Nat.length_repr_pos.ne' hlt

theorem toList_padded (width n : Nat) :
    (padded width n).toList = List.replicate (width - n.repr.length) '0' ++ n.repr.toList := by
  simp [padded]

private theorem isPadded_padded (width n : Nat) : IsPadded width n (padded width n) where
  digits := by
    intro c hc
    rw [toList_padded, List.mem_append] at hc
    rcases hc with hc | hc
    · rw [List.eq_of_mem_replicate hc]
      rfl
    · exact isDigit_of_mem_repr hc
  value := by
    rw [toList_padded, Nat.ofDigitChars_append, Nat.ofDigitChars_replicate_zero, Nat.mul_zero, ofDigitChars_repr]
  length := by
    rw [← String.length_toList, toList_padded, List.length_append, List.length_replicate, String.length_toList,
      length_repr]
    omega

/-- Equally many digits, read behind a number each, come to the same value only if the numbers and the digits are the
same. -/
private theorem ofDigitChars_inj {digits digits' : List Char} (h : ∀ c ∈ digits, c.isDigit = true)
    (h' : ∀ c ∈ digits', c.isDigit = true) (hlength : digits.length = digits'.length) {init init' : Nat}
    (hvalue : Nat.ofDigitChars 10 digits init = Nat.ofDigitChars 10 digits' init') :
    init = init' ∧ digits = digits' := by
  induction digits generalizing digits' init init' with
  | nil =>
    obtain rfl := List.length_eq_zero_iff.1 hlength.symm
    exact ⟨hvalue, rfl⟩
  | cons c digits ih =>
    cases digits' with
    | nil => exact absurd hlength (Nat.succ_ne_zero _)
    | cons c' digits' =>
      rw [List.forall_mem_cons] at h h'
      rw [Nat.ofDigitChars_cons, Nat.ofDigitChars_cons] at hvalue
      obtain ⟨hinit, rfl⟩ := ih h.2 h'.2 (Nat.succ.inj hlength) hvalue
      have hzero : '0'.toNat = 48 := rfl
      have hnine : '9'.toNat = 57 := rfl
      have hc := Char.isDigit_iff_toNat.1 h.1
      have hc' := Char.isDigit_iff_toNat.1 h'.1
      -- the tails are read behind the same number, and a digit is what that number leaves over 10
      have hchar : c = c' := Char.toNat_inj.1 (by omega)
      rw [hchar] at hinit ⊢
      exact ⟨by omega, rfl⟩

/-- There is one numeral of a number at a width, and `padded` gives it. -/
theorem isPadded_iff {width n : Nat} {text : String} : IsPadded width n text ↔ text = padded width n := by
  constructor
  · intro h
    have hpadded := isPadded_padded width n
    have hlength : text.toList.length = (padded width n).toList.length := by
      rw [String.length_toList, String.length_toList, h.length, hpadded.length]
    have hvalue := h.value.trans hpadded.value.symm
    exact String.toList_inj.1 (ofDigitChars_inj h.digits hpadded.digits hlength hvalue).2
  · rintro rfl
    exact isPadded_padded width n

end StyledCode.Text
