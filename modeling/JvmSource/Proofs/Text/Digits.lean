import Mathlib.Tactic.Common
import Mathlib.Tactic.NormNum
import JvmSource.Text.Digits

/-!
# Digits that are read again

The decimal digits of a number stand for that number, and the first of them is a zero only if the
number is zero.
-/

namespace JvmSource.Text

theorem numberOf_concat (base : Nat) (digits : Text) (c : Char) :
    numberOf base (digits ++ [c]) = numberOf base digits * base + (digitValue? c).getD 0 := by
  rw [numberOf, List.foldl_append]
  rfl

theorem digitValue?_digitChar {digit : Nat} (h : digit < 10) :
    digitValue? digit.digitChar = some digit := by
  have hall : ∀ digit < 10, digitValue? digit.digitChar = some digit := by decide
  exact hall digit h

theorem numberOf_toDigits (n : Nat) : numberOf 10 (Nat.toDigits 10 n) = n := by
  induction n using Nat.strongRecOn with
  | ind n ih =>
    by_cases hsmall : n < 10
    · rw [Nat.toDigits_of_lt_base hsmall]
      show 0 * 10 + (digitValue? n.digitChar).getD 0 = n
      rw [digitValue?_digitChar hsmall, Option.getD_some]
      omega
    · have hmod : n % 10 < 10 := by omega
      rw [Nat.toDigits_of_base_le (by norm_num) (by omega), numberOf_concat,
        ih (n / 10) (by omega), digitValue?_digitChar hmod, Option.getD_some]
      omega

/-- Leading zeros are not written. -/
theorem head?_toDigits {n : Nat} (h : n ≠ 0) : (Nat.toDigits 10 n).head? ≠ some '0' := by
  induction n using Nat.strongRecOn with
  | ind n ih =>
    by_cases hsmall : n < 10
    · have hall : ∀ n < 10, n ≠ 0 → some n.digitChar ≠ some '0' := by decide
      rw [Nat.toDigits_of_lt_base hsmall]
      exact hall n hsmall h
    · have hfront := ih (n / 10) (by omega) (by omega)
      obtain ⟨first, rest, hcons⟩ :=
        List.exists_cons_of_ne_nil (Nat.toDigits_ne_nil (n := n / 10) (b := 10))
      rw [hcons] at hfront
      rw [Nat.toDigits_of_base_le (by norm_num) (by omega), hcons]
      exact hfront

end JvmSource.Text
