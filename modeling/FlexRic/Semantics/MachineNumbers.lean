import Mathlib.Algebra.Ring.Int.Defs
import Mathlib.Algebra.Ring.Nat
import Mathlib.Data.Nat.Log
import Mathlib.Data.Int.Basic

/-!
# Conversions of numbers

What a number becomes in a narrower type of the machine: in a signed one of 32 bits, in an unsigned
one of 64, and in a `float`, which has 24 bits for its digits and takes the nearest number that it
can have.
-/

namespace FlexRic

/-- The conversion to `int`. -/
def toInt (z : ℤ) : ℤ := Int.bmod z (2 ^ 32)

/-- The conversion to `size_t`. -/
def toSizeT (z : ℤ) : ℕ := (z % 2 ^ 64).toNat

/-- The conversion to `float`: the nearest number of 24 digits, or of two that are as near the even
one. -/
def toFloat (n : ℕ) : ℕ :=
  let unit := 2 ^ (Nat.log2 n - 23)
  if 2 * (n % unit) < unit ∨ 2 * (n % unit) = unit ∧ n / unit % 2 = 0 then n / unit * unit
  else (n / unit + 1) * unit

theorem toInt_of_lt {n : ℕ} (h : n < 2 ^ 31) : toInt n = n :=
  Int.bmod_eq_of_le (by omega) (by omega)

theorem toSizeT_of_lt {n : ℕ} (h : n < 2 ^ 64) : toSizeT n = n := by
  rw [toSizeT, Int.emod_eq_of_lt (by omega) (by omega), Int.toNat_natCast]

/-- A number loses less than its half. -/
theorem le_two_mul_toFloat (n : ℕ) : n ≤ 2 * toFloat n := by
  have hfloor : n / 2 ^ (Nat.log2 n - 23) * 2 ^ (Nat.log2 n - 23) ≤ toFloat n := by
    rw [toFloat]
    split
    · exact le_rfl
    · exact Nat.mul_le_mul_right _ (Nat.le_succ _)
  have hmod : n % 2 ^ (Nat.log2 n - 23) ≤ n / 2 ^ (Nat.log2 n - 23) * 2 ^ (Nat.log2 n - 23) := by
    by_cases hzero : n = 0
    · rw [hzero, Nat.zero_mod]
      exact Nat.zero_le _
    · -- there is at least one digit
      have hunit : 2 ^ (Nat.log2 n - 23) ≤ n :=
        Nat.le_trans (Nat.pow_le_pow_right Nat.two_pos (Nat.sub_le _ _)) (Nat.log2_self_le hzero)
      have hdigit := Nat.div_pos hunit (Nat.two_pow_pos _)
      exact Nat.le_trans (Nat.le_of_lt (Nat.mod_lt _ (Nat.two_pow_pos _)))
        (Nat.le_mul_of_pos_left _ hdigit)
  have hsplit := Nat.div_add_mod' n (2 ^ (Nat.log2 n - 23))
  omega

/-- A power of two has one digit. -/
theorem toFloat_two_pow (k : ℕ) : toFloat (2 ^ k) = 2 ^ k := by
  have hdvd : 2 ^ (k - 23) ∣ 2 ^ k := Nat.pow_dvd_pow 2 (Nat.sub_le _ _)
  rw [toFloat, Nat.log2_two_pow, Nat.mod_eq_zero_of_dvd hdvd,
    if_pos (.inl (Nat.two_pow_pos _)), Nat.div_mul_cancel hdvd]

end FlexRic
