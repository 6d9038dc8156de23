import Mathlib.Data.Nat.Bitwise

/-!
# Aligned windows

For a power of two `w`, the window of an address `a` is the `w` addresses from
`alignDown w a`, the largest multiple of `w` that is at most `a`.  A program on
machine words clears the low bits, `a & ~(w - 1)` (`land_not_eq_alignDown`).
-/

namespace Align

/-- The start of the window of `a`. -/
def alignDown (w a : Nat) : Nat := a - a % w

variable {w : Nat}

theorem alignDown_le (a : Nat) : alignDown w a ≤ a := Nat.sub_le ..

theorem alignDown_add_mod (a : Nat) : alignDown w a + a % w = a :=
  Nat.sub_add_cancel (Nat.mod_le ..)

theorem lt_alignDown_add (hw : 0 < w) (a : Nat) : a < alignDown w a + w := by
  have hmod := Nat.mod_lt a hw
  have hadd := alignDown_add_mod (w := w) a
  omega

theorem alignDown_mod (a : Nat) : alignDown w a % w = 0 :=
  Nat.sub_mod_eq_zero_of_mod_eq (Nat.mod_mod ..).symm

theorem alignDown_eq_mul_div (a : Nat) : alignDown w a = w * (a / w) := by
  have := Nat.div_add_mod a w
  unfold alignDown
  omega

theorem alignDown_mono {a b : Nat} (h : a ≤ b) : alignDown w a ≤ alignDown w b := by
  rw [alignDown_eq_mul_div, alignDown_eq_mul_div]
  exact Nat.mul_le_mul_left w (Nat.div_le_div_right h)

/-- The window behind the one of `a` starts where that one ends. -/
theorem alignDown_add_self (a : Nat) :
    alignDown w (alignDown w a + w) = alignDown w a + w := by
  rw [alignDown_eq_mul_div (alignDown w a + w), Nat.mul_div_cancel']
  rw [alignDown_eq_mul_div]
  exact Dvd.intro (a / w + 1) (Nat.mul_succ ..)

/-- An address inside the window of `a` has the same window. -/
theorem alignDown_eq_of_lt {a x : Nat} (hlo : a ≤ x) (hhi : x < alignDown w a + w) :
    alignDown w x = alignDown w a := by
  rw [alignDown_eq_mul_div a] at hhi ⊢
  have hdiv : x / w = a / w := by
    refine Nat.le_antisymm (Nat.le_of_lt_succ ?_) (Nat.div_le_div_right hlo)
    exact Nat.div_lt_of_lt_mul (by rwa [Nat.mul_succ])
  rw [alignDown_eq_mul_div, hdiv]

/-- Clearing the low `k` bits of an `n`-bit word. -/
theorem land_not_eq_alignDown {n k a : Nat} (hk : k ≤ n) (ha : a < 2 ^ n) :
    a &&& (2 ^ n - 1 ^^^ (2 ^ k - 1)) = alignDown (2 ^ k) a := by
  rw [alignDown_eq_mul_div]
  refine Nat.eq_of_testBit_eq fun i => ?_
  rw [Nat.testBit_and, Nat.testBit_xor, Nat.testBit_two_pow_sub_one, Nat.testBit_two_pow_sub_one,
    Nat.testBit_two_pow_mul, Nat.testBit_div_two_pow]
  by_cases hik : k ≤ i
  · rw [Nat.sub_add_cancel hik]
    by_cases hi : i < n
    · simp [hi, hik, Nat.not_lt.mpr hik]
    · have hbit : a.testBit i = false :=
        Nat.testBit_lt_two_pow (Nat.lt_of_lt_of_le ha (Nat.pow_le_pow_right (by omega) (by omega)))
      simp [hbit]
  · simp [hik, Nat.lt_of_not_le hik, show i < n by omega]

end Align
