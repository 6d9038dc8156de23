import Mathlib.Algebra.Group.Nat.Defs
import Mathlib.Tactic.Common

/-!
# Long division in binary

The quotient and the remainder by `d`, when the dividend gets one more bit `b` at
its end: the remainder is doubled and takes the bit, and `d` is taken off it if
that is possible.  The new bit of the quotient says whether it was.
-/

namespace LongDivision

variable {m d b : Nat}

/-- The remainder with one more bit. -/
def bringDown (m d b : Nat) : Nat := 2 * (m % d) + b

theorem dividend_eq (m d b : Nat) : 2 * m + b = d * (2 * (m / d)) + bringDown m d b := by
  have hm := Nat.div_add_mod m d
  rw [bringDown, Nat.mul_left_comm]
  omega

theorem bringDown_lt (hd : 0 < d) (hb : b < 2) : bringDown m d b < 2 * d := by
  have hmod := Nat.mod_lt m hd
  rw [bringDown]
  omega

/-- The bit of the quotient is set. -/
theorem div_of_le (hd : 0 < d) (hb : b < 2) (h : d ≤ bringDown m d b) :
    (2 * m + b) / d = 2 * (m / d) + 1 ∧ (2 * m + b) % d = bringDown m d b - d := by
  have hlt := bringDown_lt (m := m) hd hb
  have heq := dividend_eq m d b
  have hunique : 2 * m + b = (bringDown m d b - d) + d * (2 * (m / d) + 1) := by
    rw [heq, Nat.mul_add, Nat.mul_one]
    omega
  exact (Nat.div_mod_unique hd).mpr ⟨hunique.symm, by omega⟩

/-- The bit of the quotient is clear. -/
theorem div_of_lt (hd : 0 < d) (h : bringDown m d b < d) :
    (2 * m + b) / d = 2 * (m / d) ∧ (2 * m + b) % d = bringDown m d b := by
  have heq := dividend_eq m d b
  exact (Nat.div_mod_unique hd).mpr ⟨by omega, h⟩

/-- A number cut behind one more bit. -/
theorem shift_succ (n i : Nat) : n / 2 ^ i = 2 * (n / 2 ^ (i + 1)) + n / 2 ^ i % 2 := by
  rw [Nat.pow_succ, ← Nat.div_div_eq_div_mul]
  exact (Nat.div_add_mod (n / 2 ^ i) 2).symm

end LongDivision
