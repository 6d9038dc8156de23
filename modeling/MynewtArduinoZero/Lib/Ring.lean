import Mathlib.Data.List.Basic
import Mathlib.Data.Nat.ModEq
import Mathlib.Logic.Function.Basic

/-!
# Circular buffers

A circular buffer is a memory of `size` cells that is read from index `r` on and
starts over at its end.  `window m size r n` are the `n` cells from there.  A
cell is taken at the front by `window_succ` and put at the back by
`window_update`.
-/

namespace Ring

variable {β : Type*}

/-- The `n` cells from index `r` on, around the end. -/
def window (m : Nat → β) (size r n : Nat) : List β :=
  (List.range n).map fun i => m ((r + i) % size)

@[simp] theorem length_window (m : Nat → β) (size r n : Nat) :
    (window m size r n).length = n := by
  simp [window]

@[simp] theorem window_zero (m : Nat → β) (size r : Nat) : window m size r 0 = [] := rfl

/-- The index behind another. -/
theorem next_eq {size p : Nat} (hp : p < size) :
    (if size ≤ p + 1 then 0 else p + 1) = (p + 1) % size := by
  split
  next h =>
    rw [show p + 1 = size by omega, Nat.mod_self]
  next h => rw [Nat.mod_eq_of_lt (by omega)]

theorem window_succ (m : Nat → β) {size r : Nat} (hr : r < size) (n : Nat) :
    window m size r (n + 1) = m r :: window m size ((r + 1) % size) n := by
  simp only [window, List.range_succ_eq_map, List.map_cons, List.map_map, Nat.add_zero,
    Nat.mod_eq_of_lt hr]
  congr 1
  refine List.map_congr_left fun i _ => ?_
  simp only [Function.comp_apply, Nat.mod_add_mod, Nat.succ_eq_add_one]
  congr 2
  omega

/-- The cells of a buffer that is not full are not the one behind them. -/
theorem window_update (m : Nat → β) {size r n : Nat} (hn : n < size) (b : β) :
    window (Function.update m ((r + n) % size) b) size r (n + 1) = window m size r n ++ [b] := by
  simp only [window, List.range_succ, List.map_append, List.map_cons, List.map_nil,
    Function.update_self]
  congr 1
  refine List.map_congr_left fun i hi => Function.update_of_ne ?_ _ _
  rw [List.mem_range] at hi
  intro hmod
  -- two offsets below `size` that give one index are equal
  have hcong : i % size = n % size :=
    Nat.ModEq.add_left_cancel' r (show (r + i) % size = (r + n) % size from hmod)
  rw [Nat.mod_eq_of_lt (by omega), Nat.mod_eq_of_lt hn] at hcong
  omega

end Ring
