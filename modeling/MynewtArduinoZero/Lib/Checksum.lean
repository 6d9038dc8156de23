import MynewtArduinoZero.Lib.Cells

/-!
# Running checksums

A checksum is computed value by value: `step acc b` is the accumulator behind
`b`.  Where a step keeps accumulators apart, and two steps keep any two pairs of
values apart, the checksum of a run of cells changes with any change of at most
two adjacent cells (`Detecting.eq_of_foldl_eq`).
-/

namespace Checksum

open Cells

variable {α β : Type*} {step : α → β → α}

/-- What the steps tell apart. -/
structure Detecting (step : α → β → α) : Prop where
  acc : ∀ {a a' b}, step a b = step a' b → a = a'
  two : ∀ {a b b' c d}, step (step a b) c = step (step a b') d → b = b' ∧ c = d

namespace Detecting

theorem one (h : Detecting step) {a : α} {b b' : β} (heq : step a b = step a b') : b = b' :=
  (h.two (c := b) (d := b) (congrArg (step · b) heq)).1

theorem foldl_acc (h : Detecting step) {l : List β} {a a' : α}
    (heq : l.foldl step a = l.foldl step a') : a = a' := by
  induction l generalizing a a' with
  | nil => exact heq
  | cons b l ih => exact h.acc (ih heq)

/-- Two runs that differ in at most two adjacent cells and have one checksum are equal. -/
theorem eq_of_foldl_eq (h : Detecting step) {m m' : Nat → β} {a : α} {n k : Nat}
    (hk : ∀ x < n, x ≠ k → x ≠ k + 1 → m' x = m x)
    (heq : (bytesAt m' 0 n).foldl step a = (bytesAt m 0 n).foldl step a) :
    ∀ x < n, m' x = m x := by
  have hbefore : ∀ j ≤ k, j ≤ n → bytesAt m' 0 j = bytesAt m 0 j := fun j hj hn =>
    bytesAt_congr fun i hi => hk _ (by omega) (by omega) (by omega)
  rcases Nat.lt_trichotomy n (k + 1) with hlt | rfl | hgt
  · exact fun x hx => hk x hx (by omega) (by omega)
  · -- only the first of the two cells is in the run
    rw [bytesAt_add m', bytesAt_add m, hbefore k (Nat.le_refl k) (Nat.le_succ k),
      List.foldl_append, List.foldl_append] at heq
    have hcell : m' k = m k := by simpa using h.one heq
    intro x hx
    rcases Nat.lt_succ_iff_lt_or_eq.mp hx with hxk | rfl
    · exact hk x hx (by omega) (by omega)
    · exact hcell
  · obtain ⟨r, rfl⟩ := Nat.exists_eq_add_of_le (show k + 2 ≤ n from hgt)
    have hbehind : bytesAt m' (0 + (k + 2)) r = bytesAt m (0 + (k + 2)) r :=
      bytesAt_congr fun i hi => hk _ (by omega) (by omega) (by omega)
    rw [bytesAt_add m', bytesAt_add m, hbehind, List.foldl_append, List.foldl_append] at heq
    have hhead := h.foldl_acc heq
    rw [bytesAt_add m', bytesAt_add m, hbefore k (Nat.le_refl k) (by omega), List.foldl_append,
      List.foldl_append] at hhead
    have hcells : m' k = m k ∧ m' (k + 1) = m (k + 1) := by simpa using h.two hhead
    intro x hxn
    by_cases hx : x = k
    · exact hx ▸ hcells.1
    · by_cases hx' : x = k + 1
      · exact hx' ▸ hcells.2
      · exact hk x hxn hx hx'

end Detecting

end Checksum
