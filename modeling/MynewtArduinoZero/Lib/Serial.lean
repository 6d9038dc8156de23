import Mathlib.Algebra.Group.Int.Defs
import Mathlib.Algebra.Group.Nat.Defs
import Mathlib.Data.List.MinMax

/-!
# Wrap-around order

Times that wrap around are compared by the sign of their difference:
`(int32_t)(a - b) < 0` says that `a` comes before `b`.  That is no order on all
32-bit numbers, but it is one on the numbers of a window of fewer than `2 ^ 31`
(`before_iff`), where it is the order of the distances from the window's start.

A signed operation does not wrap: it has a result where that fits in 32 bits
(`signed`).
-/

namespace Serial

/-- The value of `(int32_t)x`. -/
def int32 (x : UInt32) : Int := if x.toNat < 2 ^ 31 then x.toNat else x.toNat - 2 ^ 32

/-- `(int32_t)(a - b) < 0`. -/
def Before (a b : UInt32) : Prop := int32 (a - b) < 0

instance (a b : UInt32) : Decidable (Before a b) := inferInstanceAs (Decidable (_ < _))

/-- The numbers lie in a window of fewer than `2 ^ 31`. -/
def InWindow (l : List UInt32) : Prop := ∃ base : UInt32, ∀ a ∈ l, (a - base).toNat < 2 ^ 31

theorem int32_neg_iff {x : UInt32} : int32 x < 0 ↔ 2 ^ 31 ≤ x.toNat := by
  have hlt := x.toNat_lt
  unfold int32
  split <;> omega

theorem int32_eq_zero_iff {x : UInt32} : int32 x = 0 ↔ x = 0 := by
  have hlt := x.toNat_lt
  rw [← UInt32.toNat_inj, UInt32.toNat_zero]
  unfold int32
  split <;> omega

theorem int32_range (x : UInt32) : -2 ^ 31 ≤ int32 x ∧ int32 x < 2 ^ 31 := by
  have hlt := x.toNat_lt
  unfold int32
  split <;> omega

/-- The signed value of what is congruent to `n`. -/
theorem int32_of_toNat_eq {x : UInt32} {n : Nat} (h : x.toNat = n % 2 ^ 32) :
    ∃ c : Int, int32 x = n - c * 2 ^ 32 := by
  unfold int32
  split
  · exact ⟨n / 2 ^ 32, by omega⟩
  · exact ⟨n / 2 ^ 32 + 1, by omega⟩

/-- Two numbers without a difference are equal. -/
theorem eq_of_int32_sub_eq_zero {a b : UInt32} (h : int32 (a - b) = 0) : a = b := by
  have hlta := a.toNat_lt
  have hltb := b.toNat_lt
  rw [int32_eq_zero_iff, ← UInt32.toNat_inj, UInt32.toNat_sub, UInt32.toNat_zero] at h
  rw [← UInt32.toNat_inj]
  omega

/-- The order of two numbers of a window. -/
theorem before_iff {base a b : UInt32} (ha : (a - base).toNat < 2 ^ 31)
    (hb : (b - base).toNat < 2 ^ 31) :
    Before a b ↔ (a - base).toNat < (b - base).toNat := by
  have hlta := a.toNat_lt
  have hltb := b.toNat_lt
  have hltbase := base.toNat_lt
  rw [Before, int32_neg_iff]
  rw [UInt32.toNat_sub] at ha hb ⊢
  rw [UInt32.toNat_sub, UInt32.toNat_sub]
  omega

theorem not_before_self (a : UInt32) : ¬ Before a a := by
  rw [Before, UInt32.sub_self]
  decide

theorem InWindow.subset {l r : List UInt32} (h : InWindow r) (hl : ∀ a ∈ l, a ∈ r) :
    InWindow l := by
  obtain ⟨base, hbase⟩ := h
  exact ⟨base, fun a ha => hbase a (hl a ha)⟩

/-- In a window, what is not after `b` is before what `b` is before. -/
theorem InWindow.before_of_not_before {l : List UInt32} (h : InWindow l) {a b c : UInt32}
    (ha : a ∈ l) (hb : b ∈ l) (hc : c ∈ l) (hab : Before a b) (hcb : ¬ Before c b) :
    Before a c := by
  obtain ⟨base, hbase⟩ := h
  rw [before_iff (hbase a ha) (hbase b hb)] at hab
  rw [before_iff (hbase c hc) (hbase b hb)] at hcb
  rw [before_iff (hbase a ha) (hbase c hc)]
  omega

/-- In a window, nothing comes before what comes before it. -/
theorem InWindow.not_before {l : List UInt32} (h : InWindow l) {a b : UInt32} (ha : a ∈ l)
    (hb : b ∈ l) (hab : Before a b) : ¬ Before b a := by
  obtain ⟨base, hbase⟩ := h
  rw [before_iff (hbase a ha) (hbase b hb)] at hab
  rw [before_iff (hbase b hb) (hbase a ha)]
  omega

/-- A window may be taken to start at one of its numbers. -/
theorem inWindow_iff {l : List UInt32} :
    InWindow l ↔ l = [] ∨ ∃ base ∈ l, ∀ a ∈ l, (a - base).toNat < 2 ^ 31 := by
  constructor
  · rintro ⟨base, hbase⟩
    cases hmin : l.argmin fun a => (a - base).toNat with
    | none => exact .inl (List.argmin_eq_none.mp hmin)
    | some m =>
        have hm := List.argmin_mem hmin
        refine .inr ⟨m, hm, fun a ha => ?_⟩
        have hle : (m - base).toNat ≤ (a - base).toNat :=
          List.le_of_mem_argmin (f := fun a => (a - base).toNat) ha hmin
        have hlt := hbase a ha
        have hlta := a.toNat_lt
        have hltm := m.toNat_lt
        have hltbase := base.toNat_lt
        rw [UInt32.toNat_sub] at hle hlt ⊢
        rw [UInt32.toNat_sub] at hle
        omega
  · rintro (rfl | ⟨base, -, hbase⟩)
    · exact ⟨0, fun a ha => by cases ha⟩
    · exact ⟨base, hbase⟩

-- Only the numbers of the list are tried, of all there are.
instance (l : List UInt32) : Decidable (InWindow l) :=
  have (base : UInt32) : Decidable (∀ a ∈ l, (a - base).toNat < 2 ^ 31) := List.decidableBAll _ l
  have : Decidable (∃ base ∈ l, ∀ a ∈ l, (a - base).toNat < 2 ^ 31) := List.decidableBEx _ l
  decidable_of_iff _ inWindow_iff.symm

/-! ## Signed operations -/

/-- The number is a 32-bit signed one. -/
def Fits (x : Int) : Prop := -2 ^ 31 ≤ x ∧ x < 2 ^ 31

instance (x : Int) : Decidable (Fits x) := inferInstanceAs (Decidable (_ ∧ _))

/-- A signed operation with the result `x`.  `none` is an overflow, which is undefined. -/
def signed (x : Int) : Option Int := if Fits x then some x else none

theorem signed_of_fits {x : Int} (h : Fits x) : signed x = some x := if_pos h

theorem signed_eq_none {x : Int} (h : ¬ Fits x) : signed x = none := if_neg h

/-! ## Sorted lists -/

/-- No number of the list comes before an earlier one. -/
def Sorted (l : List UInt32) : Prop := l.Pairwise fun a b => ¬ Before b a

/-- What comes before the first number of a sorted list comes before them all. -/
theorem Sorted.before_of_head {l : List UInt32} {a : UInt32} (h : Sorted l)
    (hwindow : InWindow (a :: l)) (hhead : ∀ b, l.head? = some b → Before a b) :
    ∀ b ∈ l, Before a b := by
  cases l with
  | nil => exact fun b hb => by cases hb
  | cons c l =>
      have hac := hhead c rfl
      intro b hb
      rcases List.mem_cons.mp hb with rfl | hbl
      · exact hac
      · exact hwindow.before_of_not_before (b := c) (by simp) (by simp) (by simp [hbl]) hac
          ((List.pairwise_cons.mp h).1 b hbl)

/-- A number put behind those it does not come before and ahead of one it comes before. -/
theorem Sorted.insert {l r : List UInt32} {a : UInt32} (h : Sorted (l ++ r))
    (hwindow : InWindow (l ++ a :: r)) (hl : ∀ b ∈ l, ¬ Before a b)
    (hr : ∀ b, r.head? = some b → Before a b) : Sorted (l ++ a :: r) := by
  obtain ⟨hsl, hsr, hlr⟩ := List.pairwise_append.mp h
  have hafter : ∀ b ∈ r, Before a b :=
    Sorted.before_of_head hsr (hwindow.subset fun b hb => List.mem_append_right l hb) hr
  refine List.pairwise_append.mpr ⟨hsl, List.pairwise_cons.mpr ⟨fun b hb => ?_, hsr⟩, ?_⟩
  · exact hwindow.not_before (by simp) (by simp [hb]) (hafter b hb)
  · intro b hb c hc
    rcases List.mem_cons.mp hc with rfl | hc
    · exact hl b hb
    · exact hlr b hb c hc

end Serial
