import Mathlib.Data.Nat.Find
import MynewtArduinoZero.Lib.Serial

/-!
# Polling with a deadline

A loop that asks a clock at each evaluation of its condition, and does one call
between two evaluations.  The clock is the sequence of its readings, 32-bit
numbers that wrap around.  Between two readings it advances by less than
`2 ^ 31`, so the ticks since a reading can be told (`elapsed`), and a deadline
less than `2 ^ 31` away is before or behind a reading in the wrap-around order
as it is in time (`due_iff`).
-/

namespace Poll

open Serial

variable {σ : Type*}

/-! ## Loops -/

/-- `while (cond) body`, from the evaluation with number `i` on: the evaluation the loop ends with,
and the state there.  The condition may be undefined, and so is the loop then. -/
def pollPartial (cond : Nat → σ → Option Bool) (body : Nat → σ → σ) :
    (fuel i : Nat) → σ → Option (Nat × σ)
  | 0, _, _ => none
  | fuel + 1, i, s =>
      (cond i s).bind fun goOn =>
        if goOn then pollPartial cond body fuel (i + 1) (body i s) else some (i, s)

/-- A loop whose condition is always defined. -/
def poll (cond : Nat → σ → Bool) (body : Nat → σ → σ) : (fuel i : Nat) → σ → Option (Nat × σ) :=
  pollPartial (fun i s => some (cond i s)) body

/-- The state after `k` turns. -/
def after (body : Nat → σ → σ) : (i : Nat) → σ → (k : Nat) → σ
  | _, s, 0 => s
  | i, s, k + 1 => after body (i + 1) (body i s) k

/-- A loop ends with the first evaluation at which its condition is false, where it is defined up to
there. -/
theorem pollPartial_eq_some_iff {cond : Nat → σ → Option Bool} {body : Nat → σ → σ}
    {fuel i n : Nat} {s t : σ} :
    pollPartial cond body fuel i s = some (n, t) ↔ ∃ k < fuel, n = i + k ∧ t = after body i s k ∧
      cond (i + k) (after body i s k) = some false ∧
      ∀ j < k, cond (i + j) (after body i s j) = some true := by
  induction fuel generalizing i s with
  | zero => simp [pollPartial]
  | succ fuel ih =>
      rw [pollPartial]
      cases hcond : cond i s with
      | none =>
          refine ⟨fun h => by simp at h, ?_⟩
          rintro ⟨k, -, -, -, hend, hbefore⟩
          cases k with
          | zero => cases hcond.symm.trans hend
          | succ k => cases hcond.symm.trans (hbefore 0 (Nat.succ_pos k))
      | some goOn =>
          rw [Option.bind_some]
          cases goOn with
          | false =>
              constructor
              · intro h
                cases h
                exact ⟨0, Nat.succ_pos fuel, rfl, rfl, hcond,
                  fun j hj => absurd hj (Nat.not_lt_zero j)⟩
              · rintro ⟨k, -, rfl, rfl, -, hbefore⟩
                cases k with
                | zero => rfl
                | succ k =>
                    have htrue : cond i s = some true := hbefore 0 (Nat.succ_pos k)
                    rw [hcond] at htrue
                    cases htrue
          | true =>
              rw [if_pos rfl, ih]
              constructor
              · rintro ⟨k, hk, rfl, rfl, hend, hbefore⟩
                refine ⟨k + 1, Nat.succ_lt_succ hk, by omega, rfl, ?_, fun j hj => ?_⟩
                · rw [← Nat.add_assoc, Nat.add_right_comm]
                  exact hend
                · cases j with
                  | zero => exact hcond
                  | succ j =>
                      rw [← Nat.add_assoc, Nat.add_right_comm]
                      exact hbefore j (Nat.lt_of_succ_lt_succ hj)
              · rintro ⟨k, hk, rfl, rfl, hend, hbefore⟩
                cases k with
                | zero =>
                    have hfalse : cond i s = some false := hend
                    rw [hcond] at hfalse
                    cases hfalse
                | succ k =>
                    refine ⟨k, Nat.lt_of_succ_lt_succ hk, by omega, rfl, ?_, fun j hj => ?_⟩
                    · rw [Nat.add_right_comm, Nat.add_assoc]
                      exact hend
                    · rw [Nat.add_right_comm, Nat.add_assoc]
                      exact hbefore (j + 1) (Nat.succ_lt_succ hj)

theorem poll_eq_some_iff {cond : Nat → σ → Bool} {body : Nat → σ → σ} {fuel i n : Nat} {s t : σ} :
    poll cond body fuel i s = some (n, t) ↔ ∃ k < fuel, n = i + k ∧ t = after body i s k ∧
      cond (i + k) (after body i s k) = false ∧
      ∀ j < k, cond (i + j) (after body i s j) = true := by
  simp only [poll, pollPartial_eq_some_iff, Option.some.injEq]

/-! ## Clocks -/

/-- The clock goes on between two readings, by less than half of its range. -/
def Advances (now : Nat → UInt32) : Prop :=
  ∀ i, 0 < (now (i + 1) - now i).toNat ∧ (now (i + 1) - now i).toNat < 2 ^ 31

/-- The ticks from the reading with number `i` to the one `k` readings later. -/
def elapsed (now : Nat → UInt32) (i : Nat) : (k : Nat) → Nat
  | 0 => 0
  | k + 1 => elapsed now i k + (now (i + k + 1) - now (i + k)).toNat

/-- Of the readings behind the one with number `i`, the one with number `n` is the first that is at
or past the deadline. -/
def Due (now : Nat → UInt32) (deadline : UInt32) (i n : Nat) : Prop :=
  i < n ∧ ¬ Before (now n) deadline ∧ ∀ k, i < k → k < n → Before (now k) deadline

theorem Due.unique {now : Nat → UInt32} {deadline : UInt32} {i n m : Nat}
    (h : Due now deadline i n) (h' : Due now deadline i m) : n = m := by
  rcases Nat.lt_trichotomy n m with hlt | heq | hgt
  · exact absurd (h'.2.2 n h.1 hlt) h.2.1
  · exact heq
  · exact absurd (h.2.2 m h'.1 hgt) h'.2.1

variable {now : Nat → UInt32}

theorem reading_toNat (now : Nat → UInt32) (i k : Nat) :
    (now (i + k)).toNat = ((now i).toNat + elapsed now i k) % 2 ^ 32 := by
  induction k with
  | zero =>
      have hlt := (now i).toNat_lt
      rw [elapsed, Nat.add_zero, Nat.add_zero, Nat.mod_eq_of_lt hlt]
  | succ k ih =>
      have hlt := (now (i + k)).toNat_lt
      have hlt' := (now (i + k + 1)).toNat_lt
      rw [elapsed, UInt32.toNat_sub, ← Nat.add_assoc]
      rw [ih] at hlt ⊢
      omega

theorem elapsed_mono (now : Nat → UInt32) (i : Nat) {j k : Nat} (h : j ≤ k) :
    elapsed now i j ≤ elapsed now i k :=
  monotone_nat_of_le_succ (fun _ => Nat.le_add_right _ _) h

theorem Advances.elapsed_succ (h : Advances now) (i k : Nat) :
    elapsed now i k < elapsed now i (k + 1) ∧
      elapsed now i (k + 1) < elapsed now i k + 2 ^ 31 := by
  have hstep := h (i + k)
  rw [elapsed]
  omega

theorem Advances.le_elapsed (h : Advances now) (i k : Nat) : k ≤ elapsed now i k := by
  induction k with
  | zero => exact Nat.zero_le _
  | succ k ih =>
      have hstep := (h.elapsed_succ i k).1
      omega

theorem deadline_toNat {i ticks : Nat} (hticks : ticks < 2 ^ 31) :
    (now i + .ofNat ticks).toNat = ((now i).toNat + ticks) % 2 ^ 32 := by
  rw [UInt32.toNat_add, UInt32.toNat_ofNat_of_lt' (Nat.lt_trans hticks (by decide))]

/-- The order of a reading and a deadline, where they are not too far apart. -/
theorem before_deadline_iff {i k ticks : Nat} (hticks : ticks < 2 ^ 31)
    (hclose : elapsed now i k < ticks + 2 ^ 31) :
    Before (now (i + k)) (now i + .ofNat ticks) ↔ elapsed now i k < ticks := by
  have hreading := reading_toNat now i k
  have hlt := (now i).toNat_lt
  rw [Before, int32_neg_iff, UInt32.toNat_sub, hreading, deadline_toNat hticks]
  omega

/-- The signed difference of a deadline and a reading that are not too far apart fits where it is
the ticks between them. -/
theorem fits_sub_iff {i k ticks : Nat} (hticks : ticks < 2 ^ 31)
    (hclose : elapsed now i k < ticks + 2 ^ 31) :
    Fits (int32 (now i + .ofNat ticks) - int32 (now (i + k))) ↔
      int32 (now i + .ofNat ticks) - int32 (now (i + k)) = ticks - elapsed now i k := by
  have hreading := reading_toNat now i k
  have hdeadline := @deadline_toNat now i ticks hticks
  have hlt := (now i).toNat_lt
  unfold Fits int32
  split <;> split <;> omega

/-- The first reading at or past a deadline, by the ticks elapsed. -/
theorem due_iff (h : Advances now) {i k ticks : Nat} (hticks : ticks < 2 ^ 31) :
    Due now (now i + .ofNat ticks) i (i + k) ↔
      0 < k ∧ ticks ≤ elapsed now i k ∧ ∀ j, 0 < j → j < k → elapsed now i j < ticks := by
  -- a reading is close to the deadline when the reading before is not past it
  have hclose : ∀ m, (∀ j, 0 < j → j < m → elapsed now i j < ticks) →
      elapsed now i m < ticks + 2 ^ 31 := by
    intro m hm
    cases m with
    | zero =>
        rw [elapsed]
        omega
    | succ m =>
        have hstep := (h.elapsed_succ i m).2
        cases m with
        | zero =>
            rw [elapsed] at hstep
            omega
        | succ m =>
            have hlast := hm (m + 1) (Nat.succ_pos m) (Nat.lt_succ_self _)
            omega
  constructor
  · rintro ⟨hpos, hpast, hbefore⟩
    have hall : ∀ m, m ≤ k → ∀ j, 0 < j → j < m → elapsed now i j < ticks := by
      intro m
      induction m with
      | zero => exact fun _ j _ hj => absurd hj (Nat.not_lt_zero j)
      | succ m ih =>
          intro hm j hj hjm
          rcases Nat.lt_succ_iff_lt_or_eq.mp hjm with hlt | rfl
          · exact ih (by omega) j hj hlt
          · exact (before_deadline_iff hticks (hclose j (ih (by omega)))).mp
              (hbefore (i + j) (by omega) (by omega))
    refine ⟨by omega, ?_, hall k (Nat.le_refl k)⟩
    rw [before_deadline_iff hticks (hclose k (hall k (Nat.le_refl k)))] at hpast
    exact Nat.not_lt.mp hpast
  · rintro ⟨hpos, hpast, hbefore⟩
    refine ⟨by omega, ?_, fun m him hmk => ?_⟩
    · rw [before_deadline_iff hticks (hclose k hbefore)]
      exact Nat.not_lt.mpr hpast
    · obtain ⟨j, rfl⟩ := Nat.exists_eq_add_of_lt him
      rw [Nat.add_assoc, before_deadline_iff hticks]
      · exact hbefore (j + 1) (Nat.succ_pos j) (by omega)
      · exact hclose (j + 1) fun l hl hlj => hbefore l hl (by omega)

/-- Some reading is the first at or past a deadline. -/
theorem exists_due (h : Advances now) (i : Nat) {ticks : Nat} (hticks : ticks < 2 ^ 31) :
    ∃ k, Due now (now i + .ofNat ticks) i (i + k) := by
  have hsome : ∃ k, 0 < k ∧ ticks ≤ elapsed now i k :=
    ⟨ticks + 1, Nat.succ_pos ticks, by
      have := h.le_elapsed i (ticks + 1)
      omega⟩
  classical
  obtain ⟨hpos, hpast⟩ := Nat.find_spec hsome
  refine ⟨Nat.find hsome, (due_iff h hticks).mpr ⟨hpos, hpast, fun j hj hlt => ?_⟩⟩
  have hmin := Nat.find_min hsome hlt
  omega

end Poll
