import Mathlib.Data.Nat.Basic

/-!
# The timer counter

One timer counter of the SAMD21 in its 16-bit mode, as `hal_timer.c` uses it,
with its interrupt in the NVIC.  The counter counts up; when it wraps, the OVF
flag is set, and when it reaches CC0, the MC0 flag is set.  OVF always requests
the interrupt (`hal_timer_config` enables it and nothing disables it), MC0 when
`mc0En` is set.

The counter moves between any two accesses, so everything is said about
`elapse n`, the state `n` ticks later.  `elapsed` counts the ticks since the
counter was started, and `missed` says that an overflow stayed unserviced for a
whole period: the counter wrapped while OVF was set.
-/

namespace HalTimer

/-- Ticks of a period. -/
def period : Nat := 65536

/-- The registers of the timer counter. -/
@[ext] structure Tc where
  count : Nat
  count_lt : count < period
  /-- INTFLAG.OVF. -/
  ovf : Bool
  /-- INTFLAG.MC0. -/
  mc0 : Bool
  /-- INTENSET.MC0. -/
  mc0En : Bool
  cc0 : Nat
  cc0_lt : cc0 < period
  /-- The interrupt is pending in the NVIC. -/
  pending : Bool
  /-- Ticks so far. -/
  elapsed : Nat
  /-- The counter wrapped while OVF was set. -/
  missed : Bool
deriving DecidableEq

namespace Tc

/-- The counter after `tc_enable`. -/
def init : Tc where
  count := 0
  count_lt := by decide
  ovf := false
  mc0 := false
  mc0En := false
  cc0 := 0
  cc0_lt := by decide
  pending := false
  elapsed := 0
  missed := false

/-- A flag that requests the interrupt is set. -/
def line (tc : Tc) : Bool := tc.ovf || (tc.mc0 && tc.mc0En)

/-- One tick. -/
def tick (tc : Tc) : Tc :=
  { tc with
    count := (tc.count + 1) % period
    count_lt := Nat.mod_lt _ (by decide)
    ovf := tc.ovf || tc.count + 1 = period
    mc0 := tc.mc0 || (tc.count + 1) % period = tc.cc0
    elapsed := tc.elapsed + 1
    missed := tc.missed || (tc.ovf && tc.count + 1 = period) }

/-- `n` ticks. -/
def elapse (n : Nat) (tc : Tc) : Tc :=
  { tc with
    count := (tc.count + n) % period
    count_lt := Nat.mod_lt _ (by decide)
    ovf := tc.ovf || period ≤ tc.count + n
    mc0 := tc.mc0 || (tc.cc0 + (period - 1 - tc.count)) % period < n
    elapsed := tc.elapsed + n
    missed := tc.missed || (tc.ovf && period ≤ tc.count + n) || 2 * period ≤ tc.count + n }

/-! ## Register accesses -/

/-- INTENCLR.MC0. -/
def intenclrMc0 (tc : Tc) : Tc := { tc with mc0En := false }

/-- INTENSET.MC0. -/
def intensetMc0 (tc : Tc) : Tc := { tc with mc0En := true }

/-- Writing a one to INTFLAG.MC0. -/
def clearMc0 (tc : Tc) : Tc := { tc with mc0 := false }

/-- Writing a one to INTFLAG.OVF. -/
def clearOvf (tc : Tc) : Tc := { tc with ovf := false }

/-- `tc_set_compare_value` on channel 0. -/
def setCompareValue (value : Nat) (tc : Tc) : Tc :=
  { tc with cc0 := value % period, cc0_lt := Nat.mod_lt _ (by decide) }

/-- `NVIC_SetPendingIRQ`. -/
def setPendingIrq (tc : Tc) : Tc := { tc with pending := true }

/-! ## Ticks -/

/-- `n` ticks are ticks, one after the other. -/
theorem elapse_succ (n : Nat) (tc : Tc) : elapse (n + 1) tc = tick (elapse n tc) := by
  have hcount := tc.count_lt
  have hcc0 := tc.cc0_lt
  unfold period at hcount hcc0
  have hwrap : (65536 ≤ tc.count + (n + 1)) ↔
      65536 ≤ tc.count + n ∨ (tc.count + n) % 65536 + 1 = 65536 := by omega
  have hagain : (2 * 65536 ≤ tc.count + (n + 1)) ↔ 2 * 65536 ≤ tc.count + n ∨
      65536 ≤ tc.count + n ∧ (tc.count + n) % 65536 + 1 = 65536 := by omega
  have hmatch : (tc.cc0 + (65536 - 1 - tc.count)) % 65536 < n + 1 ↔
      (tc.cc0 + (65536 - 1 - tc.count)) % 65536 < n ∨
        ((tc.count + n) % 65536 + 1) % 65536 = tc.cc0 := by omega
  ext
  · simp only [elapse, tick, period]
    omega
  · simp only [elapse, tick, period, hwrap]
    cases tc.ovf <;> grind
  · simp only [elapse, tick, period, hmatch]
    cases tc.mc0 <;> grind
  · rfl
  · rfl
  · rfl
  · simp only [elapse, tick, Nat.add_assoc]
  · simp only [elapse, tick, period, hwrap, hagain]
    cases tc.missed <;> cases tc.ovf <;> grind

theorem elapse_zero (tc : Tc) : elapse 0 tc = tc := by
  have hcount := tc.count_lt
  have hno : ¬ period ≤ tc.count := Nat.not_le.mpr hcount
  have hno2 : ¬ 2 * period ≤ tc.count := by omega
  ext <;> simp [elapse, Nat.mod_eq_of_lt hcount, hno, hno2]

/-- Without an overflow left unserviced, the counter and the flag tell the ticks. -/
theorem elapse_clock {n : Nat} {tc : Tc} (h : (elapse n tc).missed = false) :
    period * (elapse n tc).ovf.toNat + (elapse n tc).count
      = period * tc.ovf.toNat + tc.count + n := by
  have hcount := tc.count_lt
  simp only [elapse, Bool.or_eq_false_iff, Bool.and_eq_false_iff, decide_eq_false_iff_not] at h ⊢
  obtain ⟨⟨-, hagain⟩, htwice⟩ := h
  unfold period at *
  cases hovf : tc.ovf with
  | true =>
      have hno : ¬ 65536 ≤ tc.count + n := hagain.resolve_left (by simp [hovf])
      simp only [Bool.true_or, Bool.toNat_true]
      omega
  | false =>
      rw [Bool.false_or]
      by_cases hwrap : 65536 ≤ tc.count + n
      · rw [decide_eq_true hwrap, Bool.toNat_true, Bool.toNat_false]
        omega
      · rw [decide_eq_false hwrap, Bool.toNat_false]
        omega

/-- A flag that is clear now was clear before. -/
theorem ovf_eq_false_of_elapse {n : Nat} {tc : Tc} (h : (elapse n tc).ovf = false) :
    tc.ovf = false :=
  (Bool.or_eq_false_iff.mp h).1

theorem missed_eq_false_of_elapse {n : Nat} {tc : Tc} (h : (elapse n tc).missed = false) :
    tc.missed = false := by
  simp only [elapse, Bool.or_eq_false_iff] at h
  exact h.1.1

@[simp] theorem elapse_elapsed (n : Nat) (tc : Tc) : (elapse n tc).elapsed = tc.elapsed + n := rfl

/-- From `tc` to `tc'` ticks have passed, and neither the counter nor OVF was written. -/
structure Flows (tc tc' : Tc) : Prop where
  elapsed_le : tc.elapsed ≤ tc'.elapsed
  missed : tc'.missed = false → tc.missed = false
  ovf : tc.ovf = true → tc'.ovf = true
  clock : tc'.missed = false →
    period * tc'.ovf.toNat + tc'.count + tc.elapsed = period * tc.ovf.toNat + tc.count + tc'.elapsed

namespace Flows

theorem refl (tc : Tc) : tc.Flows tc := ⟨Nat.le_refl _, id, id, fun _ => rfl⟩

theorem trans {tc tc' tc'' : Tc} (h : tc.Flows tc') (h' : tc'.Flows tc'') : tc.Flows tc'' where
  elapsed_le := Nat.le_trans h.elapsed_le h'.elapsed_le
  missed := fun hmissed => h.missed (h'.missed hmissed)
  ovf := fun hovf => h'.ovf (h.ovf hovf)
  clock := fun hmissed => by
    have hfirst := h.clock (h'.missed hmissed)
    have hsecond := h'.clock hmissed
    omega

theorem elapse {tc tc' : Tc} (h : tc.Flows tc') (n : Nat) : tc.Flows (tc'.elapse n) := by
  refine h.trans ⟨Nat.le_add_right _ n, missed_eq_false_of_elapse, fun hovf => ?_, fun hmissed => ?_⟩
  · rw [Tc.elapse, hovf, Bool.true_or]
  · rw [elapse_clock hmissed, elapse_elapsed]
    omega

theorem intenclrMc0 {tc tc' : Tc} (h : tc.Flows tc') : tc.Flows tc'.intenclrMc0 :=
  ⟨h.elapsed_le, h.missed, h.ovf, h.clock⟩

theorem intensetMc0 {tc tc' : Tc} (h : tc.Flows tc') : tc.Flows tc'.intensetMc0 :=
  ⟨h.elapsed_le, h.missed, h.ovf, h.clock⟩

theorem clearMc0 {tc tc' : Tc} (h : tc.Flows tc') : tc.Flows tc'.clearMc0 :=
  ⟨h.elapsed_le, h.missed, h.ovf, h.clock⟩

theorem setCompareValue {tc tc' : Tc} (h : tc.Flows tc') (value : Nat) :
    tc.Flows (tc'.setCompareValue value) :=
  ⟨h.elapsed_le, h.missed, h.ovf, h.clock⟩

theorem setPendingIrq {tc tc' : Tc} (h : tc.Flows tc') : tc.Flows tc'.setPendingIrq :=
  ⟨h.elapsed_le, h.missed, h.ovf, h.clock⟩

end Flows

/-! ## Requests -/

/-- The interrupt is pending or requested. -/
def Requested (tc : Tc) : Prop := tc.pending = true ∨ tc.line = true

instance (tc : Tc) : Decidable tc.Requested := inferInstanceAs (Decidable (_ ∨ _))

/-- MC0 will request the interrupt before the counter wraps. -/
structure Watching (value : Nat) (tc : Tc) : Prop where
  enabled : tc.mc0En = true
  cc0 : tc.cc0 = value
  below : tc.count < tc.cc0

theorem Requested.of_pending {tc : Tc} (h : tc.pending = true) : tc.Requested := .inl h

theorem line_elapse {n : Nat} {tc : Tc} (h : tc.line = true) : (tc.elapse n).line = true := by
  simp only [line, Bool.or_eq_true, Bool.and_eq_true] at h ⊢
  rcases h with hovf | ⟨hmc0, hen⟩
  · exact .inl (by rw [elapse, hovf, Bool.true_or])
  · exact .inr ⟨by rw [elapse, hmc0, Bool.true_or], hen⟩

theorem Requested.elapse {tc : Tc} (h : tc.Requested) (n : Nat) : (tc.elapse n).Requested :=
  h.imp id line_elapse

/-- Either the counter is still below CC0 or it has set the flag on the way. -/
theorem Watching.elapse {tc : Tc} {value : Nat} (h : tc.Watching value) (n : Nat) :
    (tc.elapse n).Requested ∨ (tc.elapse n).Watching value := by
  have hcc0 := tc.cc0_lt
  have hbelow := h.below
  unfold period at hcc0
  by_cases hreach : tc.count + n < tc.cc0
  · refine .inr { enabled := h.enabled, cc0 := h.cc0, below := ?_ }
    simp only [Tc.elapse, period]
    omega
  · have hmc0 : (tc.elapse n).mc0 = true := by
      simp only [Tc.elapse, Bool.or_eq_true, period]
      exact .inr (decide_eq_true (by omega))
    refine .inl (.inr ?_)
    rw [line, hmc0, show (tc.elapse n).mc0En = true from h.enabled, Bool.and_true, Bool.or_true]

end Tc

end HalTimer
