import MynewtArduinoZero.Lib.Poll

/-!
# `hal_timer_delay`

The loop reads the timer until the reading is past `until`, as the sign of a
32-bit difference tells it.  The sign is right for a difference of at most
`2 ^ 31`.  A delay of more ticks starts with a larger one, and while it is
larger the loop takes `until` for a time that is over.
-/

namespace HalTimer

open Poll Serial

variable {now : Nat → UInt32} {ticks : UInt32}

/-- `(int32_t)(hal_timer_read(timer_num) - until) <= 0` for a reading. -/
def notPast (reading endTime : UInt32) : Bool := int32 (reading - endTime) ≤ 0

/-- `hal_timer_delay` with the results of `hal_timer_read` in their order: the number of the reading
behind which it returns. -/
def halTimerDelay (now : Nat → UInt32) (ticks : UInt32) (fuel : Nat) : Option Nat :=
  (poll (fun n _ => notPast (now n) (now 0 + ticks)) (fun _ s => s) fuel 1 ()).map Prod.fst

/-- The clock does not stand still for half of its range between two readings. -/
def Steady (now : Nat → UInt32) : Prop := ∀ i, (now (i + 1) - now i).toNat < 2 ^ 31

/-- The reading with number `n` is the first one with more than `ticks` elapsed. -/
def FirstPast (now : Nat → UInt32) (ticks : UInt32) (n : Nat) : Prop :=
  ticks.toNat < elapsed now 0 n ∧ ∀ j < n, elapsed now 0 j ≤ ticks.toNat

/-- The call delays by `ticks`, and by no more than it takes to see it. -/
structure Delays (now : Nat → UInt32) (ticks : UInt32) : Prop where
  atLeast : ∀ fuel n, halTimerDelay now ticks fuel = some n → ticks.toNat ≤ elapsed now 0 n
  returns : ∀ n, FirstPast now ticks n → ∃ fuel, halTimerDelay now ticks fuel = some n

/-! ## The loop -/

/-- It ends with the first reading that is past the end time, as the code tells it. -/
theorem halTimerDelay_eq_some_iff {fuel n : Nat} :
    halTimerDelay now ticks fuel = some n ↔ 0 < n ∧ n ≤ fuel ∧
      notPast (now n) (now 0 + ticks) = false ∧
      ∀ j, 0 < j → j < n → notPast (now j) (now 0 + ticks) = true := by
  simp only [halTimerDelay, Option.map_eq_some_iff, Prod.exists, exists_and_right, exists_eq_right,
    poll_eq_some_iff]
  constructor
  · rintro ⟨-, k, hk, rfl, -, hend, hbefore⟩
    refine ⟨by omega, by omega, hend, fun j hpos hj => ?_⟩
    obtain ⟨i, rfl⟩ := Nat.exists_eq_add_of_lt hpos
    rw [Nat.zero_add, Nat.add_comm]
    exact hbefore i (by omega)
  · rintro ⟨hpos, hfuel, hend, hbefore⟩
    obtain ⟨k, rfl⟩ := Nat.exists_eq_add_of_le (show 1 ≤ n from hpos)
    exact ⟨(), k, by omega, rfl, trivial, hend, fun j hj => hbefore (1 + j) (by omega) (by omega)⟩

theorem Steady.elapsed_succ (h : Steady now) (k : Nat) :
    elapsed now 0 (k + 1) < elapsed now 0 k + 2 ^ 31 := by
  have hstep := h (0 + k)
  rw [elapsed]
  omega

/-- The sign of the difference, by the ticks elapsed modulo the range of the clock. -/
theorem notPast_iff (now : Nat → UInt32) (ticks : UInt32) (n : Nat) :
    notPast (now n) (now 0 + ticks) = true ↔
      (elapsed now 0 n + (2 ^ 32 - ticks.toNat)) % 2 ^ 32 = 0 ∨
        2 ^ 31 ≤ (elapsed now 0 n + (2 ^ 32 - ticks.toNat)) % 2 ^ 32 := by
  have hreading := reading_toNat now 0 n
  rw [Nat.zero_add] at hreading
  have hlt := (now 0).toNat_lt
  have hticks := ticks.toNat_lt
  have hdiff : (now n - (now 0 + ticks)).toNat =
      (elapsed now 0 n + (2 ^ 32 - ticks.toNat)) % 2 ^ 32 := by
    rw [UInt32.toNat_sub, UInt32.toNat_add, hreading]
    omega
  rw [notPast, decide_eq_true_iff, ← hdiff, Int.le_iff_lt_or_eq, int32_neg_iff, int32_eq_zero_iff,
    ← UInt32.toNat_inj, UInt32.toNat_zero]
  exact or_comm

/-- The code is right about a reading that is less than half of the range behind `until`, and at
most half of it before. -/
theorem notPast_iff_of_close {n : Nat} (hbefore : ticks.toNat ≤ elapsed now 0 n + 2 ^ 31)
    (hbehind : elapsed now 0 n < ticks.toNat + 2 ^ 31) :
    notPast (now n) (now 0 + ticks) = true ↔ elapsed now 0 n ≤ ticks.toNat := by
  have hticks := ticks.toNat_lt
  rw [notPast_iff]
  omega

/-- It is wrong about one that is further before. -/
theorem notPast_of_far {n : Nat} (hfar : elapsed now 0 n + 2 ^ 31 < ticks.toNat) :
    notPast (now n) (now 0 + ticks) = false := by
  have hticks := ticks.toNat_lt
  rw [← Bool.not_eq_true, notPast_iff]
  omega

/-! ## When the delay is right -/

/-- A loop whose first reading is near enough is right about every reading it makes. -/
theorem notPast_iff_of_first (h : Steady now) (hfirst : ticks.toNat ≤ elapsed now 0 1 + 2 ^ 31)
    {n : Nat} (hn : 0 < n) (hspin : ∀ j < n, elapsed now 0 j ≤ ticks.toNat) :
    notPast (now n) (now 0 + ticks) = true ↔ elapsed now 0 n ≤ ticks.toNat := by
  have hmono := elapsed_mono now 0 (show 1 ≤ n from hn)
  obtain ⟨k, rfl⟩ := Nat.exists_eq_add_of_lt hn
  have hlast := hspin (0 + k) (by omega)
  have hstep := h.elapsed_succ (0 + k)
  exact notPast_iff_of_close (by omega) (by omega)

/-- While the loop goes on, no more than `ticks` have elapsed. -/
theorem elapsed_le_of_notPast (h : Steady now)
    (hfirst : ticks.toNat ≤ elapsed now 0 1 + 2 ^ 31) {n : Nat}
    (hspin : ∀ j, 0 < j → j < n → notPast (now j) (now 0 + ticks) = true) :
    ∀ j < n, elapsed now 0 j ≤ ticks.toNat := by
  intro j
  induction j using Nat.strong_induction_on with
  | _ j ih =>
      intro hj
      cases j with
      | zero => exact Nat.zero_le _
      | succ j =>
          exact (notPast_iff_of_first h hfirst (Nat.succ_pos j) fun i hi =>
            ih i hi (by omega)).mp (hspin (j + 1) (Nat.succ_pos j) hj)

/-- `hal_timer_delay` delays by `ticks` exactly when they are at most `2 ^ 31` more than have
elapsed at the first reading of the loop. -/
theorem halTimerDelay_delays_iff (h : Steady now) :
    Delays now ticks ↔ ticks.toNat ≤ elapsed now 0 1 + 2 ^ 31 := by
  constructor
  · intro hdelays
    by_contra hfar
    have hfirst : halTimerDelay now ticks 1 = some 1 :=
      halTimerDelay_eq_some_iff.mpr
        ⟨Nat.one_pos, Nat.le_refl 1, notPast_of_far (by omega), fun j hpos hj => by omega⟩
    have hlate := hdelays.atLeast 1 1 hfirst
    omega
  · intro hfirst
    refine ⟨fun fuel n hret => ?_, fun n hn => ⟨n, ?_⟩⟩
    · obtain ⟨hpos, -, hend, hspin⟩ := halTimerDelay_eq_some_iff.mp hret
      have hbefore := elapsed_le_of_notPast h hfirst hspin
      rw [← Bool.not_eq_true, notPast_iff_of_first h hfirst hpos hbefore] at hend
      omega
    · obtain ⟨hpast, hbefore⟩ := hn
      have hpos : 0 < n := Nat.pos_of_ne_zero fun h0 => by
        subst h0
        exact absurd hpast (Nat.not_lt_zero _)
      refine halTimerDelay_eq_some_iff.mpr ⟨hpos, Nat.le_refl n, ?_, fun j hj hjn => ?_⟩
      · rw [← Bool.not_eq_true, notPast_iff_of_first h hfirst hpos hbefore]
        omega
      · exact (notPast_iff_of_first h hfirst hj fun i hi => hbefore i (by omega)).mpr
          (hbefore j hjn)

/-- A clock that goes on by one between two readings. -/
def everyTick (n : Nat) : UInt32 := .ofNat n

theorem everyTick_step (i : Nat) : everyTick (i + 1) - everyTick i = 1 := by
  rw [everyTick, everyTick, UInt32.ofNat_add, UInt32.add_comm, UInt32.add_sub_cancel]
  rfl

theorem everyTick_steady : Steady everyTick := by
  intro i
  rw [everyTick_step]
  decide

/-- Half of the range and one tick more can be delayed by. -/
theorem halTimerDelay_delays_half : Delays everyTick 0x80000001 :=
  (halTimerDelay_delays_iff everyTick_steady).mpr (by decide)

/-- A delay of `0xffffffff` ticks is over at the first reading of the loop. -/
theorem halTimerDelay_returns_early :
    Steady everyTick ∧ halTimerDelay everyTick 0xffffffff 1 = some 1 ∧
      elapsed everyTick 0 1 = 1 ∧ ¬ Delays everyTick 0xffffffff := by
  refine ⟨everyTick_steady, by decide, by decide, fun hdelays => ?_⟩
  exact absurd (hdelays.atLeast 1 1 (by decide)) (by decide)

end HalTimer
