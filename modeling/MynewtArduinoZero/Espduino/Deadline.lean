import MynewtArduinoZero.Espduino.Request
import MynewtArduinoZero.Lib.Poll

/-!
# Waits with a deadline

`esp_ready` and `esp_wait_return_timo` poll for a response until a deadline.
`end` is signed in both.  `esp_wait_return_timo` subtracts the clock from it as
a signed number and asks for the sign.  In `esp_ready` the clock is unsigned, so
the difference is, and it is positive unless it is zero: the loop ends only when
it reads the clock at the very tick of the deadline.

The product `timeout * OS_TICKS_PER_SEC` and the difference to the clock are
signed in `esp_wait_return_timo`, and where one of them does not fit in 32 bits
the call is undefined.  For the difference that is a matter of where the signed
clock wraps (`Unwrapped`): a deadline behind the wrap is out of reach for a
reading before it, however short the timeout.  `OS_TICKS_PER_SEC` is taken for a
constant of type `int`, and a conversion to `int32_t` to keep the low 32 bits.
-/

namespace Esp

open Poll Serial

/-! ## The two functions -/

/-- `CMD_IS_READY`. -/
def cmdIsReady : UInt16 := 2

/-- What comes from outside: the readings of `os_time_get` in their order, and the bytes that
`esp_process` finds in the receive ring when it is called behind a reading. -/
structure Outside where
  now : Nat → UInt32
  rx : Nat → List UInt8

/-- The call of `esp_process` behind the reading with number `n`. -/
def Outside.process (w : Outside) (n : Nat) (e : Espduino) : Espduino := (espProcess e (w.rx n)).1

/-- `while (e->e_is_return == 0 && cond(os_time_get())) esp_process();`. -/
def waitLoop (w : Outside) (cond : UInt32 → Option Bool) (fuel i : Nat) (e : Espduino) :
    Option (Nat × Espduino) :=
  pollPartial (fun n e => if e.eIsReturn then some false else cond (w.now n)) w.process fuel i e

/-- The reading behind the last one of a loop.  With `e_is_return` set the loop ends without one. -/
def nextReading (n : Nat) (e : Espduino) : Nat := if e.eIsReturn then n else n + 1

/-- `esp_ready` up to the deadline of a loop. -/
def readyRequest (e : Espduino) : Espduino :=
  (espRequestStart { e with eIsReturn := false } cmdIsReady 0 1 0).2.2

/-- One polling loop of `esp_ready` with the request before it, for a clock of `osTicksPerSec`. -/
def espReadyLoop (osTicksPerSec : Nat) (w : Outside) (fuel i : Nat) (e : Espduino) :
    Option (Nat × Espduino) :=
  let deadline := w.now i + .ofNat osTicksPerSec
  waitLoop w (fun now => some (0 < deadline - now)) fuel (i + 1) (readyRequest e)

/-- `esp_ready`, with `wait_time` loops to go. -/
def espReady (osTicksPerSec : Nat) (w : Outside) (fuel : Nat) :
    (waitTime i : Nat) → Espduino → Option (Bool × Espduino)
  | 0, _, e => some (false, e)
  | waitTime + 1, i, e =>
      (espReadyLoop osTicksPerSec w fuel i e).bind fun (n, e) =>
        if e.eIsReturn && e.eReturnValue ≠ 0 then some (true, e)
        else espReady osTicksPerSec w fuel waitTime (nextReading n e) e

/-- `timeout * OS_TICKS_PER_SEC / 1000`. -/
def timeoutTicks (osTicksPerSec : Nat) (timeout : Int) : Option Int :=
  (signed (timeout * osTicksPerSec)).map fun product => product.tdiv 1000

/-- `end - (int32_t)os_time_get() > 0`. -/
def timeLeft (deadline now : UInt32) : Option Bool :=
  (signed (int32 deadline - int32 now)).map fun left => 0 < left

/-- The polling loop of `esp_wait_return_timo`.  `none` is a loop that has not ended, or an undefined
operation. -/
def timoLoop (osTicksPerSec : Nat) (timeout : Int) (w : Outside) (fuel i : Nat) (e : Espduino) :
    Option (Nat × Espduino) :=
  (timeoutTicks osTicksPerSec timeout).bind fun ticks =>
    let deadline := w.now i + .ofInt ticks
    waitLoop w (timeLeft deadline) fuel (i + 1) { e with eIsReturn := false }

/-- `esp_wait_return_timo`: `*ret_value` where it returns true. -/
def espWaitReturnTimo (osTicksPerSec : Nat) (timeout : Int) (w : Outside) (fuel i : Nat)
    (e : Espduino) : Option (Option UInt32 × Espduino) :=
  (timoLoop osTicksPerSec timeout w fuel i e).map fun (_, e) =>
    (if e.eIsReturn then some e.eReturnValue else none, e)

/-! ## The property -/

/-- No call of `esp_process` from the reading with number `i` on brings a response. -/
def Outside.Silent (w : Outside) (i : Nat) (e : Espduino) : Prop :=
  ∀ k, (after w.process i e k).eIsReturn = false

/-- A loop ends with the first reading at or past the deadline. -/
def Honoured (w : Outside) (deadline : UInt32) (i : Nat)
    (loop : (fuel : Nat) → Option (Nat × Espduino)) : Prop :=
  ∃ n, Due w.now deadline i n ∧ ∃ fuel e, loop fuel = some (n, e)

/-- A loop in silence ends with the first reading that its condition does not hold for. -/
theorem waitLoop_eq_some_iff {w : Outside} {cond : UInt32 → Option Bool} {i k : Nat}
    {e : Espduino} (hsilent : w.Silent i e) :
    (∃ fuel t, waitLoop w cond fuel i e = some (i + k, t)) ↔
      cond (w.now (i + k)) = some false ∧ ∀ j < k, cond (w.now (i + j)) = some true := by
  constructor
  · rintro ⟨fuel, t, hend⟩
    obtain ⟨k', -, hk, -, hstop, hbefore⟩ := pollPartial_eq_some_iff.mp hend
    obtain rfl : k = k' := Nat.add_left_cancel hk
    refine ⟨?_, fun j hj => ?_⟩
    · rw [hsilent k] at hstop
      exact hstop
    · have hturn := hbefore j hj
      rw [hsilent j] at hturn
      exact hturn
  · rintro ⟨hstop, hbefore⟩
    refine ⟨k + 1, after w.process i e k, pollPartial_eq_some_iff.mpr
      ⟨k, Nat.lt_succ_self k, rfl, rfl, ?_, fun j hj => ?_⟩⟩
    · rw [hsilent k]
      exact hstop
    · rw [hsilent j]
      exact hbefore j hj

/-- A loop with a deadline in silence, by its readings up to the first one at or past it. -/
theorem honoured_iff {w : Outside} (cond : UInt32 → Option Bool) {deadline : UInt32} {i k : Nat}
    {e : Espduino} (hsilent : w.Silent (i + 1) e) (hdue : Due w.now deadline i (i + 1 + k)) :
    Honoured w deadline i (fun fuel => waitLoop w cond fuel (i + 1) e) ↔
      cond (w.now (i + 1 + k)) = some false ∧ ∀ j < k, cond (w.now (i + 1 + j)) = some true := by
  rw [← waitLoop_eq_some_iff hsilent]
  constructor
  · rintro ⟨n, hn, hend⟩
    rw [hdue.unique hn]
    exact hend
  · exact fun hend => ⟨i + 1 + k, hdue, hend⟩

theorem exists_add_of_due {now : Nat → UInt32} {deadline : UInt32} {i n : Nat}
    (h : Due now deadline i n) : ∃ k, n = i + 1 + k := by
  obtain ⟨k, hk⟩ := Nat.exists_eq_add_of_lt h.1
  exact ⟨k, by omega⟩

/-! ## The loops of `esp_ready` -/

theorem pos_sub_iff {deadline now : UInt32} : 0 < deadline - now ↔ now ≠ deadline := by
  have hd := deadline.toNat_lt
  have hn := now.toNat_lt
  rw [UInt32.lt_iff_toNat_lt, UInt32.toNat_sub, UInt32.toNat_zero, Ne, ← UInt32.toNat_inj]
  omega

/-- A loop of `esp_ready` honours its deadline where the first reading at or past it is at it. -/
theorem espReadyLoop_honoured_iff {tps : Nat} (htps : tps < 2 ^ 31) {w : Outside}
    (hclock : Advances w.now) {i : Nat} {e : Espduino}
    (hsilent : w.Silent (i + 1) (readyRequest e)) :
    Honoured w (w.now i + .ofNat tps) i (fun fuel => espReadyLoop tps w fuel i e) ↔
      ∃ n, Due w.now (w.now i + .ofNat tps) i n ∧ w.now n = w.now i + .ofNat tps := by
  obtain ⟨m, hm⟩ := exists_due hclock i htps
  obtain ⟨k, hk⟩ := exists_add_of_due hm
  rw [hk] at hm
  have hloop := honoured_iff (fun now => some (0 < w.now i + .ofNat tps - now)) hsilent hm
  simp only [Option.some.injEq] at hloop
  refine hloop.trans ⟨?_, ?_⟩
  · rintro ⟨hstop, -⟩
    refine ⟨i + 1 + k, hm, ?_⟩
    have hzero := of_decide_eq_false hstop
    rw [pos_sub_iff, not_not] at hzero
    exact hzero
  · rintro ⟨n, hn, hat⟩
    rw [← hm.unique hn] at hat
    refine ⟨?_, fun j hj => ?_⟩
    · rw [decide_eq_false_iff_not, pos_sub_iff, not_not]
      exact hat
    · rw [decide_eq_true_iff, pos_sub_iff]
      intro hbefore
      have hlt := hm.2.2 (i + 1 + j) (by omega) (by omega)
      rw [hbefore] at hlt
      exact not_before_self _ hlt

/-! ## The loop of `esp_wait_return_timo` -/

/-- The ticks of a timeout, without overflow. -/
def exactTicks (osTicksPerSec : Nat) (timeout : Int) : Nat :=
  (timeout * osTicksPerSec / 1000).toNat

/-- A product that fits gives the ticks of the timeout. -/
theorem timeoutTicks_of_lt {tps : Nat} {timeout : Int} (h0 : 0 ≤ timeout)
    (hfit : timeout * tps < 2 ^ 31) : timeoutTicks tps timeout = some ↑(exactTicks tps timeout) := by
  have hpos : 0 ≤ timeout * tps := Int.mul_nonneg h0 (Int.natCast_nonneg tps)
  have hfits : Fits (timeout * tps) := ⟨by omega, hfit⟩
  rw [timeoutTicks, signed_of_fits hfits, Option.map_some, Int.tdiv_eq_ediv_of_nonneg hpos,
    exactTicks, Int.toNat_of_nonneg (by omega)]

/-- One that does not fit is undefined. -/
theorem timeoutTicks_eq_none {tps : Nat} {timeout : Int} (hwrap : 2 ^ 31 ≤ timeout * tps) :
    timeoutTicks tps timeout = none := by
  have hfits : ¬ Fits (timeout * tps) := fun h => absurd h.2 (Int.not_lt.mpr hwrap)
  rw [timeoutTicks, signed_eq_none hfits, Option.map_none]

theorem ofInt_natCast {n : Nat} (h : n < 2 ^ 31) : UInt32.ofInt n = .ofNat n := by
  rw [UInt32.ofInt, Int.emod_eq_of_lt (Int.natCast_nonneg n) (by omega), Int.toNat_natCast]

/-- The loop tells the deadline from a reading where their signed difference is the ticks between
them. -/
theorem timeLeft_eq_some_iff {now : Nat → UInt32} {i k ticks : Nat} (hticks : ticks < 2 ^ 31)
    (hclose : elapsed now i k < ticks + 2 ^ 31) :
    timeLeft (now i + .ofNat ticks) (now (i + k)) = some (decide (elapsed now i k < ticks)) ↔
      Fits (int32 (now i + .ofNat ticks) - int32 (now (i + k))) := by
  constructor
  · intro h
    by_contra hfits
    rw [timeLeft, signed_eq_none hfits] at h
    cases h
  · intro hfits
    rw [timeLeft, signed_of_fits hfits, Option.map_some, (fits_sub_iff hticks hclose).mp hfits,
      Option.some.injEq, decide_eq_decide]
    omega

/-- The signed clock does not wrap between the first reading of a loop, or its deadline, and the
reading with number `n`. -/
def Unwrapped (now : Nat → UInt32) (deadline : UInt32) (i n : Nat) : Prop :=
  int32 deadline ≤ int32 (now n) ∧ int32 (now (i + 1)) ≤ int32 (now n)

/-- The readings up to the first one at or past a deadline are close to it. -/
theorem elapsed_lt_of_due {now : Nat → UInt32} (hclock : Advances now) {i k ticks : Nat}
    (hbefore : ∀ j, 0 < j → j < k + 1 → elapsed now i j < ticks) {j : Nat} (hj : j ≤ k) :
    elapsed now i (j + 1) < ticks + 2 ^ 31 := by
  have hlast := (hclock.elapsed_succ i j).2
  cases j with
  | zero =>
      rw [elapsed] at hlast
      omega
  | succ j =>
      have hlt := hbefore (j + 1) (Nat.succ_pos j) (by omega)
      omega

/-- The differences up to that reading fit where the signed clock does not wrap. -/
theorem unwrapped_iff {now : Nat → UInt32} (hclock : Advances now) {i k ticks : Nat}
    (hticks : ticks < 2 ^ 31) (hpast : ticks ≤ elapsed now i (k + 1))
    (hbefore : ∀ j, 0 < j → j < k + 1 → elapsed now i j < ticks) :
    Unwrapped now (now i + .ofNat ticks) i (i + (k + 1)) ↔
      ∀ j ≤ k, Fits (int32 (now i + .ofNat ticks) - int32 (now (i + (j + 1)))) := by
  have hclose := fun j (hj : j ≤ k) => elapsed_lt_of_due hclock hbefore hj
  have hrange := int32_range (now (i + (k + 1)))
  constructor
  · rintro ⟨hdeadline, hfirst⟩ j hj
    rw [fits_sub_iff hticks (hclose j hj)]
    change int32 (now (i + (0 + 1))) ≤ _ at hfirst
    -- all of them are in the same turn of the clock as the reading that is due
    have hlast := hclose k (Nat.le_refl k)
    have hj0 := elapsed_mono now i (show 0 + 1 ≤ j + 1 by omega)
    have hjk := elapsed_mono now i (show j + 1 ≤ k + 1 by omega)
    obtain ⟨c, hc⟩ := int32_of_toNat_eq (reading_toNat now i (k + 1))
    obtain ⟨c₀, hc₀⟩ := int32_of_toNat_eq (reading_toNat now i (0 + 1))
    obtain ⟨cj, hcj⟩ := int32_of_toNat_eq (reading_toNat now i (j + 1))
    obtain ⟨ce, hce⟩ := int32_of_toNat_eq (@deadline_toNat now i ticks hticks)
    have hrange₀ := int32_range (now (i + (0 + 1)))
    have hrangej := int32_range (now (i + (j + 1)))
    have hrangee := int32_range (now i + .ofNat ticks)
    have hsame : ce = c := by omega
    have hsame₀ : c₀ = c := by omega
    have hsamej : cj = c := by omega
    omega
  · intro hfits
    have hend := (fits_sub_iff hticks (hclose k (Nat.le_refl k))).mp (hfits k (Nat.le_refl k))
    have hstart := (fits_sub_iff hticks (hclose 0 (Nat.zero_le k))).mp (hfits 0 (Nat.zero_le k))
    have hmono := elapsed_mono now i (show 0 + 1 ≤ k + 1 by omega)
    refine ⟨by omega, ?_⟩
    change int32 (now (i + (0 + 1))) ≤ _
    omega

/-- A loop with the condition of `esp_wait_return_timo` honours its deadline where the signed clock
does not wrap. -/
theorem timeLeft_honoured_iff {ticks : Nat} (hticks : ticks < 2 ^ 31) {w : Outside}
    (hclock : Advances w.now) {i : Nat} {e : Espduino} (hsilent : w.Silent (i + 1) e) :
    Honoured w (w.now i + .ofNat ticks) i
        (fun fuel => waitLoop w (timeLeft (w.now i + .ofNat ticks)) fuel (i + 1) e) ↔
      ∃ n, Due w.now (w.now i + .ofNat ticks) i n ∧
        Unwrapped w.now (w.now i + .ofNat ticks) i n := by
  obtain ⟨m, hm⟩ := exists_due hclock i hticks
  obtain ⟨k, hk⟩ := exists_add_of_due hm
  have hreading : ∀ j, i + 1 + j = i + (j + 1) := fun j => by omega
  rw [hk] at hm
  rw [honoured_iff _ hsilent hm]
  simp only [hreading] at hm ⊢
  obtain ⟨-, hpast, hbefore⟩ := (due_iff hclock hticks).mp hm
  have hunwrapped := unwrapped_iff hclock hticks hpast hbefore
  have htell : ∀ j ≤ k, timeLeft (w.now i + .ofNat ticks) (w.now (i + (j + 1))) =
      some (decide (elapsed w.now i (j + 1) < ticks)) ↔
      Fits (int32 (w.now i + .ofNat ticks) - int32 (w.now (i + (j + 1)))) :=
    fun j hj => timeLeft_eq_some_iff hticks (elapsed_lt_of_due hclock hbefore hj)
  have hlate : decide (elapsed w.now i (k + 1) < ticks) = false :=
    decide_eq_false (Nat.not_lt.mpr hpast)
  have hearly : ∀ j < k, decide (elapsed w.now i (j + 1) < ticks) = true :=
    fun j hj => decide_eq_true (hbefore (j + 1) (Nat.succ_pos j) (by omega))
  constructor
  · rintro ⟨hstop, hturns⟩
    refine ⟨_, hm, hunwrapped.mpr fun j hj => ?_⟩
    rcases Nat.lt_or_eq_of_le hj with hlt | rfl
    · exact (htell j hj).mp ((hturns j hlt).trans (congrArg some (hearly j hlt).symm))
    · exact (htell j hj).mp (hstop.trans (congrArg some hlate.symm))
  · rintro ⟨n, hn, hfits⟩
    rw [← hm.unique hn, hunwrapped] at hfits
    refine ⟨?_, fun j hj => ?_⟩
    · rw [(htell k (Nat.le_refl k)).mpr (hfits k (Nat.le_refl k)), hlate]
    · rw [(htell j (Nat.le_of_lt hj)).mpr (hfits j (Nat.le_of_lt hj)), hearly j hj]

/-- `esp_wait_return_timo` honours its deadline where neither the product nor the signed clock
overflows. -/
theorem timoLoop_honoured_iff {tps : Nat} {timeout : Int} (h0 : 0 ≤ timeout)
    (hticks : exactTicks tps timeout < 2 ^ 31) {w : Outside} (hclock : Advances w.now) {i : Nat}
    {e : Espduino} (hsilent : w.Silent (i + 1) { e with eIsReturn := false }) :
    Honoured w (w.now i + .ofNat (exactTicks tps timeout)) i
        (fun fuel => timoLoop tps timeout w fuel i e) ↔
      timeout * tps < 2 ^ 31 ∧ ∃ n, Due w.now (w.now i + .ofNat (exactTicks tps timeout)) i n ∧
        Unwrapped w.now (w.now i + .ofNat (exactTicks tps timeout)) i n := by
  rcases Int.lt_or_le (timeout * tps) (2 ^ 31) with hfit | hwrap
  · have hdeadline : (fun fuel => timoLoop tps timeout w fuel i e) = fun fuel => waitLoop w
        (timeLeft (w.now i + .ofNat (exactTicks tps timeout))) fuel (i + 1)
        { e with eIsReturn := false } := by
      funext fuel
      rw [timoLoop, timeoutTicks_of_lt h0 hfit, Option.bind_some, ofInt_natCast hticks]
    rw [hdeadline, timeLeft_honoured_iff hticks hclock hsilent]
    exact (and_iff_right hfit).symm
  · have hundefined := timeoutTicks_eq_none hwrap
    refine iff_of_false ?_ fun h => absurd h.1 (Int.not_lt.mpr hwrap)
    rintro ⟨n, -, fuel, t, hend⟩
    simp only [timoLoop, hundefined] at hend
    cases hend

/-! ## Both -/

/-- In silence, on a clock that advances by less than `2 ^ 31` between its readings: a loop of
`esp_ready` ends with the first reading at or past its deadline exactly where that reading is at
the deadline.  The loop of `esp_wait_return_timo` does so exactly where
`timeout * OS_TICKS_PER_SEC` is less than `2 ^ 31` and the signed clock does not wrap from its
first reading, or from the deadline, to the one that is due. -/
theorem deadlines_honoured_iff {tps : Nat} (htps : tps < 2 ^ 31) {timeout : Int}
    (h0 : 0 ≤ timeout) (hticks : exactTicks tps timeout < 2 ^ 31) {w : Outside}
    (hclock : Advances w.now) (i : Nat) (e : Espduino) :
    (w.Silent (i + 1) (readyRequest e) →
      (Honoured w (w.now i + .ofNat tps) i (fun fuel => espReadyLoop tps w fuel i e) ↔
        ∃ n, Due w.now (w.now i + .ofNat tps) i n ∧ w.now n = w.now i + .ofNat tps)) ∧
    (w.Silent (i + 1) { e with eIsReturn := false } →
      (Honoured w (w.now i + .ofNat (exactTicks tps timeout)) i
          (fun fuel => timoLoop tps timeout w fuel i e) ↔
        timeout * tps < 2 ^ 31 ∧ ∃ n, Due w.now (w.now i + .ofNat (exactTicks tps timeout)) i n ∧
          Unwrapped w.now (w.now i + .ofNat (exactTicks tps timeout)) i n)) :=
  ⟨espReadyLoop_honoured_iff htps hclock, timoLoop_honoured_iff h0 hticks hclock⟩

/-- A clock that is read every `gap` ticks, and nothing received. -/
def idleOutside (start : UInt32) (gap : Nat) : Outside :=
  ⟨fun n => start + .ofNat (gap * n), fun _ => []⟩

theorem idleOutside_sub (start : UInt32) {gap : Nat} (hgap : gap < 2 ^ 32) (i : Nat) :
    ((idleOutside start gap).now (i + 1) - (idleOutside start gap).now i).toNat = gap := by
  have hmul : gap * (i + 1) = gap * i + gap := rfl
  rw [UInt32.toNat_sub]
  simp only [idleOutside, UInt32.toNat_add, UInt32.toNat_ofNat', hmul]
  omega

theorem idleOutside_advances (start : UInt32) {gap : Nat} (hpos : 0 < gap) (hgap : gap < 2 ^ 31) :
    Advances (idleOutside start gap).now := by
  intro i
  rw [idleOutside_sub start (by omega)]
  exact ⟨hpos, hgap⟩

theorem idleOutside_elapsed (start : UInt32) (k : Nat) :
    elapsed (idleOutside start 1).now 0 k = k := by
  induction k with
  | zero => rfl
  | succ k ih => rw [elapsed, ih, idleOutside_sub start (by decide)]

theorem idleOutside_silent {start : UInt32} {gap i : Nat} {e : Espduino}
    (h : e.eIsReturn = false) : (idleOutside start gap).Silent i e := by
  intro k
  induction k generalizing i with
  | zero => exact h
  | succ k ih => exact ih

/-- On a clock that is read at every tick, a deadline is due when it is reached. -/
theorem idleOutside_due (start : UInt32) {ticks : Nat} (hpos : 0 < ticks) (hticks : ticks < 2 ^ 31) :
    Due (idleOutside start 1).now ((idleOutside start 1).now 0 + .ofNat ticks) 0 (0 + ticks) := by
  refine (due_iff (idleOutside_advances start (by decide) (by decide)) hticks).mpr
    ⟨hpos, ?_, fun j _ hj => ?_⟩
  · rw [idleOutside_elapsed]
  · rw [idleOutside_elapsed]
    exact hj

theorem deadlines_honoured_idleOutside :
    Honoured (idleOutside 0 1) 1000 0 (fun fuel => espReadyLoop 1000 (idleOutside 0 1) fuel 0
      (espduinoInit fun _ => 0)) ∧
    Honoured (idleOutside 0 1) 2000 0 (fun fuel => timoLoop 1000 2000 (idleOutside 0 1) fuel 0
      (espduinoInit fun _ => 0)) := by
  have hiff := @deadlines_honoured_iff 1000 (by decide) 2000 (by decide) (by decide)
    (idleOutside 0 1) (idleOutside_advances 0 (by decide) (by decide)) 0 (espduinoInit fun _ => 0)
  exact ⟨(hiff.1 (idleOutside_silent rfl)).mpr
      ⟨_, idleOutside_due 0 (by decide) (by decide), rfl⟩,
    (hiff.2 (idleOutside_silent rfl)).mpr
      ⟨by decide, _, idleOutside_due 0 (by decide) (by decide), by decide, by decide⟩⟩

/-- On a clock that is read every 16 ticks the difference of `esp_ready` is never zero, and
`esp_ready` does not return.  A wait of 100 ticks that begins 16 ticks before the signed clock wraps
is undefined at its first reading. -/
theorem deadlines_not_honoured :
    Advances (idleOutside 0 16).now ∧
      (idleOutside 0 16).Silent 1 (readyRequest (espduinoInit fun _ => 0)) ∧
      (∀ fuel, espReady 1000 (idleOutside 0 16) fuel 5 0 (espduinoInit fun _ => 0) = none) ∧
      Advances (idleOutside 0x7ffffff0 1).now ∧
      (idleOutside 0x7ffffff0 1).Silent 1 (espduinoInit fun _ => 0) ∧
      exactTicks 1000 100 = 100 ∧ ∀ fuel,
        espWaitReturnTimo 1000 100 (idleOutside 0x7ffffff0 1) fuel 0 (espduinoInit fun _ => 0) =
          none := by
  have hsilent : (idleOutside 0 16).Silent 1 (readyRequest (espduinoInit fun _ => 0)) :=
    idleOutside_silent rfl
  refine ⟨idleOutside_advances 0 (by decide) (by decide), hsilent, fun fuel => ?_,
    idleOutside_advances _ (by decide) (by decide), idleOutside_silent rfl, by decide,
    fun fuel => ?_⟩
  · have hloop : espReadyLoop 1000 (idleOutside 0 16) fuel 0 (espduinoInit fun _ => 0) = none := by
      refine Option.eq_none_iff_forall_ne_some.mpr fun (n, t) hend => ?_
      obtain ⟨k, -, -, -, hstop, -⟩ := pollPartial_eq_some_iff.mp hend
      rw [hsilent k] at hstop
      have hat : (idleOutside 0 16).now (1 + k) = 1000 := by
        simpa [pos_sub_iff, idleOutside] using hstop
      have hmod : 16 * (1 + k) % 2 ^ 32 = 1000 := by
        have htoNat := congrArg UInt32.toNat hat
        simp only [idleOutside, UInt32.zero_add, UInt32.toNat_ofNat'] at htoNat
        exact htoNat
      omega
    rw [espReady, hloop]
    rfl
  · cases fuel with
    | zero => rfl
    | succ fuel => rfl

end Esp
