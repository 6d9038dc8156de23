import Mathlib.Data.Nat.Bitwise
import MynewtArduinoZero.Lib.LongDivision
import MynewtArduinoZero.Spi.Driver

/-!
# Baud rates

The values for the `BAUD` register, as `spi_init` and `usart_init` have them
computed from the rate that is asked for and the clock of the SERCOM.

A synchronous rate is `clock / (2 (BAUD + 1))`.  It is found by subtracting, with a
16-bit count that wraps.  An asynchronous rate is, with `S` samples for a bit,
`clock (65536 - BAUD) / (65536 S)` in the arithmetic mode and
`clock / (S (INT + FP / 8))` in the fractional mode.
-/

namespace Sercom

/-- The status of a computation that has not succeeded. -/
inductive StatusCode where
  | errBaudrateUnavailable
deriving DecidableEq, Repr

/-! ## Division -/

/-- `r` with the bit of `n` that is next. -/
def nextBit (n bitShift r : UInt64) : UInt64 :=
  if n &&& bitShift ≠ 0 then r <<< 1 ||| 0x01 else r <<< 1

/-- The turns of `long_division` for the bits below `i`. -/
def longDivisionLoop (n d : UInt64) : (i : Nat) → (q r : UInt64) → UInt64
  | 0, q, _ => q
  | i + 1, q, r =>
      let bitShift : UInt64 := 1 <<< UInt64.ofNat i
      let r := nextBit n bitShift r
      if d ≤ r then longDivisionLoop n d i (q ||| bitShift) (r - d)
      else longDivisionLoop n d i q r

def longDivision (n d : UInt64) : UInt64 := longDivisionLoop n d 64 0 0

/-! ## Synchronous rates -/

/-- The loop of `_sercom_get_sync_baud_val`, up to a number of turns. -/
def syncLoop (baudrate : UInt32) : (fuel : Nat) → UInt32 → UInt16 → Option UInt16
  | 0, _, _ => none
  | fuel + 1, clockValue, baudCalculated =>
      if baudrate ≤ clockValue then
        syncLoop baudrate fuel (clockValue - baudrate) (baudCalculated + 1)
      else some baudCalculated

/-- `_sercom_get_sync_baud_val`.  There is no result while its loop goes on. -/
def sercomGetSyncBaudVal (fuel : Nat) (baudrate externalClock : UInt32) :
    Option (Except StatusCode UInt16) :=
  if externalClock / 2 < baudrate then some (.error .errBaudrateUnavailable)
  else
    (syncLoop baudrate fuel (externalClock / 2) 0).map fun baudCalculated =>
      if 0xff < baudCalculated - 1 then .error .errBaudrateUnavailable
      else .ok (baudCalculated - 1)

/-! ## Asynchronous rates -/

/-- `enum sercom_asynchronous_sample_num`. -/
inductive SampleNum where
  | three
  | eight
  | sixteen
deriving DecidableEq, Repr

def SampleNum.value : SampleNum → UInt32
  | .three => 3
  | .eight => 8
  | .sixteen => 16

/-- The arithmetic mode. -/
def arithmeticBaud (baudrate peripheralClock : UInt32) (sampleNum : SampleNum) : UInt16 :=
  let temp1 := (sampleNum.value.toUInt64 * baudrate.toUInt64) <<< 32
  let ratio := longDivision temp1 peripheralClock.toUInt64
  let scale := (1 : UInt64) <<< 32 - ratio
  ((65536 * scale) >>> 32).toUInt16

/-- The integer part, for a fractional part `baudFp`. -/
def fractionalInt (baudrate peripheralClock : UInt32) (sampleNum : SampleNum) (baudFp : UInt8) :
    UInt32 :=
  let temp1 := 8 * peripheralClock.toUInt64
  let temp2 := baudrate.toUInt64 * sampleNum.value.toUInt64
  ((longDivision temp1 temp2).toUInt32 - baudFp.toUInt32) / 8

/-- The loop of the fractional mode, which tries one fractional part after the other. -/
def fractionalLoop (baudrate peripheralClock : UInt32) (sampleNum : SampleNum) :
    (left : Nat) → (baudFp : UInt8) → Except StatusCode UInt16
  | 0, _ => .error .errBaudrateUnavailable
  | left + 1, baudFp =>
      let baudInt := fractionalInt baudrate peripheralClock sampleNum baudFp
      if baudInt < 8192 then .ok (baudInt ||| baudFp.toUInt32 <<< 13).toUInt16
      else fractionalLoop baudrate peripheralClock sampleNum left (baudFp + 1)

inductive OperationMode where
  | arithmetic
  | fractional
deriving DecidableEq, Repr

/-- `_sercom_get_async_baud_val`.  The product of the check is one of 32 bits. -/
def sercomGetAsyncBaudVal (baudrate peripheralClock : UInt32) (mode : OperationMode)
    (sampleNum : SampleNum) : Except StatusCode UInt16 :=
  if peripheralClock < baudrate * sampleNum.value then .error .errBaudrateUnavailable
  else
    match mode with
    | .arithmetic => .ok (arithmeticBaud baudrate peripheralClock sampleNum)
    | .fractional => fractionalLoop baudrate peripheralClock sampleNum 8 0

/-! ## The division divides -/

open LongDivision

theorem toNat_bitShift {i : Nat} (h : i < 64) :
    ((1 : UInt64) <<< UInt64.ofNat i).toNat = 2 ^ i := by
  have hi : (UInt64.ofNat i).toNat = i := by
    rw [UInt64.toNat_ofNat']
    exact Nat.mod_eq_of_lt (by omega)
  rw [UInt64.toNat_shiftLeft, hi, Nat.mod_eq_of_lt h]
  show 1 <<< i % 2 ^ 64 = 2 ^ i
  rw [Nat.one_shiftLeft]
  exact Nat.mod_eq_of_lt (Nat.pow_lt_pow_right (by decide) h)

theorem land_bitShift_ne_zero {n : UInt64} {i : Nat} (h : i < 64) :
    n &&& 1 <<< UInt64.ofNat i ≠ 0 ↔ n.toNat / 2 ^ i % 2 = 1 := by
  have hland : (n &&& 1 <<< UInt64.ofNat i).toNat = (n.toNat.testBit i).toNat * 2 ^ i := by
    rw [UInt64.toNat_and, toNat_bitShift h, Nat.and_two_pow]
  have hpos : 0 < 2 ^ i := Nat.two_pow_pos i
  rw [Nat.testBit_eq_decide_div_mod_eq] at hland
  constructor
  · intro hne
    by_contra hclear
    rw [decide_eq_false hclear, Bool.toNat_false, Nat.zero_mul] at hland
    exact hne (UInt64.toNat_inj.mp hland)
  · intro hset hzero
    rw [hzero, decide_eq_true hset, Bool.toNat_true, Nat.one_mul] at hland
    exact absurd hland hpos.ne

/-- Where bit `i` of the dividend is to come: quotient and remainder of what is above it. -/
structure Divided (n d : UInt64) (i : Nat) (q r : UInt64) : Prop where
  quotient : q.toNat = n.toNat / 2 ^ i / d.toNat * 2 ^ i
  remainder : r.toNat = n.toNat / 2 ^ i % d.toNat

/-- The remainder takes the next bit without wrapping. -/
theorem Divided.nextBit {n d : UInt64} {i : Nat} (hi : i < 64) {q r : UInt64}
    (h : Divided n d (i + 1) q r) :
    (nextBit n (1 <<< UInt64.ofNat i) r).toNat =
      bringDown (n.toNat / 2 ^ (i + 1)) d.toNat (n.toNat / 2 ^ i % 2) := by
  have hn : n.toNat < 2 ^ 64 := n.toNat_lt
  have hshort : n.toNat / 2 ^ (i + 1) < 2 ^ (64 - (i + 1)) := by
    rw [Nat.div_lt_iff_lt_mul (Nat.two_pow_pos _), ← Nat.pow_add]
    rwa [Nat.sub_add_cancel hi]
  have hle : n.toNat / 2 ^ (i + 1) < 2 ^ 63 :=
    Nat.lt_of_lt_of_le hshort (Nat.pow_le_pow_right (by decide) (by omega))
  have hr : r.toNat < 2 ^ 63 := by
    rw [h.remainder]
    exact Nat.lt_of_le_of_lt (Nat.mod_le _ _) hle
  have hdouble : (r <<< 1).toNat = 2 * r.toNat := by
    show r.toNat <<< 1 % 2 ^ 64 = 2 * r.toNat
    rw [Nat.shiftLeft_eq]
    omega
  rw [Sercom.nextBit, bringDown, ← h.remainder]
  split
  · rename_i hset
    have hbit := (land_bitShift_ne_zero hi).mp hset
    have hor : 2 * r.toNat ||| 1 = 2 * r.toNat + 1 := by
      have heven := Nat.shiftLeft_add_eq_or_of_lt (b := 1) (i := 1) (by decide) r.toNat
      rw [Nat.shiftLeft_eq, Nat.mul_comm] at heven
      exact heven.symm
    rw [UInt64.toNat_or, hdouble, hbit]
    exact hor
  · rename_i hclear
    have hbit : n.toNat / 2 ^ i % 2 = 0 := by
      have hne := mt (land_bitShift_ne_zero hi).mpr hclear
      omega
    rw [hdouble, hbit, Nat.add_zero]

/-- A bit of the quotient stands below all that are there. -/
theorem lor_bitShift {q : UInt64} {i a : Nat} (hi : i < 64) (hq : q.toNat = a * 2 ^ (i + 1)) :
    (q ||| 1 <<< UInt64.ofNat i).toNat = (2 * a + 1) * 2 ^ i := by
  have hbelow : 2 ^ i < 2 ^ (i + 1) := Nat.pow_lt_pow_right (by decide) (Nat.lt_succ_self i)
  rw [UInt64.toNat_or, toNat_bitShift hi, hq, ← Nat.shiftLeft_eq,
    ← Nat.shiftLeft_add_eq_or_of_lt hbelow, Nat.shiftLeft_eq, Nat.pow_succ, Nat.add_mul,
    Nat.one_mul, Nat.mul_comm 2 a, Nat.mul_assoc, Nat.mul_comm 2]

/-- The divisor goes into the remainder. -/
theorem Divided.subtract {n d : UInt64} {i : Nat} (hd : 0 < d.toNat) (hi : i < 64)
    {q r : UInt64} (h : Divided n d (i + 1) q r)
    (hle : d ≤ Sercom.nextBit n (1 <<< UInt64.ofNat i) r) :
    Divided n d i (q ||| 1 <<< UInt64.ofNat i)
      (Sercom.nextBit n (1 <<< UInt64.ofNat i) r - d) := by
  have hnext := h.nextBit hi
  have hdown : d.toNat ≤ bringDown (n.toNat / 2 ^ (i + 1)) d.toNat (n.toNat / 2 ^ i % 2) := by
    rw [← hnext]
    exact UInt64.le_iff_toNat_le.mp hle
  obtain ⟨hdiv, hmod⟩ := div_of_le hd (Nat.mod_lt _ (by decide)) hdown
  rw [← shift_succ] at hdiv hmod
  constructor
  · rw [lor_bitShift hi h.quotient, hdiv]
  · rw [UInt64.toNat_sub_of_le _ _ hle, hnext, hmod]

/-- It does not. -/
theorem Divided.skip {n d : UInt64} {i : Nat} (hd : 0 < d.toNat) (hi : i < 64)
    {q r : UInt64} (h : Divided n d (i + 1) q r)
    (hlt : ¬d ≤ Sercom.nextBit n (1 <<< UInt64.ofNat i) r) :
    Divided n d i q (Sercom.nextBit n (1 <<< UInt64.ofNat i) r) := by
  have hnext := h.nextBit hi
  have hdown : bringDown (n.toNat / 2 ^ (i + 1)) d.toNat (n.toNat / 2 ^ i % 2) < d.toNat := by
    rw [← hnext]
    exact Nat.lt_of_not_le fun hle => hlt (UInt64.le_iff_toNat_le.mpr hle)
  obtain ⟨hdiv, hmod⟩ := div_of_lt hd hdown
  rw [← shift_succ] at hdiv hmod
  constructor
  · rw [h.quotient, hdiv, Nat.pow_succ, Nat.mul_comm 2, Nat.mul_assoc, Nat.mul_comm 2]
  · rw [hnext, hmod]

theorem longDivisionLoop_eq {n d : UInt64} (hd : 0 < d.toNat) {i : Nat} (hi : i ≤ 64)
    {q r : UInt64} (h : Divided n d i q r) :
    (longDivisionLoop n d i q r).toNat = n.toNat / d.toNat := by
  induction i generalizing q r with
  | zero =>
    rw [longDivisionLoop, h.quotient, Nat.pow_zero, Nat.div_one, Nat.mul_one]
  | succ i ih =>
    rw [longDivisionLoop]
    split
    · rename_i hle
      exact ih (Nat.le_of_succ_le hi) (h.subtract hd hi hle)
    · rename_i hlt
      exact ih (Nat.le_of_succ_le hi) (h.skip hd hi hlt)

theorem longDivision_eq {n d : UInt64} (hd : 0 < d.toNat) :
    (longDivision n d).toNat = n.toNat / d.toNat := by
  refine longDivisionLoop_eq hd (Nat.le_refl 64) ?_
  have habove : n.toNat / 2 ^ 64 = 0 := Nat.div_eq_of_lt n.toNat_lt
  constructor
  · rw [habove, Nat.zero_div, Nat.zero_mul]
    rfl
  · rw [habove, Nat.zero_mod]
    rfl

/-! ## The count of the synchronous mode -/

theorem syncLoop_eq {b : UInt32} (hb : 0 < b.toNat) {fuel : Nat} {c : UInt32}
    (hfuel : c.toNat / b.toNat < fuel) (k : UInt16) :
    syncLoop b fuel c k = some (k + UInt16.ofNat (c.toNat / b.toNat)) := by
  induction fuel generalizing c k with
  | zero => exact absurd hfuel (Nat.not_lt_zero _)
  | succ fuel ih =>
    rw [syncLoop]
    split
    · rename_i hle
      have hleNat : b.toNat ≤ c.toNat := UInt32.le_iff_toNat_le.mp hle
      have hless : (c - b).toNat / b.toNat + 1 = c.toNat / b.toNat := by
        rw [UInt32.toNat_sub_of_le _ _ hle]
        exact (Nat.div_eq_sub_div hb hleNat).symm
      rw [ih (by omega), ← hless, Nat.add_comm _ 1, UInt16.ofNat_add, UInt16.add_assoc]
      rfl
    · rename_i hlt
      have hltNat : c.toNat < b.toNat :=
        Nat.lt_of_not_le fun hle => hlt (UInt32.le_iff_toNat_le.mpr hle)
      rw [Nat.div_eq_of_lt hltNat]
      exact congrArg some (UInt16.add_zero k).symm

/-- A rate of zero is never subtracted enough. -/
theorem syncLoop_zero (fuel : Nat) (c : UInt32) (k : UInt16) : syncLoop 0 fuel c k = none := by
  induction fuel generalizing c k with
  | zero => rfl
  | succ fuel ih =>
    rw [syncLoop, if_pos (UInt32.le_iff_toNat_le.mpr (Nat.zero_le _))]
    exact ih _ _

/-- What `_sercom_get_sync_baud_val` finds, from the quotient it counts. -/
def syncResult (quotient : Nat) : Except StatusCode UInt16 :=
  if 1 ≤ quotient % 65536 ∧ quotient % 65536 ≤ 256 then .ok (UInt16.ofNat (quotient % 65536 - 1))
  else .error .errBaudrateUnavailable

theorem toNat_count_sub_one (quotient : Nat) :
    (UInt16.ofNat quotient - 1).toNat = (quotient % 65536 + 65535) % 65536 := by
  rw [UInt16.toNat_sub, UInt16.toNat_ofNat']
  show (65536 - 1 + quotient % 65536) % 65536 = _
  omega

theorem sercomGetSyncBaudVal_eq {b c : UInt32} (hb : 0 < b.toNat) {fuel : Nat}
    (hfuel : c.toNat / 2 / b.toNat < fuel) :
    sercomGetSyncBaudVal fuel b c = some (syncResult (c.toNat / 2 / b.toNat)) := by
  have hhalf : (c / 2).toNat = c.toNat / 2 := rfl
  rw [sercomGetSyncBaudVal]
  split
  · rename_i hslow
    have hzero : c.toNat / 2 / b.toNat = 0 := by
      refine Nat.div_eq_of_lt ?_
      rw [← hhalf]
      exact UInt32.lt_iff_toNat_lt.mp hslow
    rw [hzero]
    rfl
  · rw [syncLoop_eq hb (by rwa [hhalf]), Option.map_some, hhalf, UInt16.zero_add]
    generalize c.toNat / 2 / b.toNat = quotient
    have hcount := toNat_count_sub_one quotient
    refine congrArg some ?_
    rw [syncResult]
    split
    · rename_i hlarge
      have hlargeNat : 255 < (UInt16.ofNat quotient - 1).toNat := UInt16.lt_iff_toNat_lt.mp hlarge
      rw [if_neg (by omega)]
    · rename_i hsmall
      have hsmallNat : ¬255 < (UInt16.ofNat quotient - 1).toNat :=
        fun hlt => hsmall (UInt16.lt_iff_toNat_lt.mpr hlt)
      rw [if_pos (by omega)]
      refine congrArg Except.ok (UInt16.toNat_inj.mp ?_)
      rw [hcount, UInt16.toNat_ofNat']
      omega

theorem syncResult_ok_iff (quotient : Nat) :
    (∃ v, syncResult quotient = .ok v) ↔ 1 ≤ quotient % 65536 ∧ quotient % 65536 ≤ 256 := by
  constructor
  · rintro ⟨v, hv⟩
    by_contra hout
    rw [syncResult, if_neg hout] at hv
    exact nomatch hv
  · intro hin
    exact ⟨_, if_pos hin⟩

theorem syncResult_ok {quotient : Nat} {v : UInt16} (h : syncResult quotient = .ok v) :
    v.toNat + 1 = quotient % 65536 ∧ v.toNat ≤ 255 := by
  obtain ⟨hone, hmax⟩ := (syncResult_ok_iff quotient).mp ⟨v, h⟩
  rw [syncResult, if_pos ⟨hone, hmax⟩] at h
  rw [← Except.ok.inj h, UInt16.toNat_ofNat']
  omega

/-- The computation ends unless the rate is zero, and the rate it finds a value for is
never below the one asked for.  It is the next one that the register has, unless the
count has wrapped. -/
theorem synchronous_rate (b c : UInt32) :
    (b = 0 → ∀ fuel, sercomGetSyncBaudVal fuel b c = none) ∧
    (b ≠ 0 → ∀ fuel, c.toNat / 2 / b.toNat < fuel →
      ∃ r, sercomGetSyncBaudVal fuel b c = some r ∧
        ((∃ v, r = .ok v) ↔
          1 ≤ c.toNat / 2 / b.toNat % 65536 ∧ c.toNat / 2 / b.toNat % 65536 ≤ 256) ∧
        ∀ v, r = .ok v → v.toNat ≤ 255 ∧ b.toNat * (v.toNat + 1) ≤ c.toNat / 2 ∧
          (c.toNat / 2 < b.toNat * (v.toNat + 2) ↔ c.toNat / 2 < b.toNat * 65536)) := by
  constructor
  · rintro rfl fuel
    have hnot : ¬c / 2 < 0 := fun hlt => Nat.not_lt_zero _ (UInt32.lt_iff_toNat_lt.mp hlt)
    rw [sercomGetSyncBaudVal, if_neg hnot, syncLoop_zero]
    rfl
  · intro hb fuel hfuel
    have hpos : 0 < b.toNat := Nat.pos_of_ne_zero fun h => hb (UInt32.toNat_inj.mp h)
    refine ⟨_, sercomGetSyncBaudVal_eq hpos hfuel, syncResult_ok_iff _, fun v hv => ?_⟩
    obtain ⟨hcount, hmax⟩ := syncResult_ok hv
    have hmod : v.toNat + 1 ≤ c.toNat / 2 / b.toNat := by
      rw [hcount]
      exact Nat.mod_le _ _
    refine ⟨hmax, ?_, ?_⟩
    · rw [Nat.mul_comm]
      exact (Nat.le_div_iff_mul_le hpos).mp hmod
    · rw [Nat.mul_comm, Nat.mul_comm b.toNat, ← Nat.div_lt_iff_lt_mul hpos,
        ← Nat.div_lt_iff_lt_mul hpos]
      omega

/-- The status that a computation ends with, and a fault where it does not end. -/
def statusOf : Option (Except StatusCode UInt16) → Except HalSpi.Fault HalSpi.Status
  | none => .error .hang
  | some (.ok _) => .ok .ok
  | some (.error .errBaudrateUnavailable) => .ok .errBaudrateUnavailable

theorem statusOf_syncResult (quotient : Nat) :
    statusOf (some (syncResult quotient)) =
      if (quotient + 65535) % 65536 > 0xff then .ok .errBaudrateUnavailable else .ok .ok := by
  rw [syncResult]
  split
  · rw [if_neg (by omega)]
    rfl
  · rw [if_pos (by omega)]
    rfl

/-- The SPI driver has the quotient in place of the turns. -/
theorem spi_sercomGetSyncBaudVal (b c : UInt32) {fuel : Nat}
    (hfuel : c.toNat / 2 / b.toNat < fuel) :
    HalSpi.sercomGetSyncBaudVal b.toNat c.toNat = statusOf (sercomGetSyncBaudVal fuel b c) := by
  rw [HalSpi.sercomGetSyncBaudVal]
  rcases Nat.eq_zero_or_pos b.toNat with hzero | hpos
  · obtain rfl : b = 0 := UInt32.toNat_inj.mp hzero
    have hnot : ¬c / 2 < 0 := fun hlt => Nat.not_lt_zero _ (UInt32.lt_iff_toNat_lt.mp hlt)
    rw [sercomGetSyncBaudVal, if_neg hnot, syncLoop_zero]
    rfl
  · rw [sercomGetSyncBaudVal_eq hpos hfuel, statusOf_syncResult]
    split
    · rename_i hslow
      rw [Nat.div_eq_of_lt hslow]
      rfl
    · rw [if_neg (Nat.ne_of_gt hpos)]

/-! ## The arithmetic mode -/

/-- The check and the division see the same product, one of 32 bits. -/
theorem toNat_shifted_product (baudrate : UInt32) (sampleNum : SampleNum) :
    ((sampleNum.value.toUInt64 * baudrate.toUInt64) <<< 32).toNat =
      (baudrate * sampleNum.value).toNat * 2 ^ 32 := by
  rw [UInt64.toNat_shiftLeft, UInt64.toNat_mul, UInt32.toNat_toUInt64, UInt32.toNat_toUInt64,
    UInt32.toNat_mul, Nat.mul_comm baudrate.toNat]
  show _ <<< 32 % 2 ^ 64 = _
  rw [Nat.shiftLeft_eq]
  omega

/-- The value, for a product that the clock has room for. -/
theorem arithmeticBaud_toNat {baudrate clock : UInt32} {sampleNum : SampleNum}
    (hclock : 0 < clock.toNat) (hfits : (baudrate * sampleNum.value).toNat ≤ clock.toNat) :
    (arithmeticBaud baudrate clock sampleNum).toNat =
      (2 ^ 32 - (baudrate * sampleNum.value).toNat * 2 ^ 32 / clock.toNat) / 65536 % 65536 := by
  have hratio : (longDivision ((sampleNum.value.toUInt64 * baudrate.toUInt64) <<< 32)
      clock.toUInt64).toNat = (baudrate * sampleNum.value).toNat * 2 ^ 32 / clock.toNat := by
    rw [longDivision_eq (by rwa [UInt32.toNat_toUInt64]), toNat_shifted_product,
      UInt32.toNat_toUInt64]
  have hle : (baudrate * sampleNum.value).toNat * 2 ^ 32 / clock.toNat ≤ 2 ^ 32 := by
    refine Nat.div_le_of_le_mul ?_
    exact Nat.mul_le_mul_right _ hfits
  rw [← hratio] at hle ⊢
  rw [arithmeticBaud]
  generalize longDivision _ _ = ratio at hle ⊢
  have hscale : ((1 : UInt64) <<< 32 - ratio).toNat = 2 ^ 32 - ratio.toNat := by
    rw [UInt64.toNat_sub_of_le _ _ (UInt64.le_iff_toNat_le.mpr hle)]
    rfl
  rw [UInt64.toNat_toUInt16, UInt64.toNat_shiftRight, UInt64.toNat_mul, hscale]
  show (65536 * (2 ^ 32 - ratio.toNat) % 2 ^ 64) >>> 32 % 65536 = _
  rw [Nat.shiftRight_eq_div_pow]
  omega

theorem arithmeticBaud_zero {baudrate clock : UInt32} {sampleNum : SampleNum}
    (h : (baudrate * sampleNum.value).toNat = 0) : arithmeticBaud baudrate clock sampleNum = 0 := by
  rcases Nat.eq_zero_or_pos clock.toNat with hzero | hclock
  · have hdividend : (sampleNum.value.toUInt64 * baudrate.toUInt64) <<< 32 = 0 := by
      refine UInt64.toNat_inj.mp ?_
      rw [toNat_shifted_product, h, Nat.zero_mul]
      rfl
    have hdivisor : clock = 0 := UInt32.toNat_inj.mp hzero
    rw [arithmeticBaud, hdividend, hdivisor]
    decide +kernel
  · refine UInt16.toNat_inj.mp ?_
    rw [arithmeticBaud_toNat hclock (h ▸ Nat.zero_le _), h, Nat.zero_mul, Nat.zero_div]
    rfl

/-- `ratio` is cut twice: to the 32 bits it is computed with, and to the 16 of the register. -/
theorem ratio_bounds {product clock ratio value : Nat} (hclock : 0 < clock)
    (hratio : ratio = product * 2 ^ 32 / clock) (hle : ratio ≤ 2 ^ 32)
    (hvalue : value = (2 ^ 32 - ratio) / 65536) :
    clock * (65536 - value) < 65536 * product + clock ∧
      65536 * (65536 * product) < 65536 * (clock * (65536 - value)) + clock := by
  have hbelow : ratio * clock ≤ product * 2 ^ 32 := hratio ▸ Nat.div_mul_le_self _ _
  have habove : product * 2 ^ 32 < (ratio + 1) * clock :=
    hratio ▸ Nat.lt_mul_of_div_lt (Nat.lt_succ_self _) hclock
  obtain ⟨hlow, hhigh⟩ : ratio ≤ 65536 * (65536 - value) ∧
      65536 * (65536 - value) < ratio + 65536 := by omega
  have hlowMul := Nat.mul_le_mul_right clock hlow
  have hhighMul := Nat.mul_lt_mul_of_pos_right hhigh hclock
  rw [Nat.add_mul] at habove hhighMul
  rw [Nat.mul_assoc, Nat.mul_comm (65536 - value)] at hlowMul hhighMul
  omega

/-- The rate is checked and computed modulo `2 ^ 32 / S`.  The one that is set is never
higher by a step of the register, nor lower by more than its 65536th part. -/
theorem arithmetic_rate (baudrate clock : UInt32) (sampleNum : SampleNum) :
    (clock.toNat < (baudrate * sampleNum.value).toNat →
      sercomGetAsyncBaudVal baudrate clock .arithmetic sampleNum =
        .error .errBaudrateUnavailable) ∧
    ((baudrate * sampleNum.value).toNat ≤ clock.toNat →
      ∃ v, sercomGetAsyncBaudVal baudrate clock .arithmetic sampleNum = .ok v ∧
        ((baudrate * sampleNum.value).toNat = 0 → v = 0) ∧
        (0 < (baudrate * sampleNum.value).toNat →
          clock.toNat * (65536 - v.toNat) <
              65536 * (baudrate * sampleNum.value).toNat + clock.toNat ∧
            65536 * (65536 * (baudrate * sampleNum.value).toNat) <
              65536 * (clock.toNat * (65536 - v.toNat)) + clock.toNat)) := by
  constructor
  · intro hfast
    exact if_pos (UInt32.lt_iff_toNat_lt.mpr hfast)
  · intro hfits
    have hcheck : ¬clock < baudrate * sampleNum.value :=
      fun hlt => Nat.not_lt_of_le hfits (UInt32.lt_iff_toNat_lt.mp hlt)
    refine ⟨arithmeticBaud baudrate clock sampleNum, if_neg hcheck, arithmeticBaud_zero,
      fun hpos => ?_⟩
    have hclock := Nat.lt_of_lt_of_le hpos hfits
    have hle : (baudrate * sampleNum.value).toNat * 2 ^ 32 / clock.toNat ≤ 2 ^ 32 :=
      Nat.div_le_of_le_mul (Nat.mul_le_mul_right _ hfits)
    -- a product that is not zero leaves a ratio that is not
    have hone : 1 ≤ (baudrate * sampleNum.value).toNat * 2 ^ 32 / clock.toNat := by
      refine (Nat.le_div_iff_mul_le hclock).mpr ?_
      have hmax := clock.toNat_lt
      omega
    refine ratio_bounds hclock rfl hle ?_
    rw [arithmeticBaud_toNat hclock hfits]
    omega

/-! ## The fractional mode -/

/-- The quotient the fractional mode works with: eight times the divisor of the clock,
in 32 bits. -/
def eighths (baudrate clock : UInt32) (sampleNum : SampleNum) : Nat :=
  8 * clock.toNat / (baudrate.toNat * sampleNum.value.toNat) % 2 ^ 32

theorem fractionalInt_toNat {baudrate clock : UInt32} {sampleNum : SampleNum}
    (hpos : 0 < baudrate.toNat) {baudFp : UInt8}
    (hle : baudFp.toNat ≤ eighths baudrate clock sampleNum) :
    (fractionalInt baudrate clock sampleNum baudFp).toNat =
      (eighths baudrate clock sampleNum - baudFp.toNat) / 8 := by
  have hsamples : 0 < sampleNum.value.toNat ∧ sampleNum.value.toNat ≤ 16 := by
    cases sampleNum <;> decide
  have hrate := baudrate.toNat_lt
  have hclock := clock.toNat_lt
  have hdivisor : (baudrate.toUInt64 * sampleNum.value.toUInt64).toNat =
      baudrate.toNat * sampleNum.value.toNat := by
    rw [UInt64.toNat_mul, UInt32.toNat_toUInt64, UInt32.toNat_toUInt64]
    refine Nat.mod_eq_of_lt ?_
    exact Nat.lt_of_le_of_lt (Nat.mul_le_mul_left _ hsamples.2) (by omega)
  have hdividend : (8 * clock.toUInt64).toNat = 8 * clock.toNat := by
    rw [UInt64.toNat_mul, UInt32.toNat_toUInt64]
    show 8 * clock.toNat % 2 ^ 64 = _
    omega
  have hquotient : (longDivision (8 * clock.toUInt64)
      (baudrate.toUInt64 * sampleNum.value.toUInt64)).toUInt32.toNat =
        eighths baudrate clock sampleNum := by
    rw [UInt64.toNat_toUInt32, longDivision_eq, hdivisor, hdividend]
    · rfl
    · rw [hdivisor]
      exact Nat.mul_pos hpos hsamples.1
  rw [fractionalInt, UInt32.toNat_div, UInt32.toNat_sub_of_le, hquotient, UInt8.toNat_toUInt32]
  · rfl
  · rw [UInt32.le_iff_toNat_le, hquotient, UInt8.toNat_toUInt32]
    exact hle

/-- The register for both parts. -/
theorem toNat_parts {baudInt : UInt32} {baudFp : UInt8} (hint : baudInt.toNat < 2 ^ 13)
    (hfp : baudFp.toNat < 8) :
    (baudInt ||| baudFp.toUInt32 <<< 13).toUInt16.toNat =
      baudFp.toNat * 8192 + baudInt.toNat := by
  have hshift : (baudFp.toUInt32 <<< 13).toNat = baudFp.toNat <<< 13 := by
    rw [UInt32.toNat_shiftLeft, UInt8.toNat_toUInt32]
    show baudFp.toNat <<< 13 % 2 ^ 32 = _
    rw [Nat.shiftLeft_eq]
    omega
  rw [UInt32.toNat_toUInt16, UInt32.toNat_or, hshift, Nat.or_comm,
    ← Nat.shiftLeft_add_eq_or_of_lt hint, Nat.shiftLeft_eq]
  omega

/-- The fractional parts are tried in order, and the first that brings the integer part
under its bound is taken. -/
theorem fractionalLoop_eq {baudrate clock : UInt32} {sampleNum : SampleNum}
    (hpos : 0 < baudrate.toNat) (left : Nat) (baudFp : UInt8) (hleft : left + baudFp.toNat = 8)
    (hover : 65535 + baudFp.toNat ≤ eighths baudrate clock sampleNum) :
    (eighths baudrate clock sampleNum ≤ 65542 →
      ∃ v, fractionalLoop baudrate clock sampleNum left baudFp = .ok v ∧
        v.toNat = (eighths baudrate clock sampleNum - 65535) * 8192 + 8191) ∧
    (65542 < eighths baudrate clock sampleNum →
      fractionalLoop baudrate clock sampleNum left baudFp = .error .errBaudrateUnavailable) := by
  induction left generalizing baudFp with
  | zero => exact ⟨fun hle => by omega, fun _ => rfl⟩
  | succ left ih =>
    have hint := fractionalInt_toNat hpos (Nat.le_trans (Nat.le_add_left _ 65535) hover)
    rw [fractionalLoop]
    split
    · rename_i hsmall
      have hsmallNat : (fractionalInt baudrate clock sampleNum baudFp).toNat < 8192 :=
        UInt32.lt_iff_toNat_lt.mp hsmall
      refine ⟨fun _ => ⟨_, rfl, ?_⟩, fun hlt => by omega⟩
      rw [toNat_parts hsmallNat (by omega), hint]
      omega
    · rename_i hlarge
      have hlargeNat : ¬(fractionalInt baudrate clock sampleNum baudFp).toNat < 8192 :=
        fun hlt => hlarge (UInt32.lt_iff_toNat_lt.mpr hlt)
      have hnext : (baudFp + 1).toNat = baudFp.toNat + 1 := by
        rw [UInt8.toNat_add]
        exact Nat.mod_eq_of_lt (show baudFp.toNat + 1 < 256 by omega)
      exact ih _ (by omega) (by omega)

/-- The fractional part is left at zero for every divisor that the register has, so the
divisor is cut to an integer.  Only for one just over what the integer part has room
for is it set, and then the divisor is short of 7 eighths. -/
theorem fractional_rate (baudrate clock : UInt32) (sampleNum : SampleNum)
    (hpos : 0 < baudrate.toNat) (hfits : (baudrate * sampleNum.value).toNat ≤ clock.toNat) :
    (eighths baudrate clock sampleNum < 65536 →
      ∃ v, sercomGetAsyncBaudVal baudrate clock .fractional sampleNum = .ok v ∧
        v.toNat / 8192 = 0 ∧
        8 * (v.toNat % 8192) =
          eighths baudrate clock sampleNum - eighths baudrate clock sampleNum % 8) ∧
    (65536 ≤ eighths baudrate clock sampleNum → eighths baudrate clock sampleNum ≤ 65542 →
      ∃ v, sercomGetAsyncBaudVal baudrate clock .fractional sampleNum = .ok v ∧
        v.toNat / 8192 ≠ 0 ∧
        8 * (v.toNat % 8192) + v.toNat / 8192 = eighths baudrate clock sampleNum - 7) ∧
    (65542 < eighths baudrate clock sampleNum →
      sercomGetAsyncBaudVal baudrate clock .fractional sampleNum =
        .error .errBaudrateUnavailable) := by
  have hcheck : ¬clock < baudrate * sampleNum.value :=
    fun hlt => Nat.not_lt_of_le hfits (UInt32.lt_iff_toNat_lt.mp hlt)
  have hloop : sercomGetAsyncBaudVal baudrate clock .fractional sampleNum =
      fractionalLoop baudrate clock sampleNum 8 0 := if_neg hcheck
  rw [hloop]
  refine ⟨fun hroom => ?_, fun hover hlast => ?_, fun hfar => ?_⟩
  · -- the first fractional part tried is zero
    have hint : (fractionalInt baudrate clock sampleNum 0).toNat =
        eighths baudrate clock sampleNum / 8 := fractionalInt_toNat hpos (Nat.zero_le _)
    have hsmall : (fractionalInt baudrate clock sampleNum 0).toNat < 8192 := by
      rw [hint]
      omega
    have hparts := toNat_parts hsmall (by decide : (0 : UInt8).toNat < 8)
    rw [hint] at hparts
    refine ⟨_, if_pos (UInt32.lt_iff_toNat_lt.mpr hsmall), ?_, ?_⟩
    · rw [hparts]
      show (0 * 8192 + eighths baudrate clock sampleNum / 8) / 8192 = 0
      omega
    · rw [hparts]
      show 8 * ((0 * 8192 + eighths baudrate clock sampleNum / 8) % 8192) = _
      omega
  · obtain ⟨v, hv, hvalue⟩ := (fractionalLoop_eq hpos 8 0 rfl (Nat.le_of_succ_le hover)).1 hlast
    exact ⟨v, hv, by omega, by omega⟩
  · exact (fractionalLoop_eq hpos 8 0 rfl (show 65535 ≤ _ by omega)).2 hfar

/-- 115200 baud from 8 MHz: the divisor for 16 samples is more than 4 and a quarter, and
it is set to 4. -/
theorem fractional_rate_115200 :
    ∃ v, sercomGetAsyncBaudVal 115200 8000000 .fractional .sixteen = .ok v ∧
      v.toNat / 8192 = 0 ∧ 8 * (v.toNat % 8192) = 34 - 34 % 8 :=
  (fractional_rate 115200 8000000 .sixteen (by decide) (by decide)).1 (by decide)

end Sercom
