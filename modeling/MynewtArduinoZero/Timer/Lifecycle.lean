import Mathlib.Data.Fin.Basic
import Mathlib.Data.UInt
import MynewtArduinoZero.Lib.Run
import MynewtArduinoZero.Timer.HalTimer

/-!
# The lifecycle of a timer block

`hal_timer_init`, `hal_timer_config`, `hal_timer_deinit` and
`hal_timer_get_resolution` of `hal_timer.c`, over the three timer blocks, the
timer counters and the clock generators.

A call may end in undefined behaviour, which is `none`: a negative timer number
reads in front of `samd21_hal_timers`, `tc_disable` may go through a NULL `hw`,
and a resolution may divide by zero.  `hal_timer_deinit` returns a variable that
it sets only on its error paths; what that variable holds otherwise is an
argument of the call.
-/

namespace HalTimer.Lifecycle

/-! ## The data -/

/-- The timer counters, `Tc *`. -/
inductive TcInst where
  | tc3 | tc4 | tc5 | tc6 | tc7
deriving DecidableEq

/-- What `hal_timer.c` sets in a timer counter and in its clock channel. -/
structure TcRegs where
  /-- CTRLA.ENABLE. -/
  enable : Bool
  /-- CTRLA.PRESCALER. -/
  prescaler : Nat
  /-- INTENSET.OVF. -/
  ovfEn : Bool
  /-- The generator of its clock channel. -/
  generator : Nat
deriving DecidableEq

/-- A clock generator. -/
structure Generator where
  source : UInt8
  enabled : Bool
deriving DecidableEq

/-- `struct samd21_timer_cfg`. -/
structure TimerCfg where
  srcClock : UInt8
  irqNum : Int
  clkgen : Nat
  hwtimer : TcInst
deriving DecidableEq

/-- `struct samd21_hal_timer`, as far as its lifecycle goes. -/
structure HalTimerBlock where
  tmrEnabled : Bool
  tmrIrqNum : UInt8
  tmrSrcclk : UInt8
  tmrInitialized : Bool
  tmrFreq : UInt32
  tmrClkgen : Nat
  /-- `tc_mod.hw`. -/
  hw : Option TcInst
deriving DecidableEq

/-- The number of timers, `SAMD21_HAL_TIMER_MAX`. -/
abbrev timerMax : Nat := 3

/-- The timer blocks with the hardware they use. -/
structure Sys where
  /-- `MYNEWT_VAL(TIMER_n)`: the entry of `samd21_hal_timers` is not NULL. -/
  present : Fin timerMax → Bool
  timers : Fin timerMax → HalTimerBlock
  tcs : TcInst → TcRegs
  gens : Nat → Generator
  /-- The interrupt is enabled in the NVIC. -/
  irqEnabled : UInt8 → Bool
  /-- The vector table: the timer whose handler is set. -/
  vector : UInt8 → Option (Fin timerMax)
  /-- The timer has been enabled at some time of the run. -/
  everEnabled : Fin timerMax → Bool

namespace Sys

/-- After reset; the blocks are zero. -/
def init (present : Fin timerMax → Bool) (tcs : TcInst → TcRegs) (gens : Nat → Generator)
    (vector : UInt8 → Option (Fin timerMax)) : Sys where
  present := present
  timers := fun _ =>
    { tmrEnabled := false, tmrIrqNum := 0, tmrSrcclk := 0, tmrInitialized := false,
      tmrFreq := 0, tmrClkgen := 0, hw := none }
  tcs := tcs
  gens := gens
  irqEnabled := fun _ => false
  vector := vector
  everEnabled := fun _ => false

variable (s : Sys)

def setTimer (i : Fin timerMax) (b : HalTimerBlock) : Sys :=
  { s with timers := Function.update s.timers i b }

def setTc (tc : TcInst) (regs : TcRegs) : Sys :=
  { s with tcs := Function.update s.tcs tc regs }

/-- `tc_disable`. -/
def tcDisable (tc : TcInst) : Sys := s.setTc tc { s.tcs tc with enable := false }

/-- `system_gclk_gen_set_config`: the generator stays enabled or disabled. -/
def gclkGenSetConfig (gen : Nat) (source : UInt8) : Sys :=
  { s with gens := Function.update s.gens gen { s.gens gen with source := source } }

/-- `system_gclk_gen_enable` and `system_gclk_gen_disable`. -/
def gclkGenEnable (gen : Nat) (enabled : Bool) : Sys :=
  { s with gens := Function.update s.gens gen { s.gens gen with enabled := enabled } }

/-- `NVIC_EnableIRQ` and `NVIC_DisableIRQ`. -/
def nvicEnable (irq : UInt8) (enabled : Bool) : Sys :=
  { s with irqEnabled := Function.update s.irqEnabled irq enabled }

/-- `NVIC_SetVector`. -/
def nvicSetVector (irq : UInt8) (isr : Fin timerMax) : Sys :=
  { s with vector := Function.update s.vector irq (some isr) }

end Sys

/-! ## The calls -/

/-- `SAMD21_HAL_TIMER_RESOLVE`: goes on with the timer, or leaves with `err`. -/
def samd21HalTimerResolve (s : Sys) (timerNum : Int) (err : Int)
    (k : Fin timerMax → Option (Int × Sys)) : Option (Int × Sys) :=
  if timerNum ≥ timerMax then some (err, s)
  else if h : 0 ≤ timerNum ∧ timerNum.toNat < timerMax then
    if s.present ⟨timerNum.toNat, h.2⟩ then k ⟨timerNum.toNat, h.2⟩ else some (err, s)
  else none

/-- The switch of `hal_timer_init`, which has a case for each timer that is present. -/
def irqIsr (s : Sys) (i : Fin timerMax) : Option (Fin timerMax) :=
  if s.present i then some i else none

/-- `hal_timer_init` behind the resolution of the timer. -/
def initTimer (s : Sys) (cfg : TimerCfg) (i : Fin timerMax) : Option (Int × Sys) :=
  if (s.timers i).tmrEnabled then some (einval, s)
  else
    match irqIsr s i with
    | none => some (-1, s)
    | some isr =>
        let s := s.gclkGenSetConfig cfg.clkgen cfg.srcClock
        let irqNum := UInt8.ofInt cfg.irqNum
        let s := s.setTimer i
          { s.timers i with
            tmrIrqNum := irqNum
            tmrSrcclk := cfg.srcClock
            tmrClkgen := cfg.clkgen
            hw := some cfg.hwtimer
            tmrInitialized := true }
        let s := (s.nvicEnable irqNum false).nvicSetVector irqNum isr
        some (0, s.tcDisable cfg.hwtimer)

/-- `hal_timer_init`. -/
def halTimerInit (s : Sys) (timerNum : Int) (cfg : TimerCfg) : Option (Int × Sys) :=
  samd21HalTimerResolve s timerNum einval (initTimer s cfg)

/-- The highest frequency of a clock source, or `none` where `rc` is set to -1. -/
def maxFrequency (srcclk : UInt8) : Option UInt32 :=
  if srcclk = 7 then some 48000000        -- GCLK_SOURCE_DFLL48M
  else if srcclk = 8 then some 96000000   -- GCLK_SOURCE_FDPLL
  else if srcclk = 3 ∨ srcclk = 4 ∨ srcclk = 5 then some 32768
  else if srcclk = 6 then some 8000000    -- GCLK_SOURCE_OSC8M
  else none

/-- `1 << prescaler`. -/
def pow2 (prescaler : Nat) : UInt32 := .ofNat (2 ^ prescaler)

/-- The loop that finds the closest prescaler: `prescaler` and `prescaler_reg`. -/
def prescalerLoop (div : UInt32) : Nat → Nat → Nat → Nat × Nat
  | 0, prescaler, prescalerReg => (prescaler, prescalerReg)
  | fuel + 1, prescaler, prescalerReg =>
      if prescaler < 11 then
        if div ≤ pow2 prescaler then
          let minDelta := div - pow2 (prescaler - 1)
          let maxDelta := pow2 prescaler - div
          (if minDelta < maxDelta then prescaler - 1 else prescaler, prescalerReg)
        else
          prescalerLoop div fuel (if prescaler < 4 then prescaler + 1 else prescaler + 2)
            (prescalerReg + 1)
      else (prescaler, prescalerReg)

/-- `prescaler` and `prescaler_reg` for a division. -/
def findPrescaler (div : UInt32) : Nat × Nat :=
  if div = 1 then (0, 0) else prescalerLoop div 11 1 1

/-- `tc_init` succeeds: the counter is not in reset, no slave of a 32-bit pair, and disabled. -/
def tcInitOk (s : Sys) (tc : TcInst) (swrst slave : Bool) : Bool :=
  !swrst && !slave && !(s.tcs tc).enable

/-- `hal_timer_config` behind the resolution of the timer; `swrst` and `slave` are what `tc_init`
reads of the counter. -/
def configTimer (s : Sys) (freqHz : UInt32) (swrst slave : Bool) (i : Fin timerMax) :
    Option (Int × Sys) :=
  let b := s.timers i
  if b.tmrEnabled ∨ b.tmrInitialized = false ∨ freqHz = 0 then some (einval, s)
  else
    match maxFrequency b.tmrSrcclk with
    | none => some (-1, s)
    | some max =>
        let div := max / freqHz
        if freqHz > max ∨ div = 0 ∨ div > 1024 then some (0, s)
        else
          b.hw.map fun tc =>
            let s := s.gclkGenEnable b.tmrClkgen true
            if tcInitOk s tc swrst slave then
              let s := s.setTc tc
                { enable := true, prescaler := (findPrescaler div).2, ovfEn := true,
                  generator := b.tmrClkgen }
              let s := s.setTimer i
                { b with tmrFreq := max / pow2 (findPrescaler div).1, tmrEnabled := true }
              (0, s.nvicEnable b.tmrIrqNum true)
            else (einval, s)

/-- `hal_timer_config`. -/
def halTimerConfig (s : Sys) (timerNum : Int) (freqHz : UInt32) (swrst slave : Bool) :
    Option (Int × Sys) :=
  samd21HalTimerResolve s timerNum einval (configTimer s freqHz swrst slave)

/-- `hal_timer_deinit` behind the resolution of the timer, which leaves `rc` as it is. -/
def deinitTimer (s : Sys) (rc : Int) (i : Fin timerMax) : Option (Int × Sys) :=
  (s.timers i).hw.map fun tc =>
    (rc, ((s.tcDisable tc).gclkGenEnable (s.timers i).tmrClkgen false).setTimer i
      { s.timers i with tmrEnabled := false, tmrInitialized := false })

/-- `hal_timer_deinit`. -/
def halTimerDeinit (s : Sys) (timerNum : Int) (rc : Int) : Option (Int × Sys) :=
  samd21HalTimerResolve s timerNum einval (deinitTimer s rc)

/-- `hal_timer_get_resolution`. -/
def halTimerGetResolution (s : Sys) (timerNum : Int) : Option (Int × Sys) :=
  samd21HalTimerResolve s timerNum 0 fun i =>
    if (s.timers i).tmrFreq = 0 then none
    else some ((1000000000 / (s.timers i).tmrFreq).toNat, s)

/-- A call with its arguments and what it reads besides. -/
inductive Call where
  | init (timerNum : Int) (cfg : TimerCfg)
  | config (timerNum : Int) (freqHz : UInt32) (swrst slave : Bool)
  | deinit (timerNum : Int) (rc : Int)
  | getResolution (timerNum : Int)
deriving DecidableEq

/-- What a call returns and the state behind it. -/
def call (s : Sys) : Call → Option (Int × Sys)
  | .init timerNum cfg => halTimerInit s timerNum cfg
  | .config timerNum freqHz swrst slave => halTimerConfig s timerNum freqHz swrst slave
  | .deinit timerNum rc => halTimerDeinit s timerNum rc
  | .getResolution timerNum => halTimerGetResolution s timerNum

/-- The history variable is brought up to date. -/
def Sys.note (s : Sys) : Sys :=
  { s with everEnabled := fun i => s.everEnabled i || (s.timers i).tmrEnabled }

/-- A call as a step. -/
def step (s : Sys) (c : Call) : Option Sys := (call s c).map fun r => r.2.note

/-! ## The promises of the interface -/

/-- `timerNum` is the number of a timer that is present. -/
def Names (s : Sys) (timerNum : Int) (i : Fin timerMax) : Prop :=
  timerNum = i.val ∧ s.present i = true

instance (s : Sys) (timerNum : Int) (i : Fin timerMax) : Decidable (Names s timerNum i) :=
  inferInstanceAs (Decidable (_ ∧ _))

/-- The counter of a timer is enabled, and so is the generator it is clocked by. -/
def Running (s : Sys) (i : Fin timerMax) : Prop :=
  ∃ tc ∈ (s.timers i).hw, (s.tcs tc).enable = true ∧ (s.gens (s.tcs tc).generator).enabled = true

/-- The counter of a timer is disabled. -/
def Stopped (s : Sys) (i : Fin timerMax) : Prop :=
  ∃ tc ∈ (s.timers i).hw, (s.tcs tc).enable = false

/-- A call has done what it is there for. -/
def Performed (s : Sys) : Call → Sys → Prop
  | .init timerNum cfg, s' => ∃ i, Names s timerNum i ∧
      (s.timers i).tmrEnabled = false ∧ (s'.timers i).tmrInitialized = true ∧
      (s'.timers i).tmrSrcclk = cfg.srcClock ∧ (s'.timers i).tmrClkgen = cfg.clkgen ∧
      (s'.timers i).hw = some cfg.hwtimer ∧ Stopped s' i
  | .config timerNum _ _ _, s' => ∃ i, Names s timerNum i ∧
      (s.timers i).tmrEnabled = false ∧ (s'.timers i).tmrEnabled = true ∧
      Running s' i ∧ (s'.timers i).tmrFreq ≠ 0
  | .deinit timerNum _, s' => ∃ i, Names s timerNum i ∧
      (s'.timers i).tmrEnabled = false ∧ (s'.timers i).tmrInitialized = false ∧ Stopped s' i
  | .getResolution _, _ => True

/-- The three fields of every timer are as they were. -/
def Unchanged (s s' : Sys) : Prop :=
  ∀ i, (s'.timers i).tmrEnabled = (s.timers i).tmrEnabled ∧
    (s'.timers i).tmrInitialized = (s.timers i).tmrInitialized ∧
    (s'.timers i).tmrFreq = (s.timers i).tmrFreq

/-- A frequency that a clock source can be divided down to by at most 1024. -/
def Servable (srcclk : UInt8) (freqHz : UInt32) : Prop :=
  ∃ max ∈ maxFrequency srcclk, freqHz ≤ max ∧ max / freqHz ≤ 1024

/-- A call keeps the promises of the interface. -/
def Kept (s : Sys) (c : Call) : Prop :=
  ∃ rc s', call s c = some (rc, s') ∧
    match c with
    | .getResolution _ => True
    | .config timerNum freqHz _ _ =>
        (rc = 0 ↔ Performed s c s') ∧ (rc ≠ 0 → Unchanged s s') ∧
          ∀ i, Names s timerNum i → ¬ Servable (s.timers i).tmrSrcclk freqHz → rc ≠ 0
    | _ => (rc = 0 ↔ Performed s c s') ∧ (rc ≠ 0 → Unchanged s s')

/-- The conditions under which the interface keeps its promises. -/
def Clean (s : Sys) : Call → Prop
  | .init timerNum _ => 0 ≤ timerNum
  | .config timerNum freqHz _ _ => 0 ≤ timerNum ∧ ∀ i, Names s timerNum i →
      (s.timers i).tmrEnabled = false → (s.timers i).tmrInitialized = true → freqHz ≠ 0 →
        (maxFrequency (s.timers i).tmrSrcclk).isSome → Servable (s.timers i).tmrSrcclk freqHz
  | .deinit timerNum rc => 0 ≤ timerNum ∧
      ∀ i, Names s timerNum i → (s.timers i).hw.isSome ∧ rc = 0
  | .getResolution timerNum => 0 ≤ timerNum ∧
      ∀ i, Names s timerNum i → s.everEnabled i = true

instance (srcclk : UInt8) (freqHz : UInt32) : Decidable (Servable srcclk freqHz) :=
  inferInstanceAs (Decidable (∃ max ∈ maxFrequency srcclk, freqHz ≤ max ∧ max / freqHz ≤ 1024))

instance (s : Sys) (c : Call) : Decidable (Clean s c) := by
  cases c <;> unfold Clean <;> infer_instance

/-! ## Resolving a timer number -/

theorem Names.unique {s : Sys} {timerNum : Int} {i j : Fin timerMax} (h : Names s timerNum i)
    (h' : Names s timerNum j) : j = i :=
  Fin.ext (Int.ofNat_inj.mp (h'.1.symm.trans h.1))

theorem resolve_neg (s : Sys) {timerNum err : Int} (k : Fin timerMax → Option (Int × Sys))
    (h : ¬ 0 ≤ timerNum) : samd21HalTimerResolve s timerNum err k = none := by
  unfold samd21HalTimerResolve
  rw [if_neg (by omega), dif_neg (fun h' => h h'.1)]

theorem resolve_names {s : Sys} {timerNum err : Int} {i : Fin timerMax}
    (k : Fin timerMax → Option (Int × Sys)) (h : Names s timerNum i) :
    samd21HalTimerResolve s timerNum err k = k i := by
  obtain ⟨rfl, hpresent⟩ := h
  have hlt := i.isLt
  unfold samd21HalTimerResolve
  rw [if_neg (by omega), dif_pos (by omega)]
  simp [hpresent]

theorem resolve_unnamed {s : Sys} {timerNum err : Int} (k : Fin timerMax → Option (Int × Sys))
    (hnum : 0 ≤ timerNum) (h : ∀ i, ¬ Names s timerNum i) :
    samd21HalTimerResolve s timerNum err k = some (err, s) := by
  unfold samd21HalTimerResolve
  by_cases hmax : timerNum ≥ timerMax
  · rw [if_pos hmax]
  · rw [if_neg hmax, dif_pos (by omega)]
    have hname := h ⟨timerNum.toNat, by omega⟩
    rw [if_neg]
    exact fun hpresent => hname ⟨by simp [hnum], hpresent⟩

theorem Unchanged.refl (s : Sys) : Unchanged s s := fun _ => ⟨rfl, rfl, rfl⟩

/-! ## Frequencies -/

theorem pow2_toNat {p : Nat} (h : p ≤ 10) : (pow2 p).toNat = 2 ^ p := by
  have hle : 2 ^ p ≤ 2 ^ 10 := Nat.pow_le_pow_right (by decide) h
  exact UInt32.toNat_ofNat_of_lt' (by simpa using Nat.lt_of_le_of_lt hle (by decide))

/-- The loop ends at one of 1, 2, 3, 4, 6, 8 and 10, or one below. -/
theorem prescalerLoop_le {div : UInt32} (hdiv : div ≤ 1024) :
    ∀ {fuel p reg : Nat}, p ≤ 10 → p < 4 ∨ p % 2 = 0 → 10 < fuel + p →
      (prescalerLoop div fuel p reg).1 ≤ 10
  | 0, p, reg, hp, _, hfuel => by omega
  | fuel + 1, p, reg, hp, heven, hfuel => by
      rw [prescalerLoop, if_pos (by omega)]
      by_cases hle : div ≤ pow2 p
      · rw [if_pos hle]
        dsimp only
        split <;> omega
      · rw [if_neg hle]
        have hten : p ≠ 10 := fun h => hle (h ▸ hdiv)
        by_cases hfour : p < 4
        · rw [if_pos hfour]
          exact prescalerLoop_le hdiv (by omega) (by omega) (by omega)
        · rw [if_neg hfour]
          exact prescalerLoop_le hdiv (by omega) (by omega) (by omega)

theorem findPrescaler_le {div : UInt32} (hdiv : div ≤ 1024) : (findPrescaler div).1 ≤ 10 := by
  unfold findPrescaler
  split
  · decide
  · exact prescalerLoop_le hdiv (by decide) (.inl (by decide)) (by decide)

theorem le_maxFrequency {max : UInt32} {src : UInt8} (h : maxFrequency src = some max) :
    1024 ≤ max.toNat := by
  unfold maxFrequency at h
  repeat' split at h
  all_goals cases h
  all_goals decide

/-- The frequency that is stored is not zero. -/
theorem tmrFreq_ne_zero {src : UInt8} {max freqHz : UInt32} (hmax : maxFrequency src = some max)
    (hdiv : max / freqHz ≤ 1024) : max / pow2 (findPrescaler (max / freqHz)).1 ≠ 0 := by
  intro hzero
  have hp := findPrescaler_le hdiv
  have hle : 2 ^ (findPrescaler (max / freqHz)).1 ≤ 2 ^ 10 := Nat.pow_le_pow_right (by decide) hp
  have hquot := congrArg UInt32.toNat hzero
  rw [UInt32.toNat_div, pow2_toNat hp, UInt32.toNat_zero] at hquot
  have hlt := Nat.lt_of_div_eq_zero (Nat.two_pow_pos _) hquot
  have := le_maxFrequency hmax
  omega

theorem servable_iff {src : UInt8} {max freqHz : UInt32} (hmax : maxFrequency src = some max)
    (hfreq : freqHz ≠ 0) :
    Servable src freqHz ↔ ¬ (freqHz > max ∨ max / freqHz = 0 ∨ max / freqHz > 1024) := by
  have hpos : 0 < freqHz.toNat := Nat.pos_of_ne_zero fun h => hfreq (UInt32.toNat_inj.mp h)
  constructor
  · rintro ⟨max', hmax', hle, hdiv⟩ hbad
    obtain rfl := Option.some.inj (hmax.symm.trans hmax')
    rcases hbad with hgt | hzero | hbig
    · exact absurd hle (UInt32.not_le.mpr hgt)
    · have hquot := congrArg UInt32.toNat hzero
      rw [UInt32.toNat_div, UInt32.toNat_zero] at hquot
      exact absurd (Nat.lt_of_div_eq_zero hpos hquot) (Nat.not_lt.mpr (UInt32.le_iff_toNat_le.mp hle))
    · exact absurd hdiv (UInt32.not_le.mpr hbig)
  · intro hgood
    rw [not_or, not_or] at hgood
    exact ⟨max, hmax, UInt32.not_lt.mp hgood.1, UInt32.not_lt.mp hgood.2.2⟩

/-! ## Reachable states -/

/-- What every call keeps. -/
structure Inv (s : Sys) : Prop where
  /-- An initialized timer has its counter. -/
  hw : ∀ i, (s.timers i).tmrInitialized = true → (s.timers i).hw.isSome
  /-- The frequency is set when the timer is enabled, and kept afterwards. -/
  freq : ∀ i, (s.timers i).tmrFreq ≠ 0 ↔ s.everEnabled i = true ∨ (s.timers i).tmrEnabled = true

theorem Inv.init (present : Fin timerMax → Bool) (tcs : TcInst → TcRegs) (gens : Nat → Generator)
    (vector : UInt8 → Option (Fin timerMax)) : Inv (Sys.init present tcs gens vector) where
  hw := fun _ h => absurd h (by simp [Sys.init])
  freq := fun _ => by simp [Sys.init]

/-- A call changes one timer at most, and that one so that the invariant stays. -/
theorem Inv.setTimer {s s' : Sys} {i : Fin timerMax} {b : HalTimerBlock} (h : Inv s)
    (htimers : s'.timers = Function.update s.timers i b) (hever : s'.everEnabled = s.everEnabled)
    (hhw : b.tmrInitialized = true → b.hw.isSome)
    (hfreq : b.tmrFreq ≠ 0 ↔ s.everEnabled i = true ∨ b.tmrEnabled = true) : Inv s' where
  hw := fun j => by
    rw [htimers]
    by_cases hj : j = i
    · rw [hj, Function.update_self]
      exact hhw
    · rw [Function.update_of_ne hj]
      exact h.hw j
  freq := fun j => by
    rw [htimers, hever]
    by_cases hj : j = i
    · rw [hj, Function.update_self]
      exact hfreq
    · rw [Function.update_of_ne hj]
      exact h.freq j

theorem Inv.note {s : Sys} (h : Inv s) : Inv s.note where
  hw := h.hw
  freq := fun i => by
    rw [show (s.note.timers i) = s.timers i from rfl, h.freq i]
    simp [Sys.note]

/-- Every timer that is enabled has been noted. -/
def Noted (s : Sys) : Prop := ∀ i, (s.timers i).tmrEnabled = true → s.everEnabled i = true

theorem Noted.note (s : Sys) : Noted s.note := fun i h => by
  have henabled : (s.timers i).tmrEnabled = true := h
  simp [Sys.note, henabled]

theorem resolve_inv {s s' : Sys} {timerNum err rc : Int}
    {k : Fin timerMax → Option (Int × Sys)} (hs : Inv s)
    (hk : ∀ i, k i = some (rc, s') → Inv s')
    (h : samd21HalTimerResolve s timerNum err k = some (rc, s')) : Inv s' := by
  unfold samd21HalTimerResolve at h
  split at h
  · cases h
    exact hs
  · split at h
    · split at h
      · exact hk _ h
      · cases h
        exact hs
    · cases h

theorem initTimer_inv {s s' : Sys} {cfg : TimerCfg} {i : Fin timerMax} {rc : Int} (hs : Inv s)
    (h : initTimer s cfg i = some (rc, s')) : Inv s' := by
  unfold initTimer at h
  split at h
  · cases h
    exact hs
  · split at h
    · cases h
      exact hs
    · cases h
      exact hs.setTimer rfl rfl (fun _ => rfl) (hs.freq i)

/-- What `hal_timer_config` can do with a timer. -/
inductive ConfigTimer (s : Sys) (freqHz : UInt32) (swrst slave : Bool) (i : Fin timerMax) :
    Option (Int × Sys) → Prop
  | refused (h : (s.timers i).tmrEnabled = true ∨ (s.timers i).tmrInitialized = false ∨
      freqHz = 0) : ConfigTimer s freqHz swrst slave i (some (einval, s))
  | unknown (h : maxFrequency (s.timers i).tmrSrcclk = none) :
      ConfigTimer s freqHz swrst slave i (some (-1, s))
  | skipped (henabled : (s.timers i).tmrEnabled = false)
      (hinit : (s.timers i).tmrInitialized = true) (hfreq : freqHz ≠ 0)
      (hknown : (maxFrequency (s.timers i).tmrSrcclk).isSome)
      (h : ¬ Servable (s.timers i).tmrSrcclk freqHz) :
      ConfigTimer s freqHz swrst slave i (some (0, s))
  | failed (h : Servable (s.timers i).tmrSrcclk freqHz) :
      ConfigTimer s freqHz swrst slave i
        (some (einval, s.gclkGenEnable (s.timers i).tmrClkgen true))
  | enabled {s' : Sys} {b : HalTimerBlock} (h : Servable (s.timers i).tmrSrcclk freqHz)
      (henabled : (s.timers i).tmrEnabled = false)
      (hinit : b.tmrInitialized = true → b.hw.isSome)
      (htimers : s'.timers = Function.update s.timers i b)
      (hever : s'.everEnabled = s.everEnabled)
      (hfreq : b.tmrFreq ≠ 0) (hb : b.tmrEnabled = true) (hrunning : Running s' i) :
      ConfigTimer s freqHz swrst slave i (some (0, s'))

theorem configTimer_cases {s : Sys} (hs : Inv s) (freqHz : UInt32) (swrst slave : Bool)
    (i : Fin timerMax) : ConfigTimer s freqHz swrst slave i (configTimer s freqHz swrst slave i) := by
  unfold configTimer
  dsimp only
  split
  · rename_i h
    exact .refused h
  · rename_i h
    rw [not_or, not_or, Bool.not_eq_true, Bool.not_eq_false] at h
    obtain ⟨henabled, hinit, hfreq⟩ := h
    split
    · rename_i hmax
      exact .unknown hmax
    · rename_i max hmax
      have hserv := servable_iff hmax hfreq
      split
      · rename_i hbad
        exact .skipped henabled hinit hfreq (by rw [hmax]; rfl) fun h => hserv.mp h hbad
      · rename_i hgood
        obtain ⟨tc, htc⟩ := Option.isSome_iff_exists.mp (hs.hw i hinit)
        rw [htc, Option.map_some]
        split
        · refine .enabled (hserv.mpr hgood) henabled (fun _ => rfl) rfl rfl ?_ rfl ?_
          · rw [not_or, not_or] at hgood
            exact tmrFreq_ne_zero hmax (UInt32.not_lt.mp hgood.2.2)
          · refine ⟨tc, ?_, ?_, ?_⟩
            · simp [Sys.nvicEnable, Sys.setTimer]
            · simp [Sys.nvicEnable, Sys.setTimer, Sys.setTc]
            · simp [Sys.nvicEnable, Sys.setTimer, Sys.setTc, Sys.gclkGenEnable]
        · exact .failed (hserv.mpr hgood)

theorem configTimer_inv {s s' : Sys} {freqHz : UInt32} {swrst slave : Bool} {i : Fin timerMax}
    {rc : Int} (hs : Inv s) (h : configTimer s freqHz swrst slave i = some (rc, s')) : Inv s' := by
  have hcases := configTimer_cases hs freqHz swrst slave i
  rw [h] at hcases
  cases hcases with
  | refused => exact hs
  | unknown => exact hs
  | skipped => exact hs
  | failed => exact ⟨hs.hw, hs.freq⟩
  | enabled _ _ hinit htimers hever hfreq hb =>
      exact hs.setTimer htimers hever hinit ⟨fun _ => .inr hb, fun _ => hfreq⟩

theorem deinitTimer_inv {s s' : Sys} {rc rc' : Int} {i : Fin timerMax} (hs : Inv s) (hn : Noted s)
    (h : deinitTimer s rc i = some (rc', s')) : Inv s' := by
  unfold deinitTimer at h
  cases hhw : (s.timers i).hw with
  | none =>
      rw [hhw] at h
      cases h
  | some tc =>
      rw [hhw] at h
      cases h
      refine hs.setTimer rfl rfl (fun h => absurd h (by simp)) ⟨fun h => ?_, fun h => ?_⟩
      · exact .inl (((hs.freq i).mp h).elim id (hn i))
      · exact (hs.freq i).mpr (h.imp id fun h => absurd h (by simp))

theorem call_inv {s s' : Sys} {c : Call} {rc : Int} (hs : Inv s) (hn : Noted s)
    (h : call s c = some (rc, s')) : Inv s' := by
  cases c with
  | init timerNum cfg =>
      rw [call, halTimerInit] at h
      exact resolve_inv hs (fun i => initTimer_inv hs) h
  | config timerNum freqHz swrst slave =>
      rw [call, halTimerConfig] at h
      exact resolve_inv hs (fun i => configTimer_inv hs) h
  | deinit timerNum rc =>
      rw [call, halTimerDeinit] at h
      exact resolve_inv hs (fun i => deinitTimer_inv hs hn) h
  | getResolution timerNum =>
      rw [call, halTimerGetResolution] at h
      refine resolve_inv hs (fun i hi => ?_) h
      rw [Option.ite_none_left_eq_some] at hi
      obtain ⟨-, hi⟩ := hi
      cases hi
      exact hs

theorem step_inv {s t : Sys} {c : Call} (hs : Inv s ∧ Noted s) (h : step s c = some t) :
    Inv t ∧ Noted t := by
  obtain ⟨⟨rc, s'⟩, hcall, rfl⟩ := Option.map_eq_some_iff.mp h
  exact ⟨(call_inv hs.1 hs.2 hcall).note, Noted.note s'⟩

/-! ## When the promises are kept -/

/-- The timer number of a call. -/
def Call.timerNum : Call → Int
  | .init timerNum _ => timerNum
  | .config timerNum _ _ _ => timerNum
  | .deinit timerNum _ => timerNum
  | .getResolution timerNum => timerNum

theorem einval_ne_zero : einval ≠ 0 := by decide

/-- A negative number is read in front of the table. -/
theorem kept_neg {s : Sys} {c : Call} (h : ¬ 0 ≤ c.timerNum) : ¬ Kept s c := by
  have hcall : call s c = none := by
    cases c with
    | init => exact resolve_neg s _ h
    | config => exact resolve_neg s _ h
    | deinit => exact resolve_neg s _ h
    | getResolution timerNum =>
        rw [call, halTimerGetResolution]
        exact resolve_neg s _ h
  rintro ⟨rc, s', hkept, -⟩
  rw [hcall] at hkept
  cases hkept

theorem clean_nonneg {s : Sys} {c : Call} (h : Clean s c) : 0 ≤ c.timerNum := by
  cases c with
  | init => exact h
  | config => exact h.1
  | deinit => exact h.1
  | getResolution => exact h.1

/-- A number that names no timer is refused. -/
theorem kept_unnamed {s : Sys} {c : Call} (hnum : 0 ≤ c.timerNum)
    (h : ∀ i, ¬ Names s c.timerNum i) : Kept s c := by
  cases c with
  | init =>
      exact ⟨_, _, resolve_unnamed _ hnum h,
        iff_of_false einval_ne_zero fun ⟨i, hi, _⟩ => h i hi, fun _ => .refl s⟩
  | config =>
      exact ⟨_, _, resolve_unnamed _ hnum h,
        iff_of_false einval_ne_zero fun ⟨i, hi, _⟩ => h i hi, fun _ => .refl s,
        fun i hi => absurd hi (h i)⟩
  | deinit =>
      exact ⟨_, _, resolve_unnamed _ hnum h,
        iff_of_false einval_ne_zero fun ⟨i, hi, _⟩ => h i hi, fun _ => .refl s⟩
  | getResolution timerNum =>
      refine ⟨0, s, ?_, trivial⟩
      rw [call, halTimerGetResolution]
      exact resolve_unnamed _ hnum h

theorem clean_unnamed {s : Sys} {c : Call} (hnum : 0 ≤ c.timerNum)
    (h : ∀ i, ¬ Names s c.timerNum i) : Clean s c := by
  cases c with
  | init => exact hnum
  | config => exact ⟨hnum, fun i hi => absurd hi (h i)⟩
  | deinit => exact ⟨hnum, fun i hi => absurd hi (h i)⟩
  | getResolution => exact ⟨hnum, fun i hi => absurd hi (h i)⟩

theorem kept_init {s : Sys} {timerNum : Int} {cfg : TimerCfg} {i : Fin timerMax}
    (hi : Names s timerNum i) : Kept s (.init timerNum cfg) := by
  have hcall : call s (.init timerNum cfg) = initTimer s cfg i := resolve_names _ hi
  unfold Kept
  rw [hcall]
  unfold initTimer
  by_cases henabled : (s.timers i).tmrEnabled = true
  · rw [if_pos henabled]
    refine ⟨_, _, rfl, iff_of_false einval_ne_zero ?_, fun _ => .refl s⟩
    rintro ⟨j, hj, hdisabled, -⟩
    rw [hi.unique hj, henabled] at hdisabled
    cases hdisabled
  · rw [if_neg henabled, irqIsr, if_pos hi.2]
    rw [Bool.not_eq_true] at henabled
    refine ⟨_, _, rfl, iff_of_true rfl ⟨i, hi, henabled, ?_⟩, fun h => absurd rfl h⟩
    refine ⟨?_, ?_, ?_, ?_, cfg.hwtimer, ?_, ?_⟩ <;>
      simp [Sys.tcDisable, Sys.setTc, Sys.nvicSetVector, Sys.nvicEnable, Sys.setTimer]

theorem kept_config_iff {s : Sys} (hs : Inv s) {timerNum : Int} {freqHz : UInt32}
    {swrst slave : Bool} {i : Fin timerMax} (hi : Names s timerNum i) :
    Kept s (.config timerNum freqHz swrst slave) ↔
      Clean s (.config timerNum freqHz swrst slave) := by
  have hcall : call s (.config timerNum freqHz swrst slave) = configTimer s freqHz swrst slave i :=
    resolve_names _ hi
  have hnum : 0 ≤ timerNum := by rw [hi.1]; omega
  have hcases := configTimer_cases hs freqHz swrst slave i
  unfold Kept
  rw [hcall]
  generalize configTimer s freqHz swrst slave i = r at hcases
  cases hcases with
  | refused h =>
      refine iff_of_true ⟨_, _, rfl, iff_of_false einval_ne_zero ?_, fun _ => .refl s,
        fun _ _ _ => einval_ne_zero⟩ ⟨hnum, fun j hj henabled hinit hfreq => ?_⟩
      · rintro ⟨j, hj, hdisabled, henabled, -⟩
        rw [hdisabled] at henabled
        cases henabled
      · rw [hi.unique hj] at henabled hinit
        simp [henabled, hinit, hfreq] at h
  | unknown h =>
      refine iff_of_true ⟨_, _, rfl, iff_of_false (by decide) ?_, fun _ => .refl s,
        fun _ _ _ => by decide⟩ ⟨hnum, fun j hj _ _ _ hknown => ?_⟩
      · rintro ⟨j, hj, hdisabled, henabled, -⟩
        rw [hdisabled] at henabled
        cases henabled
      · rw [hi.unique hj, h] at hknown
        cases hknown
  | skipped henabled hinit hfreq hknown h =>
      refine iff_of_false ?_ fun hclean => h (hclean.2 i hi henabled hinit hfreq hknown)
      rintro ⟨rc, s', heq, -, -, hrefuse⟩
      cases heq
      exact hrefuse i hi h rfl
  | failed h =>
      refine iff_of_true ⟨_, _, rfl, iff_of_false einval_ne_zero ?_, fun _ _ => ⟨rfl, rfl, rfl⟩,
        fun _ _ _ => einval_ne_zero⟩ ⟨hnum, fun j hj _ _ _ _ => ?_⟩
      · rintro ⟨j, hj, hdisabled, henabled, -⟩
        rw [show (s.timers j).tmrEnabled = true from henabled] at hdisabled
        cases hdisabled
      · rw [hi.unique hj]
        exact h
  | @enabled s' b h henabled hinit htimers hever hfreq hb hrunning =>
      have hself : s'.timers i = b := by rw [htimers, Function.update_self]
      refine iff_of_true ⟨_, _, rfl, iff_of_true rfl ⟨i, hi, henabled, ?_, hrunning, ?_⟩,
        fun h => absurd rfl h, fun j hj hnot => ?_⟩ ⟨hnum, fun j hj _ _ _ _ => ?_⟩
      · rw [hself]
        exact hb
      · rw [hself]
        exact hfreq
      · rw [hi.unique hj] at hnot
        exact absurd h hnot
      · rw [hi.unique hj]
        exact h

theorem kept_deinit_iff {s : Sys} {timerNum rc : Int} {i : Fin timerMax}
    (hi : Names s timerNum i) :
    Kept s (.deinit timerNum rc) ↔ Clean s (.deinit timerNum rc) := by
  have hcall : call s (.deinit timerNum rc) = deinitTimer s rc i := resolve_names _ hi
  have hnum : 0 ≤ timerNum := by rw [hi.1]; omega
  have hclean : Clean s (.deinit timerNum rc) ↔ (s.timers i).hw.isSome ∧ rc = 0 := by
    refine ⟨fun h => h.2 i hi, fun h => ⟨hnum, fun j hj => ?_⟩⟩
    rw [hi.unique hj]
    exact h
  rw [hclean]
  unfold Kept
  rw [hcall]
  unfold deinitTimer
  cases hhw : (s.timers i).hw with
  | none =>
      refine iff_of_false ?_ (by simp)
      rintro ⟨rc', s', h, -⟩
      cases h
  | some tc =>
      rw [Option.map_some]
      have hperf : Performed s (.deinit timerNum rc)
          (((s.tcDisable tc).gclkGenEnable (s.timers i).tmrClkgen false).setTimer i
            { s.timers i with tmrEnabled := false, tmrInitialized := false }) := by
        refine ⟨i, hi, ?_, ?_, tc, ?_, ?_⟩ <;>
          simp [Sys.setTimer, Sys.gclkGenEnable, Sys.tcDisable, Sys.setTc, hhw]
      constructor
      · rintro ⟨rc', s', h, hrc, -⟩
        cases h
        exact ⟨rfl, hrc.mpr hperf⟩
      · rintro ⟨-, rfl⟩
        exact ⟨_, _, rfl, iff_of_true rfl hperf, fun h => absurd rfl h⟩

theorem kept_getResolution_iff {s : Sys} (hs : Inv s) (hn : Noted s) {timerNum : Int}
    {i : Fin timerMax} (hi : Names s timerNum i) :
    Kept s (.getResolution timerNum) ↔ Clean s (.getResolution timerNum) := by
  have hnum : 0 ≤ timerNum := by rw [hi.1]; omega
  have hfreq : (s.timers i).tmrFreq ≠ 0 ↔ s.everEnabled i = true :=
    (hs.freq i).trans ⟨fun h => h.elim id (hn i), .inl⟩
  unfold Kept
  rw [call, halTimerGetResolution, resolve_names _ hi]
  constructor
  · rintro ⟨rc, s', h, -⟩
    rw [Option.ite_none_left_eq_some] at h
    refine ⟨hnum, fun j hj => ?_⟩
    rw [hi.unique hj]
    exact hfreq.mp h.1
  · rintro ⟨-, hever⟩
    exact ⟨_, _, if_neg (hfreq.mpr (hever i hi)), trivial⟩

/-- Behind every run, a call keeps the promises of the interface
exactly when it is clean: the timer number is not negative, the frequency that reaches the division
can be served, `hal_timer_deinit` finds a counter and zero in the variable it does not set, and the
resolution is asked for once the timer has been enabled. -/
theorem lifecycle_kept_iff_clean {present : Fin timerMax → Bool} {tcs : TcInst → TcRegs}
    {gens : Nat → Generator} {vector : UInt8 → Option (Fin timerMax)} {cs : List Call} {s : Sys}
    (hrun : Run.run step (Sys.init present tcs gens vector) cs = some s) (c : Call) :
    Kept s c ↔ Clean s c := by
  obtain ⟨hs, hn⟩ := Run.run_invariant (I := fun s => Inv s ∧ Noted s)
    (fun s c t => step_inv) ⟨Inv.init present tcs gens vector, fun i h => absurd h (by simp [Sys.init])⟩ hrun
  by_cases hnum : 0 ≤ c.timerNum
  · by_cases hname : ∃ i, Names s c.timerNum i
    · obtain ⟨i, hi⟩ := hname
      cases c with
      | init timerNum cfg => exact iff_of_true (kept_init hi) hnum
      | config timerNum freqHz swrst slave => exact kept_config_iff hs hi
      | deinit timerNum rc => exact kept_deinit_iff hi
      | getResolution timerNum => exact kept_getResolution_iff hs hn hi
    · rw [not_exists] at hname
      exact iff_of_true (kept_unnamed hnum hname) (clean_unnamed hnum hname)
  · exact iff_of_false (kept_neg hnum) fun h => hnum (clean_nonneg h)

/-! ## The board's timer 0 -/

/-- The configuration of `hal_bsp_init`: TC3, clocked by the 8 MHz oscillator. -/
def boardCfg : TimerCfg := { srcClock := 6, irqNum := 18, clkgen := 2, hwtimer := .tc3 }

/-- The board after reset: timer 0 is present, nothing runs. -/
def boardReset : Sys :=
  Sys.init (fun i => i = 0)
    (fun _ => { enable := false, prescaler := 0, ovfEn := false, generator := 0 })
    (fun _ => { source := 6, enabled := false }) (fun _ => none)

/-- Timer 0 is configured to 1 MHz. -/
def boardCalls : List Call := [.init 0 boardCfg, .config 0 1000000 false false]

theorem boardCalls_run : (Run.run step boardReset boardCalls).isSome := by decide

/-- Behind these calls the resolution can be asked for, and a second configuration is refused. -/
theorem lifecycle_kept_iff_clean_board :
    Kept ((Run.run step boardReset boardCalls).get boardCalls_run) (.getResolution 0) ∧
      Kept ((Run.run step boardReset boardCalls).get boardCalls_run) (.config 0 100 false false) :=
  ⟨(lifecycle_kept_iff_clean (Option.some_get boardCalls_run).symm _).mpr (by decide),
    (lifecycle_kept_iff_clean (Option.some_get boardCalls_run).symm _).mpr (by decide)⟩

/-- A frequency above the clock source: behind `hal_timer_init`, `hal_timer_config` returns 0, and
the timer is not enabled. -/
theorem config_above_source :
    ∃ s, Run.run step boardReset [.init 0 boardCfg] = some s ∧
      ¬ Kept s (.config 0 16000000 false false) := by
  refine ⟨_, rfl, ?_⟩
  rintro ⟨rc, s', h, hrc, -⟩
  cases h
  obtain ⟨i, -, hdisabled, henabled, -⟩ := hrc.mp rfl
  exact Bool.false_ne_true (hdisabled.symm.trans henabled)

end HalTimer.Lifecycle
