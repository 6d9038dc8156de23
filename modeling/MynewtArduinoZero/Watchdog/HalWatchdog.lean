import Mathlib.Algebra.Group.Nat.Defs
import Mathlib.Data.Nat.Log
import Mathlib.Order.Bounds.Basic

/-!
# The watchdog

`hal_watchdog.c`, and of the WDT driver the configuration.  The watchdog counts
clocks of generator 4, which divides the 32.768 kHz oscillator by 2048, and
expires after one of twelve periods of 8 to 16384 clocks.  `hal_watchdog_init`
takes the first period that is no less than twice the clocks of `expire_msecs`.

The clocks are computed in 32 bits.  From `2 ^ 28` milliseconds on the product
wraps, and a timeout of more than three days may be taken for a short one.
-/

namespace HalWatchdog

/-! ## The driver -/

/-- `enum wdt_period`: a period is the number of its enumerator. -/
abbrev WdtPeriod := Nat

/-- `WDT_PERIOD_NONE`. -/
def wdtPeriodNone : WdtPeriod := 0
/-- `WDT_PERIOD_8CLK`. -/
def wdtPeriod8Clk : WdtPeriod := 1
/-- `WDT_PERIOD_16384CLK`. -/
def wdtPeriod16384Clk : WdtPeriod := 12

/-- The clocks of a period. -/
def periodClocks (period : WdtPeriod) : Nat := 2 ^ (period + 2)

/-- The clocks of all periods. -/
def clockCounts : List Nat := (List.range' wdtPeriod8Clk wdtPeriod16384Clk).map periodClocks

example : clockCounts = [8, 16, 32, 64, 128, 256, 512, 1024, 2048, 4096, 8192, 16384] := by decide

/-- `struct wdt_conf`. -/
structure WdtConf where
  alwaysOn : Bool
  enable : Bool
  /-- The number of the clock generator. -/
  clockSource : Nat
  timeoutPeriod : WdtPeriod
  windowPeriod : WdtPeriod
  earlyWarningPeriod : WdtPeriod
deriving DecidableEq, Repr

/-- `struct system_gclk_gen_config`. -/
structure GclkGenConfig where
  sourceClock : Nat
  highWhenDisabled : Bool
  divisionFactor : Nat
  runInStandby : Bool
  outputEnable : Bool
deriving DecidableEq, Repr

/-- The registers of the watchdog, and its clock channel. -/
structure Wdt where
  /-- CTRL.ENABLE. -/
  enable : Bool
  /-- CTRL.WEN. -/
  wen : Bool
  /-- CTRL.ALWAYSON. -/
  alwaysOn : Bool
  /-- CONFIG. -/
  config : Nat
  /-- EWCTRL. -/
  ewctrl : Nat
  /-- The generator of the clock channel, where it is enabled. -/
  gclkChan : Option Nat
deriving DecidableEq, Repr

structure Sys where
  gWdtConfig : WdtConf
  wdt : Wdt
  /-- The generators that are set and enabled. -/
  gclkGen : Nat → Option GclkGenConfig

/-- `STATUS_OK`. -/
def statusOk : Int := 0
/-- `STATUS_ERR_IO`. -/
def statusErrIo : Int := 0x10
/-- `STATUS_ERR_INVALID_ARG`. -/
def statusErrInvalidArg : Int := 0x17

/-- `wdt_get_config_defaults`, with `GCLK_GENERATOR_4`. -/
def wdtGetConfigDefaults : WdtConf where
  alwaysOn := false
  enable := true
  clockSource := 4
  timeoutPeriod := wdtPeriod16384Clk
  windowPeriod := wdtPeriodNone
  earlyWarningPeriod := wdtPeriodNone

/-- `wdt_set_config`. -/
def wdtSetConfig (config : WdtConf) (w : Wdt) : Int × Wdt :=
  if w.alwaysOn then (statusErrIo, w)
  else if config.timeoutPeriod = wdtPeriodNone then (statusErrInvalidArg, w)
  else if config.timeoutPeriod < config.windowPeriod ∨
      config.timeoutPeriod < config.earlyWarningPeriod then (statusErrInvalidArg, w)
  else
    let w := { w with enable := false }
    if config.enable = false then (statusOk, w)
    else
      let newConfig := config.timeoutPeriod - 1
      let window := config.windowPeriod ≠ wdtPeriodNone
      let newConfig := if window then newConfig ||| (config.windowPeriod - 1) <<< 4 else newConfig
      let w := { w with gclkChan := some config.clockSource, wen := window, config := newConfig }
      let w := if config.earlyWarningPeriod ≠ wdtPeriodNone then
        { w with ewctrl := config.earlyWarningPeriod - 1 } else w
      (statusOk, if config.alwaysOn then { w with alwaysOn := true } else { w with enable := true })

/-! ## `hal_watchdog.c` -/

/-- The `while` loop of `hal_watchdog_init`: the period, or `none` for -1. -/
def periodLoop (clocks : UInt32) :
    (fuel : Nat) → (temp : UInt16) → (toPeriod : WdtPeriod) → Option (Option WdtPeriod)
  | 0, _, _ => none
  | fuel + 1, temp, toPeriod =>
      if clocks ≤ temp.toUInt32 then some (some toPeriod)
      else
        let temp := temp <<< 1
        let toPeriod := toPeriod + 1
        if toPeriod > wdtPeriod16384Clk then some none else periodLoop clocks fuel temp toPeriod

/-- The `clocks` of `hal_watchdog_init`. -/
def clocksOf (expireMsecs : UInt32) : UInt32 := 32768 / 2048 * expireMsecs / 1000 * 2

/-- The configuration of generator 4; 3 is `GCLK_SOURCE_OSCULP32K`. -/
def gcfg : GclkGenConfig where
  sourceClock := 3
  highWhenDisabled := false
  divisionFactor := 2048
  runInStandby := true
  outputEnable := true

/-- `hal_watchdog_init`. -/
def halWatchdogInit (fuel : Nat) (s : Sys) (expireMsecs : UInt32) : Option (Int × Sys) :=
  let config := { wdtGetConfigDefaults with enable := false }
  let s := { s with gWdtConfig := config }
  (periodLoop (clocksOf expireMsecs) fuel 8 wdtPeriod8Clk).map fun found =>
    match found with
    | none => (-1, s)
    | some toPeriod =>
        let config := { config with timeoutPeriod := toPeriod }
        let gclkGen := Function.update s.gclkGen config.clockSource (some gcfg)
        let (rc, wdt) := wdtSetConfig config s.wdt
        (rc, { gWdtConfig := config, wdt, gclkGen })

/-- `hal_watchdog_enable`. -/
def halWatchdogEnable (s : Sys) : Sys :=
  let config := { s.gWdtConfig with enable := true }
  { s with gWdtConfig := config, wdt := (wdtSetConfig config s.wdt).2 }

/-! ## The search -/

theorem mem_clockCounts {c : Nat} :
    c ∈ clockCounts ↔ ∃ p, 1 ≤ p ∧ p ≤ 12 ∧ periodClocks p = c := by
  rw [clockCounts, List.mem_map]
  refine exists_congr fun p => ?_
  have hrange : (wdtPeriod8Clk ≤ p ∧ p < wdtPeriod8Clk + wdtPeriod16384Clk) ↔ 1 ≤ p ∧ p ≤ 12 :=
    and_congr_right fun _ => Nat.lt_succ_iff
  rw [List.mem_range'_1, hrange, and_assoc]

theorem periodClocks_mono {p q : Nat} (h : p ≤ q) : periodClocks p ≤ periodClocks q :=
  Nat.pow_le_pow_right (by decide) (Nat.add_le_add_right h 2)

/-- What the search may find: no period is enough, or this is the first one that is. -/
def Found (clocks : Nat) : Option WdtPeriod → Prop
  | none => periodClocks 12 < clocks
  | some p => 1 ≤ p ∧ p ≤ 12 ∧ clocks ≤ periodClocks p ∧
      ∀ q, 1 ≤ q → q < p → periodClocks q < clocks

/-- `temp` holds the clocks of `to_period`. -/
theorem toNat_shiftLeft_one {temp : UInt16} {p : Nat} (hp : p ≤ 12)
    (htemp : temp.toNat = periodClocks p) : (temp <<< 1).toNat = periodClocks (p + 1) := by
  have hone : (1 : UInt16).toNat % 16 = 1 := by decide
  have hle : periodClocks (p + 1) ≤ periodClocks 13 := periodClocks_mono (by omega)
  have hdouble : periodClocks (p + 1) = periodClocks p * 2 :=
    show (2 : Nat) ^ (p + 2 + 1) = 2 ^ (p + 2) * 2 from Nat.pow_succ ..
  have hmax : periodClocks 13 = 32768 := rfl
  rw [UInt16.toNat_shiftLeft, hone, htemp, Nat.shiftLeft_eq, Nat.pow_one, ← hdouble]
  omega

/-- The loop from a period that is not less than all before it. -/
theorem periodLoop_found {clocks : UInt32} {fuel : Nat} {temp : UInt16} {p : Nat} (h1 : 1 ≤ p)
    (h12 : p ≤ 12) (htemp : temp.toNat = periodClocks p)
    (hbefore : ∀ q, 1 ≤ q → q < p → periodClocks q < clocks.toNat) {found : Option WdtPeriod}
    (h : periodLoop clocks fuel temp p = some found) : Found clocks.toNat found := by
  induction fuel generalizing temp p with
  | zero => cases h
  | succ fuel ih =>
      have hle : clocks ≤ temp.toUInt32 ↔ clocks.toNat ≤ periodClocks p := by
        rw [UInt32.le_iff_toNat_le, UInt16.toNat_toUInt32, htemp]
      rw [periodLoop] at h
      split at h
      · rename_i henough
        cases h
        exact ⟨h1, h12, hle.mp henough, hbefore⟩
      · rename_i hmore
        have hlt : periodClocks p < clocks.toNat := Nat.not_le.mp fun h => hmore (hle.mpr h)
        dsimp only at h
        split at h
        · rename_i hlast
          cases h
          obtain rfl : p = 12 := Nat.le_antisymm h12 (Nat.lt_succ_iff.mp hlast)
          exact hlt
        · rename_i hnext
          refine ih (by omega) (Nat.not_lt.mp hnext) (toNat_shiftLeft_one h12 htemp) ?_ h
          intro q hq hqp
          rcases Nat.lt_succ_iff_lt_or_eq.mp hqp with hqp | rfl
          · exact hbefore q hq hqp
          · exact hlt

/-- Twelve turns are enough. -/
theorem periodLoop_isSome (clocks : UInt32) {fuel p : Nat} (temp : UInt16) (hp : p ≤ 12)
    (hfuel : 13 ≤ fuel + p) : (periodLoop clocks fuel temp p).isSome := by
  induction fuel generalizing temp p with
  | zero => omega
  | succ fuel ih =>
      rw [periodLoop]
      split
      · rfl
      · dsimp only
        split
        · rfl
        · rename_i hnext
          exact ih _ (Nat.not_lt.mp hnext) (by omega)

/-! ## The property -/

/-- The clocks that a timeout requires. -/
def required (expireMsecs : UInt32) : Nat := 2 * (16 * expireMsecs.toNat / 1000)

/-- `hal_watchdog_init` ends.  It returns -1 where no period is enough.  Else it chooses the least
period that is, which `hal_watchdog_enable` programs unless the watchdog is locked, and which at
16 Hz lasts for `expire_msecs`. -/
def Selects (s : Sys) (expireMsecs : UInt32) : Prop :=
  ∃ fuel rc t, halWatchdogInit fuel s expireMsecs = some (rc, t) ∧
    (rc = -1 ↔ 16384 < required expireMsecs) ∧
    (rc ≠ -1 →
      IsLeast {c | c ∈ clockCounts ∧ required expireMsecs ≤ c}
        (periodClocks t.gWdtConfig.timeoutPeriod) ∧
      (s.wdt.alwaysOn = false →
        (halWatchdogEnable t).wdt.enable = true ∧
        (halWatchdogEnable t).wdt.config % 16 + 1 = t.gWdtConfig.timeoutPeriod ∧
        ((halWatchdogEnable t).wdt.gclkChan.bind t.gclkGen).map (·.divisionFactor) = some 2048) ∧
      16 * expireMsecs.toNat ≤ 1000 * periodClocks t.gWdtConfig.timeoutPeriod)

/-! ## The clocks -/

theorem clocksOf_toNat (expireMsecs : UInt32) :
    (clocksOf expireMsecs).toNat = 2 * ((16 * expireMsecs).toNat / 1000) := by
  have hlt := (16 * expireMsecs).toNat_lt
  have hsixteen : (32768 / 2048 : UInt32) = 16 := by decide
  have hthousand : (1000 : UInt32).toNat = 1000 := rfl
  have htwo : (2 : UInt32).toNat = 2 := rfl
  rw [clocksOf, hsixteen, UInt32.toNat_mul, UInt32.toNat_div, hthousand, htwo]
  omega

/-- The timeouts for which wrapping does no harm. -/
def Fits (expireMsecs : UInt32) : Prop :=
  expireMsecs.toNat < 2 ^ 28 ∨ 8193000 ≤ (16 * expireMsecs).toNat

instance (expireMsecs : UInt32) : Decidable (Fits expireMsecs) :=
  inferInstanceAs (Decidable (_ ∨ _))

theorem product_toNat (expireMsecs : UInt32) :
    (16 * expireMsecs).toNat = 16 * expireMsecs.toNat % 2 ^ 32 := by
  rw [UInt32.toNat_mul]
  rfl

/-- For these the clocks are those required, or too many as those are. -/
theorem clocksOf_of_fits {expireMsecs : UInt32} (h : Fits expireMsecs) :
    (16384 < (clocksOf expireMsecs).toNat ↔ 16384 < required expireMsecs) ∧
      ((clocksOf expireMsecs).toNat ≤ 16384 →
        (clocksOf expireMsecs).toNat = required expireMsecs) := by
  have hlt := expireMsecs.toNat_lt
  rw [Fits, product_toNat] at h
  rw [clocksOf_toNat, product_toNat, required]
  rcases h with hsmall | hlarge
  · rw [Nat.mod_eq_of_lt (show 16 * expireMsecs.toNat < 2 ^ 32 by omega)]
    exact ⟨Iff.rfl, fun _ => rfl⟩
  · have hle : 16 * expireMsecs.toNat % 2 ^ 32 ≤ 16 * expireMsecs.toNat := Nat.mod_le ..
    generalize 16 * expireMsecs.toNat % 2 ^ 32 = product at hlarge hle
    omega

/-- A timeout that is refused. -/
theorem fits_of_clocksOf {expireMsecs : UInt32} (h : 16384 < (clocksOf expireMsecs).toNat) :
    Fits expireMsecs := by
  rw [clocksOf_toNat] at h
  exact .inr (by omega)

/-- One that is not too long. -/
theorem fits_of_required {expireMsecs : UInt32} (h : required expireMsecs ≤ 16384) :
    Fits expireMsecs := by
  unfold required at h
  exact .inl (by omega)

/-! ## The two calls -/

theorem wdtSetConfig_ne (config : WdtConf) (w : Wdt) : (wdtSetConfig config w).1 ≠ -1 := by
  unfold wdtSetConfig
  split
  · exact (by decide : statusErrIo ≠ -1)
  · split
    · exact (by decide : statusErrInvalidArg ≠ -1)
    · split
      · exact (by decide : statusErrInvalidArg ≠ -1)
      · dsimp only
        split <;> exact (by decide : statusOk ≠ -1)

/-- The configuration that `hal_watchdog_init` makes. -/
def chosen (p : WdtPeriod) : WdtConf :=
  { wdtGetConfigDefaults with enable := false, timeoutPeriod := p }

/-- That configuration leaves the watchdog off. -/
theorem wdtSetConfig_chosen {p : Nat} (h1 : 1 ≤ p) {w : Wdt} (hlocked : w.alwaysOn = false) :
    wdtSetConfig (chosen p) w = (statusOk, { w with enable := false }) := by
  have hne : p ≠ wdtPeriodNone := Nat.one_le_iff_ne_zero.mp h1
  have hnone : ¬ p < wdtPeriodNone := Nat.not_lt_zero p
  simp [wdtSetConfig, hlocked, chosen, wdtGetConfigDefaults, hne, hnone]

/-- What `hal_watchdog_init` can do. -/
inductive InitStep (s : Sys) (expireMsecs : UInt32) : Int → Sys → Prop where
  /-- No period is enough. -/
  | tooLong {t : Sys} : Found (clocksOf expireMsecs).toNat none → InitStep s expireMsecs (-1) t
  | chosen {p : WdtPeriod} : Found (clocksOf expireMsecs).toNat (some p) →
      InitStep s expireMsecs (wdtSetConfig (chosen p) s.wdt).1
        { gWdtConfig := HalWatchdog.chosen p
          wdt := (wdtSetConfig (HalWatchdog.chosen p) s.wdt).2
          gclkGen := Function.update s.gclkGen 4 (some gcfg) }

theorem halWatchdogInit_cases {fuel : Nat} {s t : Sys} {expireMsecs : UInt32} {rc : Int}
    (h : halWatchdogInit fuel s expireMsecs = some (rc, t)) : InitStep s expireMsecs rc t := by
  obtain ⟨found, hloop, heq⟩ := Option.map_eq_some_iff.mp h
  have hfound := periodLoop_found (Nat.le_refl 1) (by decide) (by decide)
    (fun q hq hlt => absurd hlt (Nat.not_lt.mpr hq)) hloop
  cases found with
  | none =>
      cases heq
      exact .tooLong hfound
  | some p =>
      cases heq
      exact .chosen hfound

/-- `hal_watchdog_enable` behind `hal_watchdog_init`, unless the watchdog is locked. -/
theorem halWatchdogEnable_chosen {p : Nat} (h1 : 1 ≤ p) (h12 : p ≤ 12) {t : Sys}
    (hconfig : t.gWdtConfig = chosen p) (hlocked : t.wdt.alwaysOn = false) :
    (halWatchdogEnable t).wdt.enable = true ∧ (halWatchdogEnable t).wdt.config % 16 + 1 = p ∧
      (halWatchdogEnable t).wdt.gclkChan = some 4 := by
  have hne : p ≠ wdtPeriodNone := Nat.one_le_iff_ne_zero.mp h1
  have hnone : ¬ p < wdtPeriodNone := Nat.not_lt_zero p
  have hmod : (p - 1) % 16 + 1 = p := by
    rw [Nat.mod_eq_of_lt (by omega)]
    omega
  simp [halWatchdogEnable, wdtSetConfig, hconfig, hlocked, chosen, wdtGetConfigDefaults, hne,
    hnone, hmod]

/-! ## The choice -/

/-- The first period that is enough is the least one. -/
theorem isLeast_of_found {clocks p : Nat} (h : Found clocks (some p)) :
    IsLeast {c | c ∈ clockCounts ∧ clocks ≤ c} (periodClocks p) := by
  obtain ⟨h1, h12, henough, hbefore⟩ := h
  refine ⟨⟨mem_clockCounts.mpr ⟨p, h1, h12, rfl⟩, henough⟩, ?_⟩
  rintro c ⟨hc, hle⟩
  obtain ⟨q, hq1, -, rfl⟩ := mem_clockCounts.mp hc
  rcases Nat.lt_or_ge q p with hlt | hge
  · exact absurd hle (Nat.not_le.mpr (hbefore q hq1 hlt))
  · exact periodClocks_mono hge

/-- A period that is enough lasts: doubling makes up for what the division drops. -/
theorem lasts_of_required_le {expireMsecs : UInt32} {p : Nat} (h1 : 1 ≤ p)
    (h : required expireMsecs ≤ periodClocks p) :
    16 * expireMsecs.toNat ≤ 1000 * periodClocks p := by
  have hmin : periodClocks 1 ≤ periodClocks p := periodClocks_mono h1
  have height : periodClocks 1 = 8 := rfl
  unfold required at h
  omega

theorem fits_of_selects {s : Sys} {expireMsecs : UInt32} (h : Selects s expireMsecs) :
    Fits expireMsecs := by
  obtain ⟨fuel, rc, t, hinit, htooLong, -⟩ := h
  cases halWatchdogInit_cases hinit with
  | tooLong hfound => exact fits_of_clocksOf hfound
  | chosen hfound =>
      refine fits_of_required (Nat.not_lt.mp fun hlong => ?_)
      exact wdtSetConfig_ne _ s.wdt (htooLong.mpr hlong)

/-- For every timeout: the choice of `hal_watchdog_init` is as it should be exactly where it is
less than `2 ^ 28` ms, or the wrapped product is still more than all periods last. -/
theorem selects_iff (s : Sys) (expireMsecs : UInt32) : Selects s expireMsecs ↔ Fits expireMsecs := by
  have hmax : periodClocks 12 = 16384 := rfl
  refine ⟨fits_of_selects, ?_⟩
  · intro hfits
    obtain ⟨hlong, hexact⟩ := clocksOf_of_fits hfits
    have hsome := periodLoop_isSome (clocksOf expireMsecs) 8 (show wdtPeriod8Clk ≤ 12 by decide)
      (show 13 ≤ 12 + wdtPeriod8Clk by decide)
    obtain ⟨⟨rc, t⟩, hinit⟩ : ∃ r, halWatchdogInit 12 s expireMsecs = some r := by
      rw [← Option.isSome_iff_exists, halWatchdogInit, Option.isSome_map]
      exact hsome
    refine ⟨12, rc, t, hinit, ?_⟩
    cases halWatchdogInit_cases hinit with
    | tooLong hfound => exact ⟨iff_of_true rfl (hlong.mp hfound), fun hne => absurd rfl hne⟩
    | @chosen p hfound =>
        have hne := wdtSetConfig_ne (chosen p) s.wdt
        obtain ⟨h1, h12, henough, -⟩ := id hfound
        have hle : periodClocks p ≤ periodClocks 12 := periodClocks_mono h12
        have heq := hexact (Nat.le_trans henough hle)
        rw [heq] at hfound henough
        refine ⟨iff_of_false hne (Nat.not_lt.mpr (Nat.le_trans henough hle)), fun _ => ?_⟩
        refine ⟨isLeast_of_found hfound, fun hlocked => ?_, lasts_of_required_le h1 henough⟩
        have hfree : (wdtSetConfig (chosen p) s.wdt).2.alwaysOn = false := by
          rw [wdtSetConfig_chosen h1 hlocked]
          exact hlocked
        obtain ⟨henable, hper, hchan⟩ := halWatchdogEnable_chosen h1 h12
          (t := ⟨chosen p, _, Function.update s.gclkGen 4 (some gcfg)⟩) rfl hfree
        refine ⟨henable, hper, ?_⟩
        rw [hchan]
        rfl

/-- Before `hal_watchdog_init`, with the registers as they are behind a reset. -/
def Sys.init : Sys where
  gWdtConfig := wdtGetConfigDefaults
  wdt := ⟨false, false, false, 0xBB, 0x0B, none⟩
  gclkGen := fun _ => none

/-- The product of `2 ^ 28` wraps to zero: a timeout of more than three days is taken, with a
period of half a second. -/
theorem not_selects_wrapped :
    ¬ Selects .init 268435456 ∧ 16384 < required 268435456 ∧
      (halWatchdogInit 12 .init 268435456).map (fun r => (r.1, r.2.gWdtConfig.timeoutPeriod))
        = some (0, wdtPeriod8Clk) :=
  ⟨fun h => absurd (fits_of_selects h) (by decide), by decide, by decide⟩

end HalWatchdog
