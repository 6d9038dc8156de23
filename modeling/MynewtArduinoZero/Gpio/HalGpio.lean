import Mathlib.Data.Int.Notation
import Mathlib.Logic.Function.Basic

/-!
# GPIO interrupts

The part of `hal_gpio.c` for interrupts, with the external interrupt controller
as `extint.c` presents it.  A table maps each pin to one of 16 channels, and the
handlers are kept by channel, so several pins share an entry of `hal_gpio_irqs`,
a detection configuration and an interrupt enable.

A pin number is an `int` that nothing bounds.  A number for which the tables are
read outside their 64 entries is `none`.
-/

namespace HalGpio

/-! ## The data -/

/-- `enum extint_detect`. -/
inductive ExtintDetect where
  | none | rising | falling | both | high | low
deriving DecidableEq

/-- `enum extint_pull`. -/
inductive ExtintPull where
  | up | down | none
deriving DecidableEq

/-- `hal_gpio_irq_trig_t`. -/
inductive Trig where
  | none | rising | falling | both | low | high
  /-- Any other number. -/
  | other
deriving DecidableEq

/-- `hal_gpio_pull_t`. -/
inductive Pull where
  | none | up | down
  /-- Any other number. -/
  | other
deriving DecidableEq

/-- `struct gpio_irq`.  Functions and arguments are addresses. -/
structure GpioIrq where
  func : Option Nat
  arg : Nat
deriving DecidableEq

/-- A channel of the external interrupt controller. -/
structure Channel where
  /-- CONFIG.SENSE. -/
  sense : ExtintDetect
  /-- CONFIG.FILTEN. -/
  filten : Bool
  /-- WAKEUP. -/
  wakeup : Bool
  /-- INTEN. -/
  inten : Bool
  /-- INTFLAG. -/
  intflag : Bool
deriving DecidableEq

/-- `struct extint_chan_conf`. -/
structure ExtintChanConf where
  gpioPin : Int
  gpioPinPull : ExtintPull
  wakeIfSleeping : Bool
  filterInputSignal : Bool
  detectionCriteria : ExtintDetect

/-- The handlers, the controller and the pins. -/
structure Gpio where
  halGpioIrqs : Nat → GpioIrq
  channels : Nat → Channel
  /-- The pull of each pin that is connected to its channel. -/
  pinmux : Int → Option ExtintPull
  /-- `hal_gpio_irq` is in the vector table, and `EIC_IRQn` is enabled. -/
  irqEnabled : Bool

/-- `EIC_NUMBER_OF_INTERRUPTS`. -/
def eicNumberOfInterrupts : Nat := 16

/-- After reset. -/
def Gpio.init : Gpio where
  halGpioIrqs := fun _ => ⟨none, 0⟩
  channels := fun _ => ⟨.none, false, false, false, false⟩
  pinmux := fun _ => none
  irqEnabled := false

/-! ## Pins -/

/-- `valid_pins`. -/
def validPins (port : Nat) : Nat := if port = 0 then 0xdbffffff else 0xc0000f0c

/-- `hal_gpio_pin_exti_tbl`. -/
def halGpioPinExtiTbl : List Int :=
  [0, 1, 2, 3, 4, 5, 6, 7, -1, 9, 10, 11, 12, 13, 14, 15,
    0, 1, 2, 3, 4, 5, 6, 7, 12, 13, -1, 15, 8, -1, 10, 11,
    0, 1, 2, 3, 4, 5, 6, 7, 8, 9, 10, 11, 12, 13, 14, 15,
    0, 1, -1, -1, -1, -1, 6, 7, -1, -1, -1, -1, -1, -1, 14, 15]

/-- `hal_gpio_irq_eic`, or `none` where it reads outside the tables. -/
def halGpioIrqEic (pin : Int) : Option Int :=
  if 0 ≤ pin ∧ pin < 64 then
    let port := pin.toNat / 32
    let portPin := pin.toNat % 32
    if portPin &&& validPins port = 0 then some (-1) else halGpioPinExtiTbl[pin.toNat]?
  else none

/-- The channel of a pin that has one. -/
def channelOf (pin : Int) : Option Nat :=
  (halGpioIrqEic pin).bind fun eic => if eic < 0 then none else some eic.toNat

/-! ## The controller -/

namespace Gpio

variable (g : Gpio)

def setIrq (c : Nat) (irq : GpioIrq) : Gpio :=
  { g with halGpioIrqs := Function.update g.halGpioIrqs c irq }

def setChannel (c : Nat) (x : Channel) : Gpio :=
  { g with channels := Function.update g.channels c x }

/-- `extint_chan_set_config`. -/
def extintChanSetConfig (c : Nat) (config : ExtintChanConf) : Gpio :=
  { g.setChannel c
      { g.channels c with
        sense := config.detectionCriteria
        filten := config.filterInputSignal
        wakeup := config.wakeIfSleeping } with
    pinmux := Function.update g.pinmux config.gpioPin (some config.gpioPinPull) }

/-- `extint_chan_enable_callback` and `extint_chan_disable_callback`. -/
def extintChanEnableCallback (c : Nat) (enable : Bool) : Gpio :=
  g.setChannel c { g.channels c with inten := enable }

/-- `extint_chan_clear_detected`. -/
def extintChanClearDetected (c : Nat) : Gpio :=
  g.setChannel c { g.channels c with intflag := false }

end Gpio

/-! ## The calls -/

/-- The detection criteria for a trigger, or `none` where `rc` is set to -1. -/
def detectionCriteria : Trig → Option ExtintDetect
  | .none | .other => none
  | .rising => some .rising
  | .falling => some .falling
  | .both => some .both
  | .low => some .low
  | .high => some .high

/-- The pull of the pin, or `none` where `rc` is set to -1. -/
def gpioPinPull : Pull → Option ExtintPull
  | .none => some .none
  | .up => some .up
  | .down => some .down
  | .other => none

/-- `hal_gpio_irq_init`. -/
def halGpioIrqInit (g : Gpio) (pin : Int) (handler : Option Nat) (arg : Nat) (trig : Trig)
    (pull : Pull) : Option (Int × Gpio) :=
  let g := { g with irqEnabled := true }
  match detectionCriteria trig with
  | none => some (-1, g)
  | some detect =>
      match gpioPinPull pull with
      | none => some (-1, g)
      | some pinPull =>
          (halGpioIrqEic pin).map fun eic =>
            if eic < 0 then (-1, g)
            else if (g.halGpioIrqs eic.toNat).func.isSome then (-1, g)
            else
              (0, (g.setIrq eic.toNat ⟨handler, arg⟩).extintChanSetConfig eic.toNat
                { gpioPin := pin
                  gpioPinPull := pinPull
                  wakeIfSleeping := true
                  filterInputSignal := false
                  detectionCriteria := detect })

/-- `hal_gpio_irq_enable` and `hal_gpio_irq_disable`, which differ in the callback function they
call. -/
def halGpioIrqSet (enable : Bool) (g : Gpio) (pin : Int) : Option Gpio :=
  (halGpioIrqEic pin).map fun eic =>
    if eic < 0 then g else g.extintChanEnableCallback eic.toNat enable

/-- `hal_gpio_irq_enable`. -/
def halGpioIrqEnable : Gpio → Int → Option Gpio := halGpioIrqSet true

/-- `hal_gpio_irq_disable`. -/
def halGpioIrqDisable : Gpio → Int → Option Gpio := halGpioIrqSet false

/-- `hal_gpio_irq_release`. -/
def halGpioIrqRelease (g : Gpio) (pin : Int) : Option Gpio :=
  (halGpioIrqEic pin).bind fun eic =>
    if eic < 0 then some g
    else
      (halGpioIrqDisable g pin).map fun g =>
        g.setIrq eic.toNat { g.halGpioIrqs eic.toNat with func := none }

/-- One turn of the loop of `hal_gpio_irq`, for a channel that is detected: the call of a handler
with its argument, if there is one. -/
def halGpioIrqTurn (g : Gpio) (c : Nat) : Option (Nat × Nat) × Gpio :=
  let irq := g.halGpioIrqs c
  (irq.func.map fun func => (func, irq.arg), g.extintChanClearDetected c)

/-! ## What the calls do -/

theorem channelOf_eq_some {pin : Int} {c : Nat} :
    channelOf pin = some c ↔ ∃ eic, halGpioIrqEic pin = some eic ∧ ¬ eic < 0 ∧ eic.toNat = c := by
  simp [channelOf, Option.bind_eq_some_iff]

theorem channelOf_eq_none {pin : Int} {eic : Int} (heic : halGpioIrqEic pin = some eic)
    (hneg : eic < 0) : channelOf pin = none := by
  simp [channelOf, heic, hneg]

theorem halGpioIrqSet_eq (enable : Bool) (g : Gpio) {pin : Int} {c : Nat}
    (h : channelOf pin = some c) :
    halGpioIrqSet enable g pin = some (g.extintChanEnableCallback c enable) := by
  obtain ⟨eic, heic, hneg, rfl⟩ := channelOf_eq_some.mp h
  simp [halGpioIrqSet, heic, hneg]

/-- A call that enables or disables a pin's interrupt does so for the pin's channel, if it has
one. -/
theorem halGpioIrqSet_cases {enable : Bool} {g g' : Gpio} {pin : Int}
    (h : halGpioIrqSet enable g pin = some g') :
    (channelOf pin = none ∧ g' = g) ∨
      ∃ c, channelOf pin = some c ∧ g' = g.extintChanEnableCallback c enable := by
  obtain ⟨eic, heic, rfl⟩ := Option.map_eq_some_iff.mp h
  by_cases hneg : eic < 0
  · exact .inl ⟨channelOf_eq_none heic hneg, if_pos hneg⟩
  · exact .inr ⟨_, channelOf_eq_some.mpr ⟨eic, heic, hneg, rfl⟩, if_neg hneg⟩

/-- The state behind a release of a pin on channel `c`. -/
def Gpio.released (g : Gpio) (c : Nat) : Gpio :=
  (g.extintChanEnableCallback c false).setIrq c { g.halGpioIrqs c with func := none }

theorem halGpioIrqRelease_eq (g : Gpio) {pin : Int} {c : Nat} (h : channelOf pin = some c) :
    halGpioIrqRelease g pin = some (g.released c) := by
  have hdisable := halGpioIrqSet_eq false g h
  obtain ⟨eic, heic, hneg, rfl⟩ := channelOf_eq_some.mp h
  simp only [halGpioIrqRelease, heic, Option.bind_some, if_neg hneg, halGpioIrqDisable, hdisable,
    Option.map_some]
  rfl

theorem halGpioIrqRelease_cases {g g' : Gpio} {pin : Int} (h : halGpioIrqRelease g pin = some g') :
    (channelOf pin = none ∧ g' = g) ∨ ∃ c, channelOf pin = some c ∧ g' = g.released c := by
  cases hpin : channelOf pin with
  | some c =>
      rw [halGpioIrqRelease_eq g hpin, Option.some.injEq] at h
      exact .inr ⟨c, rfl, h.symm⟩
  | none =>
      obtain ⟨eic, heic, h⟩ := Option.bind_eq_some_iff.mp h
      have hneg : eic < 0 := by
        by_contra hpos
        rw [channelOf_eq_some.mpr ⟨eic, heic, hpos, rfl⟩] at hpin
        cases hpin
      rw [if_pos hneg, Option.some.injEq] at h
      exact .inl ⟨rfl, h.symm⟩

/-- The configuration that `hal_gpio_irq_init` makes. -/
def irqInitConfig (pin : Int) (detect : ExtintDetect) (pull : ExtintPull) : ExtintChanConf where
  gpioPin := pin
  gpioPinPull := pull
  wakeIfSleeping := true
  filterInputSignal := false
  detectionCriteria := detect

/-- The state behind a `hal_gpio_irq_init` that is accepted for channel `c`. -/
def Gpio.accepted (g : Gpio) (c : Nat) (handler : Option Nat) (arg : Nat)
    (config : ExtintChanConf) : Gpio :=
  ({ g with irqEnabled := true }.setIrq c ⟨handler, arg⟩).extintChanSetConfig c config

/-- What `hal_gpio_irq_init` can do. -/
inductive InitStep (g : Gpio) (pin : Int) (handler : Option Nat) (arg : Nat) (trig : Trig)
    (pull : Pull) : Int → Gpio → Prop where
  | refused :
      ¬ ((detectionCriteria trig).isSome ∧ (gpioPinPull pull).isSome ∧
        ∃ c, channelOf pin = some c ∧ (g.halGpioIrqs c).func = none) →
      InitStep g pin handler arg trig pull (-1) { g with irqEnabled := true }
  | accepted {c : Nat} {detect : ExtintDetect} {pinPull : ExtintPull} :
      detectionCriteria trig = some detect → gpioPinPull pull = some pinPull →
      channelOf pin = some c → (g.halGpioIrqs c).func = none →
      InitStep g pin handler arg trig pull 0
        (g.accepted c handler arg (irqInitConfig pin detect pinPull))

theorem halGpioIrqInit_cases {g g' : Gpio} {pin : Int} {handler : Option Nat} {arg : Nat}
    {trig : Trig} {pull : Pull} {rc : Int}
    (h : halGpioIrqInit g pin handler arg trig pull = some (rc, g')) :
    InitStep g pin handler arg trig pull rc g' := by
  unfold halGpioIrqInit at h
  dsimp only at h
  split at h
  next hdetect =>
    cases h
    exact .refused (by simp [hdetect])
  next detect hdetect =>
    split at h
    next hpull =>
      cases h
      exact .refused (by simp [hpull])
    next pinPull hpull =>
      obtain ⟨eic, heic, heq⟩ := Option.map_eq_some_iff.mp h
      split at heq
      next hneg =>
        cases heq
        exact .refused (by simp [channelOf_eq_none heic hneg])
      next hneg =>
        have hpin : channelOf pin = some eic.toNat := channelOf_eq_some.mpr ⟨eic, heic, hneg, rfl⟩
        split at heq
        next htaken =>
          cases heq
          refine .refused ?_
          rintro ⟨-, -, c, hc, hfree⟩
          obtain rfl := Option.some.inj (hpin.symm.trans hc)
          simp [hfree] at htaken
        next hfree =>
          cases heq
          exact .accepted hdetect hpull hpin (by simpa using hfree)

end HalGpio
