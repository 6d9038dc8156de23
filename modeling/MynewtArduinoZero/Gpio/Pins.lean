import Mathlib.Data.Int.Basic
import MynewtArduinoZero.Gpio.HalGpio
import MynewtArduinoZero.Lib.Run

/-!
# The pins that the calls accept

`valid_pins` has a bit for each pin of a port.  `hal_gpio_read` asserts that the
bit of its pin is set.  The calls that initialise a pin test the number of the
pin in its port against the mask, where the bit is meant: a pin passes when its
number has a bit in common with the mask.  A pin number is an `int`, and the
quotient and the remainder of a negative one are not positive in C.  A shift by
a negative number is undefined; what it comes to is a parameter, `shl`.
-/

namespace HalGpio.Pins

/-! ## The tests -/

/-- What stops a call. -/
inductive Stop where
  /-- A table is read outside. -/
  | outside
  | assertion
  /-- The port driver has no group for the number that it gets. -/
  | noGroup
deriving DecidableEq

/-- `GPIO_PORT`. -/
def gpioPort (pin : Int) : Int := pin.tdiv 32

/-- `GPIO_PIN`. -/
def gpioPin (pin : Int) : Int := pin.tmod 32

/-- `GPIO_MAX_PORT`. -/
def gpioMaxPort : Int := 1

/-- `valid_pins[port]`. -/
def validPinsAt (port : Int) : Except Stop (BitVec 32) :=
  if 0 ≤ port ∧ port ≤ gpioMaxPort then .ok (.ofNat 32 (validPins port.toNat)) else .error .outside

variable (shl : Int → BitVec 32)

/-- `1 << n`. -/
def oneShl (n : Int) : BitVec 32 := if 0 ≤ n then 1#32 <<< n.toNat else shl n

/-- The test that `hal_gpio_init_out` and `hal_gpio_init_in` make. -/
def pinTest (pin : Int) : Except Stop Bool :=
  if gpioPort pin > gpioMaxPort then .ok false
  else (validPinsAt (gpioPort pin)).map fun valid => .ofInt 32 (gpioPin pin) &&& valid ≠ 0#32

/-- The assertions of `hal_gpio_read`. -/
def pinAssert (pin : Int) : Except Stop Unit :=
  if gpioPort pin > gpioMaxPort then .error .assertion
  else (validPinsAt (gpioPort pin)).bind fun valid =>
    if oneShl shl (gpioPin pin) &&& valid ≠ 0#32 then .ok () else .error .assertion

/-! ## The port -/

/-- The direction of `struct port_config`. -/
inductive Direction where
  | input | outputWithReadback
deriving DecidableEq

/-- `struct port_config`. -/
structure PortConfig where
  direction : Direction
  inputPull : Pull
  powersave : Bool

/-- The PORT. -/
structure Port where
  config : Nat → Option PortConfig
  /-- OUT. -/
  out : Nat → Bool
  /-- IN: the levels at the pins, which come from outside. -/
  input : Nat → Bool

/-- The pin that the port driver takes a number for, an `uint8_t` in the driver. -/
def gpioPin8 (pin : Int) : Except Stop Nat :=
  if (pin % 256).toNat / 128 = 0 then .ok (pin % 256).toNat else .error .noGroup

/-- `port_pin_set_config`.  A pull is made by the output level of an input. -/
def portPinSetConfig (s : Port) (pin : Int) (cfg : PortConfig) : Except Stop Port :=
  (gpioPin8 pin).map fun p =>
    { s with
      config := Function.update s.config p (some cfg)
      out :=
        if cfg.direction = .input ∧ cfg.inputPull ≠ .none ∧ ¬ cfg.powersave then
          Function.update s.out p (cfg.inputPull = .up)
        else s.out }

/-- `hal_gpio_write`. -/
def halGpioWrite (s : Port) (pin val : Int) : Except Stop Port :=
  (gpioPin8 pin).map fun p => { s with out := Function.update s.out p (val ≠ 0) }

/-! ## The calls -/

/-- `hal_gpio_init_out`. -/
def halGpioInitOut (s : Port) (pin val : Int) : Except Stop (Int × Port) := do
  if ¬ (← pinTest pin) then return (-1, s)
  let s ← portPinSetConfig s pin
    { direction := .outputWithReadback, inputPull := .none, powersave := false }
  let s ← halGpioWrite s pin val
  return (0, s)

/-- `hal_gpio_init_in`. -/
def halGpioInitIn (s : Port) (pin : Int) (pull : Pull) : Except Stop (Int × Port) := do
  if ¬ (← pinTest pin) then return (-1, s)
  if pull = .other then return (-1, s)
  let s ← portPinSetConfig s pin { direction := .input, inputPull := pull, powersave := false }
  return (0, s)

/-- `hal_gpio_read`. -/
def halGpioRead (s : Port) (pin : Int) : Except Stop Int := do
  pinAssert shl pin
  let p ← gpioPin8 pin
  return if s.input p then 1 else 0

/-- `hal_gpio_toggle`. -/
def halGpioToggle (s : Port) (pin : Int) : Except Stop (Int × Port) := do
  let level ← halGpioRead shl s pin
  let s ← halGpioWrite s pin (if level = 0 then 1 else 0)
  let level ← halGpioRead shl s pin
  return (level, s)

/-! ## What the tests say -/

/-- The pin has a bit in `valid_pins`, and the bit is set. -/
def Valid (pin : Int) : Prop :=
  0 ≤ pin ∧ pin < 64 ∧ (validPins (pin / 32).toNat).testBit (pin % 32).toNat

instance (pin : Int) : Decidable (Valid pin) := inferInstanceAs (Decidable (_ ∧ _ ∧ _))

/-- The pins of the two ports whose number in the port and whose bit do not test alike. -/
def misjudged : List Int :=
  [0, 26, 29, 34, 35, 36, 37, 38, 39, 44, 45, 46, 47, 52, 53, 54, 55, 56, 57, 58, 59, 60, 61]

/-- Those of them that are not valid and have an interrupt channel. -/
def misjudgedIrq : List Int := [36, 37, 38, 39, 44, 45, 46, 47, 54, 55]

/-- A pin of the ports is one of 64 numbers. -/
theorem exists_fin_of_port {pin : Int} (h : 0 ≤ pin ∧ pin < 64) :
    ∃ n : Fin 64, pin = ((n : Nat) : Int) :=
  ⟨⟨pin.toNat, by omega⟩, by simp [Int.toNat_of_nonneg h.1]⟩

theorem pinTest_of_port {pin : Int} (h : 0 ≤ pin ∧ pin < 64) :
    pinTest pin = .ok (if pin ∈ misjudged then ¬ Valid pin else Valid pin) := by
  obtain ⟨n, rfl⟩ := exists_fin_of_port h
  revert n
  decide

theorem pinTest_of_beyond {pin : Int} (h : 64 ≤ pin) : pinTest pin = .ok false := by
  rw [pinTest, gpioPort, gpioMaxPort, Int.tdiv_eq_ediv_of_nonneg (by omega), if_pos (by omega)]

/-- The first negative numbers belong to port 0, as the division goes. -/
theorem pinTest_of_neg {pin : Int} (h : -32 < pin ∧ pin < 0) : pinTest pin = .ok true := by
  obtain ⟨n, rfl⟩ : ∃ n : Fin 31, pin = -((n : Nat) + 1 : Int) :=
    ⟨⟨(-pin - 1).toNat, by omega⟩, by
      simp only
      omega⟩
  revert n
  decide

theorem gpioPort_neg {pin : Int} (h : pin ≤ -32) : gpioPort pin < 0 := by
  obtain ⟨n, rfl⟩ : ∃ n : Int, pin = -n := ⟨-pin, by omega⟩
  rw [gpioPort, Int.neg_tdiv, Int.tdiv_eq_ediv_of_nonneg (by omega)]
  omega

theorem validPinsAt_neg {pin : Int} (h : pin ≤ -32) :
    validPinsAt (gpioPort pin) = .error .outside := by
  have hport := gpioPort_neg h
  rw [validPinsAt, if_neg (by omega)]

theorem pinTest_outside {pin : Int} (h : pin ≤ -32) : pinTest pin = .error .outside := by
  have hport := gpioPort_neg h
  rw [pinTest, gpioMaxPort, if_neg (by omega), validPinsAt_neg h]
  rfl

theorem pinAssert_outside {pin : Int} (h : pin ≤ -32) : pinAssert shl pin = .error .outside := by
  have hport := gpioPort_neg h
  rw [pinAssert, gpioMaxPort, if_neg (by omega), validPinsAt_neg h]
  rfl

/-- For a pin that is not negative the shift is defined. -/
theorem pinAssert_of_nonneg {pin : Int} (h : 0 ≤ pin) :
    pinAssert shl pin = pinAssert (fun _ => 0) pin := by
  have hpin : 0 ≤ gpioPin pin := Int.tmod_nonneg 32 h
  simp only [pinAssert, oneShl, if_pos hpin]

theorem pinAssert_of_valid {pin : Int} (h : Valid pin) : pinAssert shl pin = .ok () := by
  rw [pinAssert_of_nonneg shl h.1]
  obtain ⟨n, rfl⟩ := exists_fin_of_port ⟨h.1, h.2.1⟩
  revert n
  decide

/-- What a shift by a negative number comes to has no bit of `valid_pins[0]`. -/
def ShiftRefuses (pin : Int) : Prop :=
  pin < 0 → shl (gpioPin pin) &&& .ofNat 32 (validPins 0) = 0#32

instance (pin : Int) : Decidable (ShiftRefuses shl pin) := inferInstanceAs (Decidable (_ → _))

/-- A negative number that is not too small belongs to port 0. -/
theorem gpio_of_neg {pin : Int} (h : -32 < pin ∧ pin < 0) : gpioPort pin = 0 ∧ gpioPin pin < 0 := by
  obtain ⟨n, rfl⟩ : ∃ n : Fin 31, pin = -((n : Nat) + 1 : Int) :=
    ⟨⟨(-pin - 1).toNat, by omega⟩, by
      simp only
      omega⟩
  revert n
  decide

theorem pinAssert_of_neg {pin : Int} (h : -32 < pin ∧ pin < 0) :
    pinAssert shl pin = if ShiftRefuses shl pin then .error .assertion else .ok () := by
  obtain ⟨hport, hpin⟩ := gpio_of_neg h
  have hvalid : validPinsAt 0 = .ok (.ofNat 32 (validPins 0)) := rfl
  rw [pinAssert, hport, if_neg (by decide), hvalid, oneShl, if_neg (Int.not_le.mpr hpin)]
  by_cases hshift : shl (gpioPin pin) &&& .ofNat 32 (validPins 0) = 0#32
  · have hrefuses : ShiftRefuses shl pin := fun _ => hshift
    rw [if_pos hrefuses]
    exact if_neg (not_not.mpr hshift)
  · have hpasses : ¬ ShiftRefuses shl pin := fun hrefuses => hshift (hrefuses h.2)
    rw [if_neg hpasses]
    exact if_pos hshift

/-- A number that is not negative is read inside the table. -/
theorem pinAssert_ne_outside {pin : Int} (h : 0 ≤ pin) :
    pinAssert shl pin = .ok () ∧ pin < 64 ∨ pinAssert shl pin = .error .assertion := by
  rw [pinAssert_of_nonneg shl h]
  by_cases hbeyond : 64 ≤ pin
  · rw [pinAssert, gpioPort, gpioMaxPort, Int.tdiv_eq_ediv_of_nonneg (by omega),
      if_pos (by omega)]
    exact .inr rfl
  · obtain ⟨n, rfl⟩ := exists_fin_of_port ⟨h, Int.not_le.mp hbeyond⟩
    clear h hbeyond
    revert n
    decide

/-! ## What the calls do -/

theorem gpioPin8_of_port {pin : Int} (h : 0 ≤ pin ∧ pin < 64) :
    gpioPin8 pin = .ok pin.toNat := by
  rw [gpioPin8, Int.emod_eq_of_lt h.1 (by omega), if_pos (by omega)]

theorem gpioPin8_of_neg {pin : Int} (h : -32 < pin ∧ pin < 0) : gpioPin8 pin = .error .noGroup := by
  rw [gpioPin8, if_neg (by omega)]

theorem halGpioInitOut_of_test (s : Port) {pin : Int} {b : Bool} (val : Int)
    (htest : pinTest pin = .ok b) (hport : b = true → 0 ≤ pin ∧ pin < 64) :
    ∃ t, halGpioInitOut s pin val = .ok (if b then 0 else -1, t) := by
  cases b with
  | false => exact ⟨s, by simp [halGpioInitOut, htest, bind, Except.bind, pure, Except.pure]⟩
  | true =>
      have hpin := gpioPin8_of_port (hport rfl)
      exact ⟨_, by
        simp [halGpioInitOut, htest, portPinSetConfig, halGpioWrite, hpin, bind, Except.bind, pure,
          Except.pure, Except.map]
        rfl⟩

theorem halGpioInitIn_of_test (s : Port) {pin : Int} {b : Bool} {pull : Pull}
    (hpull : pull ≠ .other) (htest : pinTest pin = .ok b)
    (hport : b = true → 0 ≤ pin ∧ pin < 64) :
    ∃ t, halGpioInitIn s pin pull = .ok (if b then 0 else -1, t) := by
  cases b with
  | false => exact ⟨s, by simp [halGpioInitIn, htest, bind, Except.bind, pure, Except.pure]⟩
  | true =>
      have hpin := gpioPin8_of_port (hport rfl)
      exact ⟨_, by
        simp [halGpioInitIn, htest, hpull, portPinSetConfig, hpin, bind, Except.bind, pure,
          Except.pure, Except.map]
        rfl⟩

/-- A pull that there is not is refused for every pin that the test is made of. -/
theorem halGpioInitIn_other (s : Port) {pin : Int} {b : Bool} (htest : pinTest pin = .ok b) :
    halGpioInitIn s pin .other = .ok (-1, s) := by
  cases b <;> simp [halGpioInitIn, htest, bind, Except.bind, pure, Except.pure]

theorem halGpioInitOut_error (s : Port) {pin : Int} (val : Int) (h : pin < 0) :
    halGpioInitOut s pin val = .error .outside ∨ halGpioInitOut s pin val = .error .noGroup := by
  by_cases hfar : pin ≤ -32
  · left
    simp [halGpioInitOut, pinTest_outside hfar, bind, Except.bind]
  · right
    simp [halGpioInitOut, pinTest_of_neg ⟨Int.not_le.mp hfar, h⟩, portPinSetConfig,
      gpioPin8_of_neg ⟨Int.not_le.mp hfar, h⟩, bind, Except.bind, Except.map]

theorem halGpioInitIn_outside (s : Port) {pin : Int} (pull : Pull) (h : pin ≤ -32) :
    halGpioInitIn s pin pull = .error .outside := by
  simp [halGpioInitIn, pinTest_outside h, bind, Except.bind]

theorem halGpioInitIn_noGroup (s : Port) {pin : Int} {pull : Pull} (hpull : pull ≠ .other)
    (h : -32 < pin ∧ pin < 0) : halGpioInitIn s pin pull = .error .noGroup := by
  simp [halGpioInitIn, pinTest_of_neg h, hpull, portPinSetConfig, gpioPin8_of_neg h, bind,
    Except.bind, Except.map]

theorem halGpioRead_outside (s : Port) {pin : Int} (h : pin ≤ -32) :
    halGpioRead shl s pin = .error .outside := by
  simp [halGpioRead, pinAssert_outside shl h, bind, Except.bind]

theorem halGpioToggle_outside (s : Port) {pin : Int} (h : pin ≤ -32) :
    halGpioToggle shl s pin = .error .outside := by
  simp [halGpioToggle, halGpioRead_outside shl s h, bind, Except.bind]

variable {shl}

theorem halGpioRead_of_assert (s : Port) {pin : Int} (hassert : pinAssert shl pin = .ok ())
    (h : 0 ≤ pin ∧ pin < 64) :
    halGpioRead shl s pin = .ok (if s.input pin.toNat then 1 else 0) := by
  simp [halGpioRead, hassert, gpioPin8_of_port h, bind, Except.bind, pure, Except.pure]

theorem halGpioToggle_of_assert (s : Port) {pin : Int} (hassert : pinAssert shl pin = .ok ())
    (h : 0 ≤ pin ∧ pin < 64) : ∃ r, halGpioToggle shl s pin = .ok r := by
  exact ⟨_, by
    simp only [halGpioToggle, halGpioRead_of_assert _ hassert h, halGpioWrite, gpioPin8_of_port h,
      bind, Except.bind, pure, Except.pure, Except.map]
    rfl⟩

theorem halGpioRead_noGroup (s : Port) {pin : Int} (hassert : pinAssert shl pin = .ok ())
    (h : -32 < pin ∧ pin < 0) : halGpioRead shl s pin = .error .noGroup := by
  simp [halGpioRead, hassert, gpioPin8_of_neg h, bind, Except.bind]

theorem halGpioToggle_noGroup (s : Port) {pin : Int} (hassert : pinAssert shl pin = .ok ())
    (h : -32 < pin ∧ pin < 0) : halGpioToggle shl s pin = .error .noGroup := by
  simp [halGpioToggle, halGpioRead_noGroup s hassert h, bind, Except.bind]

variable (shl)

/-! ## Runs -/

/-- The two parts of the state, the pins that calls have accepted, those that `hal_gpio_init_out`
and `hal_gpio_init_in` have refused for a request that is otherwise valid, and what stopped a
call. -/
structure Sys where
  gpio : Gpio
  port : Port
  accepted : List Int
  refused : List Int
  stopped : Option Stop

/-- At the start, in any state of the two parts. -/
def Sys.start (gpio : Gpio) (port : Port) : Sys := ⟨gpio, port, [], [], none⟩

inductive Call where
  | initOut (pin val : Int)
  | initIn (pin : Int) (pull : Pull)
  | irqInit (pin : Int) (handler : Option Nat) (arg : Nat) (trig : Trig) (pull : Pull)
  | irqEnable (pin : Int)
  | irqDisable (pin : Int)
  | irqRelease (pin : Int)
  | read (pin : Int)
  | toggle (pin : Int)
  /-- The levels at the pins change. -/
  | levels (input : Nat → Bool)

/-- The notes of a call that initialises a pin: `request` says that its refusal is about the pin. -/
def Sys.note (s : Sys) (pin : Int) (request : Bool) (rc : Int) : Sys :=
  if rc = 0 then { s with accepted := pin :: s.accepted }
  else if request then { s with refused := pin :: s.refused }
  else s

/-- A function that reads outside its tables where it has no result. -/
def inside {α : Type} (x : Option α) : Except Stop α := x.elim (.error .outside) .ok

def call (s : Sys) : Call → Except Stop Sys
  | .initOut pin val =>
      (halGpioInitOut s.port pin val).map fun (rc, port) =>
        ({ s with port := port } : Sys).note pin true rc
  | .initIn pin pull =>
      (halGpioInitIn s.port pin pull).map fun (rc, port) =>
        ({ s with port := port } : Sys).note pin (pull ≠ .other) rc
  | .irqInit pin handler arg trig pull =>
      (inside (halGpioIrqInit s.gpio pin handler arg trig pull)).map fun (rc, gpio) =>
        ({ s with gpio := gpio } : Sys).note pin false rc
  | .irqEnable pin =>
      (inside (halGpioIrqEnable s.gpio pin)).map fun gpio => { s with gpio := gpio }
  | .irqDisable pin =>
      (inside (halGpioIrqDisable s.gpio pin)).map fun gpio => { s with gpio := gpio }
  | .irqRelease pin =>
      (inside (halGpioIrqRelease s.gpio pin)).map fun gpio => { s with gpio := gpio }
  | .read pin => (halGpioRead shl s.port pin).map fun _ => s
  | .toggle pin => (halGpioToggle shl s.port pin).map fun (_, port) => { s with port := port }
  | .levels input => .ok { s with port := { s.port with input := input } }

/-- A call, unless one has been stopped. -/
def step (s : Sys) (c : Call) : Option Sys :=
  if s.stopped.isSome then none
  else
    match call shl s c with
    | .ok t => some t
    | .error stop => some { s with stopped := some stop }

/-- The calls accept valid pins, of which `hal_gpio_init_out` and `hal_gpio_init_in` refuse none, a
pin that has been accepted can be read and toggled, and only an assertion stops a call. -/
structure Agree (s : Sys) : Prop where
  accepted : ∀ pin ∈ s.accepted, Valid pin
  refused : ∀ pin ∈ s.refused, ¬ Valid pin
  readable : ∀ pin ∈ s.accepted,
    (∃ level, halGpioRead shl s.port pin = .ok level) ∧ ∃ r, halGpioToggle shl s.port pin = .ok r
  stopped : ∀ stop ∈ s.stopped, stop = .assertion

/-- The channel of a pin is taken. -/
def Taken (g : Gpio) (pin : Int) : Prop :=
  ∀ c ∈ channelOf pin, (g.halGpioIrqs c).func.isSome

instance (g : Gpio) (pin : Int) : Decidable (Taken g pin) :=
  match h : channelOf pin with
  | none => .isTrue (by simp [Taken, h])
  | some c => decidable_of_iff ((g.halGpioIrqs c).func.isSome) (by simp [Taken, h])

/-- Where a call is right about its pin: the number is not negative, and below 64 where the call
does not look, and it is none of those that are misjudged.  A read looks a negative number up as
well, and refuses it where the shift does. -/
def Clean (s : Sys) : Call → Prop
  | .initOut pin _ => 0 ≤ pin ∧ pin ∉ misjudged
  | .initIn pin pull => -32 < pin ∧ (pull = .other ∨ 0 ≤ pin ∧ pin ∉ misjudged)
  | .irqInit pin _ _ trig pull =>
      detectionCriteria trig = none ∨ gpioPinPull pull = none ∨
        (0 ≤ pin ∧ pin < 64) ∧ (pin ∉ misjudgedIrq ∨ Taken s.gpio pin)
  | .irqEnable pin | .irqDisable pin | .irqRelease pin => 0 ≤ pin ∧ pin < 64
  | .read pin | .toggle pin => -32 < pin ∧ ShiftRefuses shl pin
  | .levels _ => True

instance (s : Sys) (c : Call) : Decidable (Clean shl s c) := by
  cases c <;> unfold Clean <;> infer_instance

/-! ## When the calls agree -/

variable {shl}

theorem readable_of_valid (s : Port) {pin : Int} (h : Valid pin) :
    (∃ level, halGpioRead shl s pin = .ok level) ∧ ∃ r, halGpioToggle shl s pin = .ok r :=
  ⟨⟨_, halGpioRead_of_assert s (pinAssert_of_valid shl h) ⟨h.1, h.2.1⟩⟩,
    halGpioToggle_of_assert s (pinAssert_of_valid shl h) ⟨h.1, h.2.1⟩⟩

theorem Agree.setPort {s : Sys} (h : Agree shl s) (port : Port) : Agree shl { s with port := port } :=
  ⟨h.accepted, h.refused, fun pin hpin => readable_of_valid port (h.accepted pin hpin), h.stopped⟩

theorem Agree.setGpio {s : Sys} (h : Agree shl s) (gpio : Gpio) : Agree shl { s with gpio := gpio } :=
  ⟨h.accepted, h.refused, h.readable, h.stopped⟩

/-- An answer is right when it accepts only a valid pin, and refuses none in a valid request. -/
theorem agree_note_iff {s : Sys} (h : Agree shl s) (pin : Int) (request : Bool) (rc : Int) :
    Agree shl (s.note pin request rc) ↔
      (rc = 0 → Valid pin) ∧ (rc ≠ 0 → request = true → ¬ Valid pin) := by
  rw [Sys.note]
  split
  next hrc =>
    constructor
    · intro hagree
      exact ⟨fun _ => hagree.accepted pin List.mem_cons_self, fun hne => absurd hrc hne⟩
    · rintro ⟨hvalid, -⟩
      refine ⟨?_, h.refused, ?_, h.stopped⟩
      · exact List.forall_mem_cons.mpr ⟨hvalid hrc, h.accepted⟩
      · exact List.forall_mem_cons.mpr ⟨readable_of_valid s.port (hvalid hrc), h.readable⟩
  next hrc =>
    split
    next hrequest =>
      constructor
      · intro hagree
        exact ⟨fun h0 => absurd h0 hrc, fun _ _ => hagree.refused pin List.mem_cons_self⟩
      · rintro ⟨-, hinvalid⟩
        refine ⟨h.accepted, ?_, h.readable, h.stopped⟩
        exact List.forall_mem_cons.mpr ⟨hinvalid hrc hrequest, h.refused⟩
    next hrequest =>
      exact iff_of_true h ⟨fun h0 => absurd h0 hrc, fun _ hreq => absurd hreq hrequest⟩

theorem agree_stopped_iff {s : Sys} (h : Agree shl s) (stop : Stop) :
    Agree shl { s with stopped := some stop } ↔ stop = .assertion := by
  constructor
  · intro hagree
    exact hagree.stopped stop rfl
  · rintro rfl
    refine ⟨h.accepted, h.refused, h.readable, fun stop hstop => ?_⟩
    exact (Option.mem_some_iff.mp hstop).symm

/-- The test is right about a pin that is not misjudged, and wrong about the others. -/
theorem pinTest_right {pin : Int} (h : 0 ≤ pin ∧ pin ∉ misjudged) :
    pinTest pin = .ok (Valid pin) := by
  by_cases hport : pin < 64
  · rw [pinTest_of_port ⟨h.1, hport⟩, if_neg h.2]
  · rw [pinTest_of_beyond (Int.not_lt.mp hport), decide_eq_false fun hvalid => hport hvalid.2.1]

theorem misjudged_port {pin : Int} (h : pin ∈ misjudged) : 0 ≤ pin ∧ pin < 64 := by
  revert pin
  decide

theorem pinTest_wrong {pin : Int} (h : pin ∈ misjudged) : pinTest pin = .ok (¬ Valid pin) := by
  rw [pinTest_of_port (misjudged_port h), if_pos h]

/-- A pin that has a channel is valid, or one of those that are misjudged. -/
theorem channelOf_valid {pin : Int} (h : 0 ≤ pin ∧ pin < 64) :
    if pin ∈ misjudgedIrq then ¬ Valid pin ∧ (channelOf pin).isSome
    else (channelOf pin).isSome → Valid pin := by
  obtain ⟨n, rfl⟩ := exists_fin_of_port h
  revert n
  decide

theorem halGpioIrqEic_port {pin : Int} :
    (halGpioIrqEic pin).isSome ↔ 0 ≤ pin ∧ pin < 64 := by
  constructor
  · intro h
    by_contra hport
    rw [halGpioIrqEic, if_neg hport] at h
    cases h
  · intro h
    obtain ⟨n, rfl⟩ := exists_fin_of_port h
    revert n
    decide

/-- A step is a call that returns, or one that is stopped. -/
theorem step_cases {s t : Sys} {c : Call} (h : step shl s c = some t) :
    call shl s c = .ok t ∨ ∃ stop, call shl s c = .error stop ∧ t = { s with stopped := some stop } := by
  rw [step] at h
  split at h
  · cases h
  · cases hcall : call shl s c with
    | ok u =>
        rw [hcall] at h
        cases h
        exact .inl rfl
    | error stop =>
        rw [hcall] at h
        cases h
        exact .inr ⟨stop, rfl, rfl⟩

variable (shl) in
/-- A call that leaves the calls in agreement. -/
def Right (s : Sys) (c : Call) : Prop :=
  match call shl s c with
  | .ok t => Agree shl t
  | .error stop => stop = .assertion

theorem step_agree_iff {s t : Sys} {c : Call} (hs : Agree shl s) (h : step shl s c = some t) :
    Agree shl t ↔ Right shl s c := by
  rcases step_cases h with hcall | ⟨stop, hcall, rfl⟩
  · rw [Right, hcall]
  · rw [Right, hcall]
    exact agree_stopped_iff hs stop

/-- An answer that a test decides is right when the test is. -/
theorem agree_note_test {s : Sys} (h : Agree shl s) (pin : Int) (b : Bool) :
    Agree shl (s.note pin true (if b then 0 else -1)) ↔ b = decide (Valid pin) := by
  rw [agree_note_iff h]
  cases b <;> simp

/-- `hal_gpio_init_out` and `hal_gpio_init_in` for a valid request: what they answer decides whether
they agree. -/
theorem right_of_test {s : Sys} (hs : Agree shl s) {pin : Int} {x : Except Stop (Int × Port)}
    {f : Int × Port → Sys} (hf : ∀ r, f r = ({ s with port := r.2 } : Sys).note pin true r.1)
    (hneg : pin < 0 → x = .error .outside ∨ x = .error .noGroup)
    (htest : ∀ b, pinTest pin = .ok b → (b = true → 0 ≤ pin ∧ pin < 64) →
      ∃ t, x = .ok (if b then 0 else -1, t)) :
    (match x.map f with
      | .ok t => Agree shl t
      | .error stop => stop = .assertion) ↔ 0 ≤ pin ∧ pin ∉ misjudged := by
  by_cases hpin : pin < 0
  · refine iff_of_false ?_ fun h => absurd h.1 (Int.not_le.mpr hpin)
    rcases hneg hpin with rfl | rfl <;> exact fun h => nomatch h
  · by_cases hmis : pin ∈ misjudged
    · obtain ⟨t, rfl⟩ := htest _ (pinTest_wrong hmis) fun _ => misjudged_port hmis
      refine iff_of_false ?_ fun h => h.2 hmis
      simp only [Except.map, hf]
      rw [agree_note_test (hs.setPort t)]
      by_cases hvalid : Valid pin <;> simp [hvalid]
    · have hclean : 0 ≤ pin ∧ pin ∉ misjudged := ⟨Int.not_lt.mp hpin, hmis⟩
      obtain ⟨t, rfl⟩ := htest _ (pinTest_right hclean) fun hvalid =>
        ⟨(of_decide_eq_true hvalid).1, (of_decide_eq_true hvalid).2.1⟩
      refine iff_of_true ?_ hclean
      simp only [Except.map, hf]
      rw [agree_note_test (hs.setPort t)]

theorem right_initOut {s : Sys} (hs : Agree shl s) (pin val : Int) :
    Right shl s (.initOut pin val) ↔ Clean shl s (.initOut pin val) :=
  right_of_test hs (fun _ => rfl) (halGpioInitOut_error s.port val) fun _ htest hport =>
    halGpioInitOut_of_test s.port val htest hport

theorem right_initIn {s : Sys} (hs : Agree shl s) (pin : Int) (pull : Pull) :
    Right shl s (.initIn pin pull) ↔ Clean shl s (.initIn pin pull) := by
  by_cases hpull : pull = .other
  · subst hpull
    by_cases hfar : pin ≤ -32
    · refine iff_of_false ?_ fun h => absurd h.1 (Int.not_lt.mpr hfar)
      rw [Right, call, halGpioInitIn_outside s.port _ hfar]
      exact fun h => nomatch h
    · have hclean : Clean shl s (.initIn pin .other) := ⟨Int.not_le.mp hfar, .inl rfl⟩
      obtain ⟨b, hb⟩ : ∃ b, pinTest pin = .ok b := by
        by_cases hneg : pin < 0
        · exact ⟨true, pinTest_of_neg ⟨Int.not_le.mp hfar, hneg⟩⟩
        · by_cases hmis : pin ∈ misjudged
          · exact ⟨_, pinTest_wrong hmis⟩
          · exact ⟨_, pinTest_right ⟨Int.not_lt.mp hneg, hmis⟩⟩
      refine iff_of_true ?_ hclean
      rw [Right, call, halGpioInitIn_other s.port hb]
      exact hs.setPort s.port
  · have hright : Right shl s (.initIn pin pull) ↔ 0 ≤ pin ∧ pin ∉ misjudged := by
      refine right_of_test hs (fun _ => ?_) (fun hneg => ?_) fun _ htest hport =>
        halGpioInitIn_of_test s.port hpull htest hport
      · simp [hpull]
      · by_cases hfar : pin ≤ -32
        · exact .inl (halGpioInitIn_outside s.port pull hfar)
        · exact .inr (halGpioInitIn_noGroup s.port hpull ⟨Int.not_le.mp hfar, hneg⟩)
    rw [hright, Clean]
    constructor
    · intro h
      exact ⟨by omega, .inr h⟩
    · rintro ⟨-, hother | h⟩
      · exact absurd hother hpull
      · exact h

theorem halGpioIrqInit_isSome {g : Gpio} {pin : Int} {handler : Option Nat} {arg : Nat}
    {trig : Trig} {pull : Pull} :
    (halGpioIrqInit g pin handler arg trig pull).isSome ↔
      detectionCriteria trig = none ∨ gpioPinPull pull = none ∨ 0 ≤ pin ∧ pin < 64 := by
  rw [← halGpioIrqEic_port]
  cases hdetect : detectionCriteria trig with
  | none => simp [halGpioIrqInit, hdetect]
  | some detect =>
      cases hpull : gpioPinPull pull with
      | none => simp [halGpioIrqInit, hdetect, hpull]
      | some pinPull => simp [halGpioIrqInit, hdetect, hpull]

theorem not_taken {g : Gpio} {pin : Int} {c : Nat} (hpin : channelOf pin = some c)
    (hfree : (g.halGpioIrqs c).func = none) : ¬ Taken g pin := by
  intro htaken
  have hfunc := htaken c hpin
  rw [hfree] at hfunc
  cases hfunc

/-- What is refused for a pin of the ports is refused for the request or for a channel that is
taken. -/
theorem refused_cases {g : Gpio} {pin : Int} {trig : Trig} {pull : Pull}
    (h : ¬ ((detectionCriteria trig).isSome ∧ (gpioPinPull pull).isSome ∧
      ∃ c, channelOf pin = some c ∧ (g.halGpioIrqs c).func = none)) :
    detectionCriteria trig = none ∨ gpioPinPull pull = none ∨ Taken g pin := by
  by_cases hdetect : detectionCriteria trig = none
  · exact .inl hdetect
  · by_cases hpull : gpioPinPull pull = none
    · exact .inr (.inl hpull)
    · refine .inr (.inr fun c hc => ?_)
      by_contra hfree
      exact h ⟨Option.isSome_iff_ne_none.mpr hdetect, Option.isSome_iff_ne_none.mpr hpull, c, hc,
        by simpa using hfree⟩

theorem right_irqInit {s : Sys} (hs : Agree shl s) (pin : Int) (handler : Option Nat) (arg : Nat)
    (trig : Trig) (pull : Pull) :
    Right shl s (.irqInit pin handler arg trig pull) ↔ Clean shl s (.irqInit pin handler arg trig pull) := by
  have hsome := @halGpioIrqInit_isSome s.gpio pin handler arg trig pull
  rw [Right, call, Clean]
  cases hinit : halGpioIrqInit s.gpio pin handler arg trig pull with
  | none =>
      rw [hinit, Option.isSome_none, Bool.false_eq_true, false_iff] at hsome
      refine iff_of_false (fun h => nomatch h) ?_
      rintro (h | h | h)
      · exact hsome (.inl h)
      · exact hsome (.inr (.inl h))
      · exact hsome (.inr (.inr h.1))
  | some r =>
      obtain ⟨rc, gpio⟩ := r
      rw [hinit, Option.isSome_some] at hsome
      change Agree shl (({ s with gpio := gpio } : Sys).note pin false rc) ↔ _
      rw [agree_note_iff (hs.setGpio gpio)]
      cases halGpioIrqInit_cases hinit with
      | refused hrefused =>
          refine iff_of_true ⟨fun h => absurd h (by decide), fun _ h => nomatch h⟩ ?_
          rcases hsome.mp rfl with h | h | hport
          · exact .inl h
          · exact .inr (.inl h)
          · rcases refused_cases hrefused with h | h | htaken
            · exact .inl h
            · exact .inr (.inl h)
            · exact .inr (.inr ⟨hport, .inr htaken⟩)
      | @accepted c detect pinPull hdetect hpull hpin hfree =>
          have hport : 0 ≤ pin ∧ pin < 64 := by
            simpa [hdetect, hpull] using hsome
          have hchannel := channelOf_valid hport
          have hnot := not_taken hpin hfree
          by_cases hmis : pin ∈ misjudgedIrq
          · rw [if_pos hmis] at hchannel
            simp [hdetect, hpull, hport, hmis, hnot, hchannel.1]
          · rw [if_neg hmis, hpin] at hchannel
            simp [hdetect, hpull, hport, hmis, hchannel rfl]

/-- The calls that only look up a pin's channel. -/
theorem right_of_channel {s : Sys} (hs : Agree shl s) {pin : Int} {x : Option Gpio}
    (hx : x.isSome ↔ (halGpioIrqEic pin).isSome) :
    (match (inside x).map fun gpio => ({ s with gpio := gpio } : Sys) with
      | .ok t => Agree shl t
      | .error stop => stop = .assertion) ↔ 0 ≤ pin ∧ pin < 64 := by
  rw [halGpioIrqEic_port] at hx
  rw [← hx]
  cases x with
  | none => exact iff_of_false (fun h => nomatch h) (fun h => nomatch h)
  | some gpio => exact iff_of_true (hs.setGpio gpio) rfl

theorem halGpioIrqRelease_isSome (g : Gpio) (pin : Int) :
    (halGpioIrqRelease g pin).isSome ↔ (halGpioIrqEic pin).isSome := by
  cases heic : halGpioIrqEic pin with
  | none => simp [halGpioIrqRelease, heic]
  | some eic =>
      by_cases hneg : eic < 0
      · simp [halGpioIrqRelease, heic, hneg]
      · simp [halGpioIrqRelease, heic, hneg, halGpioIrqDisable, halGpioIrqSet]

/-- The calls that assert that the pin is valid: the assertion looks the pin up, unless its port is
negative. -/
theorem right_of_assert {pin : Int} {α : Type} {x : Except Stop α} {f : α → Sys}
    (hf : ∀ r, Agree shl (f r)) (houtside : pin ≤ -32 → x = .error .outside)
    (hok : pinAssert shl pin = .ok () → 0 ≤ pin ∧ pin < 64 → ∃ r, x = .ok r)
    (herror : pinAssert shl pin = .error .assertion → x = .error .assertion)
    (hnoGroup : pinAssert shl pin = .ok () → -32 < pin ∧ pin < 0 → x = .error .noGroup) :
    (match x.map f with
      | .ok t => Agree shl t
      | .error stop => stop = .assertion) ↔ -32 < pin ∧ ShiftRefuses shl pin := by
  by_cases hfar : pin ≤ -32
  · refine iff_of_false ?_ fun h => absurd h.1 (Int.not_lt.mpr hfar)
    rw [houtside hfar]
    exact fun h => nomatch h
  · have hnear : -32 < pin := Int.not_le.mp hfar
    rw [and_iff_right hnear]
    by_cases hneg : pin < 0
    · have hassert := pinAssert_of_neg shl ⟨hnear, hneg⟩
      by_cases hrefuses : ShiftRefuses shl pin
      · rw [if_pos hrefuses] at hassert
        rw [herror hassert]
        exact iff_of_true rfl hrefuses
      · rw [if_neg hrefuses] at hassert
        rw [hnoGroup hassert ⟨hnear, hneg⟩]
        exact iff_of_false (fun h => nomatch h) hrefuses
    · refine iff_of_true ?_ fun h => absurd h hneg
      rcases pinAssert_ne_outside shl (Int.not_lt.mp hneg) with ⟨hassert, hport⟩ | hassert
      · obtain ⟨r, rfl⟩ := hok hassert ⟨Int.not_lt.mp hneg, hport⟩
        exact hf r
      · rw [herror hassert]
        rfl

theorem right_read {s : Sys} (hs : Agree shl s) (pin : Int) :
    Right shl s (.read pin) ↔ Clean shl s (.read pin) :=
  right_of_assert (fun _ => hs) (halGpioRead_outside shl s.port)
    (fun hassert hport => ⟨_, halGpioRead_of_assert s.port hassert hport⟩)
    (fun hassert => by simp [halGpioRead, hassert, bind, Except.bind])
    (halGpioRead_noGroup s.port)

theorem right_toggle {s : Sys} (hs : Agree shl s) (pin : Int) :
    Right shl s (.toggle pin) ↔ Clean shl s (.toggle pin) :=
  right_of_assert (fun r => hs.setPort r.2) (halGpioToggle_outside shl s.port)
    (halGpioToggle_of_assert s.port)
    (fun hassert => by simp [halGpioToggle, halGpioRead, hassert, bind, Except.bind])
    (halGpioToggle_noGroup s.port)

theorem right_iff_clean {s : Sys} (hs : Agree shl s) (c : Call) : Right shl s c ↔ Clean shl s c := by
  cases c with
  | initOut pin val => exact right_initOut hs pin val
  | initIn pin pull => exact right_initIn hs pin pull
  | irqInit pin handler arg trig pull => exact right_irqInit hs pin handler arg trig pull
  | irqEnable pin =>
      exact right_of_channel hs (by rw [halGpioIrqEnable, halGpioIrqSet, Option.isSome_map])
  | irqDisable pin =>
      exact right_of_channel hs (by rw [halGpioIrqDisable, halGpioIrqSet, Option.isSome_map])
  | irqRelease pin => exact right_of_channel hs (halGpioIrqRelease_isSome s.gpio pin)
  | read pin => exact right_read hs pin
  | toggle pin => exact right_toggle hs pin
  | levels input => exact iff_of_true (hs.setPort _) trivial

theorem agree_start (gpio : Gpio) (port : Port) : Agree shl (Sys.start gpio port) := by
  refine ⟨?_, ?_, ?_, ?_⟩ <;> simp [Sys.start]

/-- In a run of the calls from any state, the pins that are accepted are the valid ones, they can be
read and toggled, and no table is read outside, exactly as long as each call is right about its
pin. -/
theorem pins_agree_iff (shl : Int → BitVec 32) (gpio : Gpio) (port : Port) {cs : List Call}
    {s : Sys} (h : Run.run (step shl) (Sys.start gpio port) cs = some s) :
    Run.Throughout (step shl) (Agree shl) (Sys.start gpio port) cs ↔
      Run.Along (step shl) (Clean shl) (Sys.start gpio port) cs :=
  Run.throughout_iff_along (fun _ hs => hs)
    (fun _ c _ hs hclean h => (step_agree_iff hs h).mpr ((right_iff_clean hs c).mpr hclean))
    (fun _ c _ hs hclean h hagree =>
      hclean ((right_iff_clean hs c).mp ((step_agree_iff hs h).mp hagree)))
    (agree_start gpio port) h

/-- The port with all levels low. -/
def Port.low : Port := ⟨fun _ => none, fun _ => false, fun _ => false⟩

/-- A run over valid pins and some that are none. -/
def validRun : List Call :=
  [.initOut 1 1, .initIn 40 .up, .initIn 26 .other, .initOut 64 0, .initIn 48 .none, .toggle 1,
    .irqInit 40 (some 7) 0 .both .up, .irqInit 36 (some 7) 0 .none .up, .irqEnable 40, .read 40,
    .irqRelease 40, .read 26]

theorem pins_agree_validRun :
    Run.Throughout (step fun _ => 0) (Agree fun _ => 0) (Sys.start Gpio.init Port.low) validRun :=
  (pins_agree_iff (fun _ => 0) Gpio.init Port.low
    (Option.some_get (x := Run.run (step fun _ => 0) (Sys.start Gpio.init Port.low) validRun)
      (by decide)).symm).mpr (by decide)

/-- Pin 26 is not valid and is accepted: reading it fails the assertion.  Pin 0 is valid and is
refused, and pin -32 is looked up outside of `valid_pins`. -/
theorem pins_disagree :
    (∃ s, Run.run (step fun _ => 0) (Sys.start Gpio.init Port.low)
        [.initIn 26 .none, .read 26] = some s ∧
      s.accepted = [26] ∧ s.stopped = some .assertion ∧ ¬ Agree (fun _ => 0) s) ∧
    (∃ s, Run.run (step fun _ => 0) (Sys.start Gpio.init Port.low) [.initOut 0 1] = some s ∧
      s.refused = [0] ∧ ¬ Agree (fun _ => 0) s) ∧
    ∃ s, Run.run (step fun _ => 0) (Sys.start Gpio.init Port.low) [.initOut (-32) 1] = some s ∧
      s.stopped = some .outside ∧ ¬ Agree (fun _ => 0) s := by
  refine ⟨⟨_, rfl, rfl, rfl, fun h => ?_⟩, ⟨_, rfl, rfl, fun h => ?_⟩, ⟨_, rfl, rfl, fun h => ?_⟩⟩
  · exact absurd (h.accepted 26 List.mem_cons_self) (by decide)
  · exact absurd (h.refused 0 List.mem_cons_self) (by decide)
  · exact absurd (h.stopped .outside rfl) (by decide)

end HalGpio.Pins
