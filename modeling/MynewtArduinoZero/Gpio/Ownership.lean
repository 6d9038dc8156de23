import MynewtArduinoZero.Gpio.HalGpio
import MynewtArduinoZero.Lib.Run

/-!
# The owner of an interrupt channel

Runs of the calls and of `hal_gpio_irq`, with the registrations that are in
force beside them: what each pin was last initialised with, and whether the pin
itself has last been enabled.  A channel keeps what its pin registered as long
as no call for another pin on the channel changes it.  `hal_gpio_irq_init` looks
whether the channel is taken; the other calls do not look whose it is.
-/

namespace HalGpio

/-! ## Runs -/

/-- A registration, from a successful `hal_gpio_irq_init` for a pin to its release. -/
structure Reg where
  pin : Int
  func : Option Nat
  arg : Nat
  detect : Option ExtintDetect
  pull : Option ExtintPull
  /-- The interrupt was enabled when the pin was initialised, or last by a call for the pin. -/
  on : Bool
deriving DecidableEq

/-- A turn of `hal_gpio_irq` for a channel that was detected, with what it called and the
registrations at that moment. -/
structure Turn where
  channel : Nat
  call : Option (Nat × Nat)
  regs : List Reg

/-- Where `hal_gpio_irq` is. -/
inductive Phase where
  | idle
  /-- Before it looks at a channel. -/
  | scan (i : Nat)
  /-- In the handler of a channel. -/
  | handler (i : Nat)
deriving DecidableEq

structure Sys where
  g : Gpio
  phase : Phase
  regs : List Reg
  log : List Turn

def Sys.init : Sys := ⟨Gpio.init, .idle, [], []⟩

/-- What can happen next.  The calls may come from anywhere: the program, a handler, or an
interrupt of a higher priority. -/
inductive Event where
  | init (pin : Int) (handler : Option Nat) (arg : Nat) (trig : Trig) (pull : Pull)
  | enable (pin : Int)
  | disable (pin : Int)
  | release (pin : Int)
  /-- The controller detects a channel. -/
  | detect (c : Nat)
  /-- `hal_gpio_irq` is entered. -/
  | irq
  /-- Its next turn. -/
  | turn
  | handlerReturn

/-- The registrations for other pins. -/
def others (regs : List Reg) (pin : Int) : List Reg := regs.filter fun r => r.pin ≠ pin

/-- The registrations behind a call that enables or disables a pin's interrupt. -/
def turned (enable : Bool) (pin : Int) (regs : List Reg) : List Reg :=
  regs.map fun r => if r.pin = pin then { r with on := enable } else r

/-- The interrupt of a pin's channel is enabled. -/
def Gpio.pinInten (g : Gpio) (pin : Int) : Bool := (channelOf pin).any fun c => (g.channels c).inten

/-- A channel that requests the interrupt. -/
def Gpio.Requested (g : Gpio) : Prop :=
  g.irqEnabled = true ∧
    ∃ c < eicNumberOfInterrupts, (g.channels c).inten = true ∧ (g.channels c).intflag = true

instance (g : Gpio) : Decidable g.Requested :=
  inferInstanceAs (Decidable (_ ∧ ∃ c < eicNumberOfInterrupts, _))

/-- One turn of the loop of `hal_gpio_irq`. -/
def Sys.turn (i : Nat) (s : Sys) : Sys :=
  if i < eicNumberOfInterrupts then
    if (s.g.channels i).intflag then
      let call := (halGpioIrqTurn s.g i).1
      { s with
        g := (halGpioIrqTurn s.g i).2
        phase := if call.isSome then .handler i else .scan (i + 1)
        log := ⟨i, call, s.regs⟩ :: s.log }
    else { s with phase := .scan (i + 1) }
  else { s with phase := .idle }

def step (s : Sys) : Event → Option Sys
  | .init pin handler arg trig pull =>
      (halGpioIrqInit s.g pin handler arg trig pull).map fun (rc, g) =>
        { s with
          g := g
          regs :=
            if rc = 0 then
              { pin := pin
                func := handler
                arg := arg
                detect := detectionCriteria trig
                pull := gpioPinPull pull
                on := g.pinInten pin } :: others s.regs pin
            else s.regs }
  | .enable pin =>
      (halGpioIrqEnable s.g pin).map fun g => { s with g := g, regs := turned true pin s.regs }
  | .disable pin =>
      (halGpioIrqDisable s.g pin).map fun g => { s with g := g, regs := turned false pin s.regs }
  | .release pin =>
      (halGpioIrqRelease s.g pin).map fun g => { s with g := g, regs := others s.regs pin }
  | .detect c => some { s with g := s.g.setChannel c { s.g.channels c with intflag := true } }
  | .irq => if s.phase = .idle ∧ s.g.Requested then some { s with phase := .scan 0 } else none
  | .turn =>
      match s.phase with
      | .scan i => some (s.turn i)
      | _ => none
  | .handlerReturn =>
      match s.phase with
      | .handler i => some { s with phase := .scan (i + 1) }
      | _ => none

/-! ## What a registration asks for -/

/-- Channel `c` is as `r` has registered it. -/
structure Reg.Held (g : Gpio) (r : Reg) (c : Nat) : Prop where
  irq : g.halGpioIrqs c = ⟨r.func, r.arg⟩
  sense : some (g.channels c).sense = r.detect
  filten : (g.channels c).filten = false
  wakeup : (g.channels c).wakeup = true
  pull : g.pinmux r.pin = r.pull
  inten : (g.channels c).inten = r.on

/-- The turn called what the pins on its channel have registered. -/
def Turn.Right (t : Turn) : Prop :=
  ∀ r ∈ t.regs, channelOf r.pin = some t.channel → t.call = r.func.map fun func => (func, r.arg)

/-- Every channel is as its pin has registered it, and `hal_gpio_irq` has called what was
registered. -/
structure Kept (s : Sys) : Prop where
  held : ∀ r ∈ s.regs, ∀ c, channelOf r.pin = some c → r.Held s.g c
  right : ∀ t ∈ s.log, t.Right

/-- `r` is for another pin on the channel of `pin`. -/
def Reg.Shares (r : Reg) (pin : Int) : Prop :=
  r.pin ≠ pin ∧ (channelOf pin).isSome ∧ channelOf r.pin = channelOf pin

instance (r : Reg) (pin : Int) : Decidable (r.Shares pin) :=
  inferInstanceAs (Decidable (_ ∧ _ ∧ _))

/-- The step changes nothing that a pin has registered with a channel which the call reaches by
another pin. -/
def Clean (s : Sys) : Event → Prop
  | .init pin handler arg trig pull =>
      (detectionCriteria trig).isSome → (gpioPinPull pull).isSome →
        (∀ c ∈ channelOf pin, (s.g.halGpioIrqs c).func = none) →
          ∀ r ∈ s.regs, r.Shares pin →
            r.func = handler ∧ r.arg = arg ∧ r.detect = detectionCriteria trig
  | .enable pin => ∀ r ∈ s.regs, r.Shares pin → r.on = true
  | .disable pin => ∀ r ∈ s.regs, r.Shares pin → r.on = false
  | .release pin => ∀ r ∈ s.regs, r.Shares pin → r.on = false ∧ r.func = none
  | _ => True

instance (s : Sys) (e : Event) : Decidable (Clean s e) := by
  cases e with
  | init => exact instDecidableForall
  | enable | disable | release => exact List.decidableBAll _ _
  | detect | irq | turn | handlerReturn => exact instDecidableTrue

/-! ## What a step keeps -/

theorem mem_others {regs : List Reg} {pin : Int} {r : Reg} :
    r ∈ others regs pin ↔ r ∈ regs ∧ r.pin ≠ pin := by
  simp [others]

theorem Reg.Shares.of_channelOf {r : Reg} {pin : Int} {c : Nat} (hne : r.pin ≠ pin)
    (hr : channelOf r.pin = some c) (hpin : channelOf pin = some c) : r.Shares pin :=
  ⟨hne, by rw [hpin]; rfl, hr.trans hpin.symm⟩

theorem Reg.Shares.channelOf {r : Reg} {pin : Int} {c : Nat} (h : r.Shares pin)
    (hpin : channelOf pin = some c) : channelOf r.pin = some c :=
  h.2.2.trans hpin

/-- What a registration asks for depends on nothing but the entry, the channel and the pin. -/
theorem Reg.Held.congr {g g' : Gpio} {r : Reg} {c : Nat} (h : r.Held g c)
    (hirq : g'.halGpioIrqs c = g.halGpioIrqs c) (hchannel : g'.channels c = g.channels c)
    (hpull : g'.pinmux r.pin = g.pinmux r.pin) : r.Held g' c where
  irq := hirq.trans h.irq
  sense := hchannel ▸ h.sense
  filten := hchannel ▸ h.filten
  wakeup := hchannel ▸ h.wakeup
  pull := hpull.trans h.pull
  inten := hchannel ▸ h.inten

theorem Reg.Held.setIntflag {g : Gpio} {r : Reg} {c : Nat} (h : r.Held g c) (c' : Nat) (b : Bool) :
    r.Held (g.setChannel c' { g.channels c' with intflag := b }) c := by
  rcases eq_or_ne c c' with rfl | hc
  · constructor <;> simp [Gpio.setChannel, h.irq, h.sense, h.filten, h.wakeup, h.pull, h.inten]
  · exact h.congr rfl (by simp [Gpio.setChannel, hc]) rfl

/-- The enable of another channel is another one. -/
theorem Reg.Held.enable_of_ne {g : Gpio} {r : Reg} {c c' : Nat} (h : r.Held g c) (hc : c ≠ c')
    (b : Bool) : r.Held (g.extintChanEnableCallback c' b) c :=
  h.congr rfl (by simp [Gpio.extintChanEnableCallback, Gpio.setChannel, hc]) rfl

/-- The enable of the channel is what the registration asks for now. -/
theorem Reg.Held.enable_self {g : Gpio} {r : Reg} {c : Nat} (h : r.Held g c) (b : Bool) :
    Reg.Held (g.extintChanEnableCallback c b) { r with on := b } c := by
  constructor <;>
    simp [Gpio.extintChanEnableCallback, Gpio.setChannel, h.irq, h.sense, h.filten, h.wakeup, h.pull]

/-! ## The calls -/

/-- Every registration of a list holds its channel. -/
def HeldAll (g : Gpio) (regs : List Reg) : Prop :=
  ∀ r ∈ regs, ∀ c, channelOf r.pin = some c → r.Held g c

theorem heldAll_turned {g : Gpio} {regs : List Reg} {pin : Int} {c : Nat} {b : Bool}
    (hpin : channelOf pin = some c) (h : HeldAll g regs)
    (hclean : ∀ r ∈ regs, r.Shares pin → r.on = b) :
    HeldAll (g.extintChanEnableCallback c b) (turned b pin regs) := by
  intro r hr c' hc'
  obtain ⟨r, hmem, rfl⟩ := List.mem_map.mp hr
  by_cases hown : r.pin = pin
  · rw [if_pos hown] at hc' ⊢
    obtain rfl : c = c' := Option.some.inj (hpin.symm.trans (hown ▸ hc'))
    exact (h r hmem c hc').enable_self b
  · rw [if_neg hown] at hc' ⊢
    rcases eq_or_ne c' c with rfl | hne
    · have hon : r.on = b := hclean r hmem (.of_channelOf hown hc' hpin)
      have hself := (h r hmem c' hc').enable_self b
      rwa [← hon] at hself ⊢
    · exact (h r hmem c' hc').enable_of_ne hne b

/-- Without a channel, the call changes nothing. -/
theorem heldAll_turned_of_none {g : Gpio} {regs : List Reg} {pin : Int} {b : Bool}
    (hpin : channelOf pin = none) (h : HeldAll g regs) : HeldAll g (turned b pin regs) := by
  intro r hr c hc
  obtain ⟨r, hmem, rfl⟩ := List.mem_map.mp hr
  by_cases hown : r.pin = pin
  · rw [if_pos hown, hown, hpin] at hc
    cases hc
  · rw [if_neg hown] at hc ⊢
    exact h r hmem c hc

/-- `hal_gpio_irq_enable` and `hal_gpio_irq_disable`. -/
theorem heldAll_set {g g' : Gpio} {regs : List Reg} {pin : Int} {b : Bool}
    (hset : halGpioIrqSet b g pin = some g') (h : HeldAll g regs)
    (hclean : ∀ r ∈ regs, r.Shares pin → r.on = b) : HeldAll g' (turned b pin regs) := by
  rcases halGpioIrqSet_cases hset with ⟨hpin, rfl⟩ | ⟨c, hpin, rfl⟩
  · exact heldAll_turned_of_none hpin h
  · exact heldAll_turned hpin h hclean

/-- What is held behind the call asks for what the call does. -/
theorem on_of_heldAll_turned {g : Gpio} {regs : List Reg} {pin : Int} {c : Nat} {b : Bool} {r : Reg}
    (hpin : channelOf pin = some c) (hr : r ∈ regs) (hshares : r.Shares pin)
    (h : HeldAll (g.extintChanEnableCallback c b) (turned b pin regs)) : r.on = b := by
  have hmem : r ∈ turned b pin regs := List.mem_map.mpr ⟨r, hr, if_neg hshares.1⟩
  have hinten := (h r hmem c (hshares.channelOf hpin)).inten
  simp only [Gpio.extintChanEnableCallback, Gpio.setChannel, Function.update_self] at hinten
  exact hinten.symm

theorem heldAll_others {g : Gpio} {regs : List Reg} (pin : Int) (h : HeldAll g regs) :
    HeldAll g (others regs pin) :=
  fun r hr c hc => h r (mem_others.mp hr).1 c hc

theorem heldAll_released {g : Gpio} {regs : List Reg} {pin : Int} {c : Nat}
    (hpin : channelOf pin = some c) (h : HeldAll g regs)
    (hclean : ∀ r ∈ regs, r.Shares pin → r.on = false ∧ r.func = none) :
    HeldAll (g.released c) (others regs pin) := by
  intro r hr c' hc'
  obtain ⟨hmem, hne⟩ := mem_others.mp hr
  have hheld := h r hmem c' hc'
  rcases eq_or_ne c' c with rfl | hc
  · obtain ⟨hon, hfunc⟩ := hclean r hmem (.of_channelOf hne hc' hpin)
    constructor <;>
      simp [Gpio.released, Gpio.extintChanEnableCallback, Gpio.setChannel, Gpio.setIrq, hheld.irq,
        hheld.sense, hheld.filten, hheld.wakeup, hheld.pull, hon, hfunc]
  · refine (hheld.enable_of_ne hc false).congr ?_ rfl rfl
    simp [Gpio.released, Gpio.setIrq, hc]

theorem off_of_heldAll_released {g : Gpio} {regs : List Reg} {pin : Int} {c : Nat} {r : Reg}
    (hpin : channelOf pin = some c) (hr : r ∈ regs) (hshares : r.Shares pin)
    (h : HeldAll (g.released c) (others regs pin)) : r.on = false ∧ r.func = none := by
  have hheld := h r (mem_others.mpr ⟨hr, hshares.1⟩) c (hshares.channelOf hpin)
  have hinten := hheld.inten
  have hirq := congrArg GpioIrq.func hheld.irq
  simp only [Gpio.released, Gpio.extintChanEnableCallback, Gpio.setChannel, Gpio.setIrq,
    Function.update_self] at hinten hirq
  exact ⟨hinten.symm, hirq.symm⟩

/-- The registration of a pin holds its channel behind `hal_gpio_irq_init`. -/
theorem held_accepted_self {g : Gpio} {pin : Int} {c : Nat} (handler : Option Nat) (arg : Nat)
    (detect : ExtintDetect) (pull : ExtintPull) :
    Reg.Held (g.accepted c handler arg (irqInitConfig pin detect pull))
      { pin := pin, func := handler, arg := arg, detect := some detect, pull := some pull,
        on := (g.channels c).inten } c := by
  constructor <;>
    simp [Gpio.accepted, Gpio.extintChanSetConfig, Gpio.setChannel, Gpio.setIrq, irqInitConfig]

theorem heldAll_accepted_others {g : Gpio} {regs : List Reg} {pin : Int} {c : Nat}
    {handler : Option Nat} {arg : Nat} {detect : ExtintDetect} {pull : ExtintPull}
    (hpin : channelOf pin = some c) (h : HeldAll g regs)
    (hclean : ∀ r ∈ regs, r.Shares pin →
      r.func = handler ∧ r.arg = arg ∧ r.detect = some detect) :
    HeldAll (g.accepted c handler arg (irqInitConfig pin detect pull)) (others regs pin) := by
  intro r hr c' hc'
  obtain ⟨hmem, hne⟩ := mem_others.mp hr
  have hheld := h r hmem c' hc'
  have hpull : Function.update g.pinmux pin (some pull) r.pin = r.pull :=
    (Function.update_of_ne hne _ _).trans hheld.pull
  rcases eq_or_ne c' c with rfl | hc
  · obtain ⟨hfunc, harg, hdetect⟩ := hclean r hmem (.of_channelOf hne hc' hpin)
    constructor <;>
      simp [Gpio.accepted, Gpio.extintChanSetConfig, Gpio.setChannel, Gpio.setIrq, irqInitConfig,
        hheld.inten, hfunc, harg, hdetect, hpull]
  · refine hheld.congr ?_ ?_ (hpull.trans hheld.pull.symm) <;>
      simp [Gpio.accepted, Gpio.extintChanSetConfig, Gpio.setChannel, Gpio.setIrq, hc]

theorem shared_of_heldAll_accepted {g : Gpio} {regs : List Reg} {pin : Int} {c : Nat}
    {handler : Option Nat} {arg : Nat} {detect : ExtintDetect} {pull : ExtintPull} {r : Reg}
    (hpin : channelOf pin = some c) (hr : r ∈ regs) (hshares : r.Shares pin)
    (h : HeldAll (g.accepted c handler arg (irqInitConfig pin detect pull)) (others regs pin)) :
    r.func = handler ∧ r.arg = arg ∧ r.detect = some detect := by
  have hheld := h r (mem_others.mpr ⟨hr, hshares.1⟩) c (hshares.channelOf hpin)
  have hirq := hheld.irq
  have hsense := hheld.sense
  simp only [Gpio.accepted, Gpio.extintChanSetConfig, Gpio.setChannel, Gpio.setIrq, irqInitConfig,
    Function.update_self, GpioIrq.mk.injEq] at hirq hsense
  exact ⟨hirq.1.symm, hirq.2.symm, hsense.symm⟩

/-! ## Steps -/

theorem halGpioIrqTurn_right {g : Gpio} {regs : List Reg} (h : HeldAll g regs) (i : Nat) :
    Turn.Right ⟨i, (halGpioIrqTurn g i).1, regs⟩ := by
  intro r hr hc
  have hirq := (h r hr i hc).irq
  simp [halGpioIrqTurn, hirq]

theorem kept_turn {s : Sys} (hs : Kept s) (i : Nat) : Kept (s.turn i) := by
  unfold Sys.turn
  split
  · split
    · refine ⟨fun r hr c hc => (hs.held r hr c hc).setIntflag i false, ?_⟩
      intro t ht
      rcases List.mem_cons.mp ht with rfl | ht
      · exact halGpioIrqTurn_right hs.held i
      · exact hs.right t ht
    · exact ⟨hs.held, hs.right⟩
  · exact ⟨hs.held, hs.right⟩

theorem pinInten_accepted {g : Gpio} {pin : Int} {c : Nat} {handler : Option Nat} {arg : Nat}
    {config : ExtintChanConf} (h : channelOf pin = some c) :
    (g.accepted c handler arg config).pinInten pin = (g.channels c).inten := by
  simp [Gpio.pinInten, h, Gpio.accepted, Gpio.extintChanSetConfig, Gpio.setChannel, Gpio.setIrq]

/-- `hal_gpio_irq_init`. -/
theorem heldAll_init {g g' : Gpio} {regs : List Reg} {pin : Int} {handler : Option Nat} {arg : Nat}
    {trig : Trig} {pull : Pull} {rc : Int} (hinit : InitStep g pin handler arg trig pull rc g')
    (h : HeldAll g regs)
    (hclean : (detectionCriteria trig).isSome → (gpioPinPull pull).isSome →
      (∀ c ∈ channelOf pin, (g.halGpioIrqs c).func = none) →
        ∀ r ∈ regs, r.Shares pin →
          r.func = handler ∧ r.arg = arg ∧ r.detect = detectionCriteria trig) :
    HeldAll g' (if rc = 0 then
      { pin := pin, func := handler, arg := arg, detect := detectionCriteria trig,
        pull := gpioPinPull pull, on := g'.pinInten pin } :: others regs pin
      else regs) := by
  cases hinit with
  | refused => exact fun r hr c hc => (h r hr c hc).congr rfl rfl rfl
  | @accepted c detect pinPull hdetect hpull hpin hfree =>
      have hothers : ∀ r ∈ regs, r.Shares pin →
          r.func = handler ∧ r.arg = arg ∧ r.detect = some detect := by
        rw [← hdetect]
        refine hclean (by simp [hdetect]) (by simp [hpull]) ?_
        intro c' hc'
        rwa [Option.some.inj (hc'.symm.trans hpin)]
      intro r hr c' hc'
      rcases List.mem_cons.mp hr with rfl | hr
      · obtain rfl : c = c' := Option.some.inj (hpin.symm.trans hc')
        rw [hdetect, hpull, pinInten_accepted hpin]
        exact held_accepted_self handler arg detect pinPull
      · exact heldAll_accepted_others hpin h hothers r hr c' hc'

/-- A step that changes nothing which other pins have registered keeps every registration. -/
theorem kept_step {s : Sys} {e : Event} {s' : Sys} (hs : Kept s) (hclean : Clean s e)
    (h : step s e = some s') : Kept s' := by
  cases e with
  | init pin handler arg trig pull =>
      obtain ⟨⟨rc, g⟩, hinit, rfl⟩ := Option.map_eq_some_iff.mp h
      exact ⟨heldAll_init (halGpioIrqInit_cases hinit) hs.held hclean, hs.right⟩
  | enable pin =>
      obtain ⟨g, hset, rfl⟩ := Option.map_eq_some_iff.mp h
      exact ⟨heldAll_set hset hs.held hclean, hs.right⟩
  | disable pin =>
      obtain ⟨g, hset, rfl⟩ := Option.map_eq_some_iff.mp h
      exact ⟨heldAll_set hset hs.held hclean, hs.right⟩
  | release pin =>
      obtain ⟨g, hrelease, rfl⟩ := Option.map_eq_some_iff.mp h
      refine ⟨?_, hs.right⟩
      rcases halGpioIrqRelease_cases hrelease with ⟨-, rfl⟩ | ⟨c, hpin, rfl⟩
      · exact heldAll_others pin hs.held
      · exact heldAll_released hpin hs.held hclean
  | detect c =>
      cases h
      exact ⟨fun r hr c' hc' => (hs.held r hr c' hc').setIntflag c true, hs.right⟩
  | irq =>
      rw [step, Option.ite_none_right_eq_some] at h
      cases h.2
      exact ⟨hs.held, hs.right⟩
  | turn =>
      rw [step] at h
      split at h
      · cases h
        exact kept_turn hs _
      · cases h
  | handlerReturn =>
      rw [step] at h
      split at h
      · cases h
        exact ⟨hs.held, hs.right⟩
      · cases h

/-- A step that changes what another pin has registered leaves a registration that is not
held. -/
theorem not_kept_step {s : Sys} {e : Event} {s' : Sys} (hclean : ¬ Clean s e)
    (h : step s e = some s') : ¬ Kept s' := by
  intro hkept
  have hheld : HeldAll s'.g s'.regs := hkept.held
  apply hclean
  cases e with
  | init pin handler arg trig pull =>
      intro htrig hpulls hfree r hr hshares
      obtain ⟨⟨rc, g⟩, hinit, rfl⟩ := Option.map_eq_some_iff.mp h
      cases halGpioIrqInit_cases hinit with
      | refused hrefused =>
          obtain ⟨c, hpin⟩ := Option.isSome_iff_exists.mp hshares.2.1
          exact absurd ⟨htrig, hpulls, c, hpin, hfree c hpin⟩ hrefused
      | accepted hdetect _ hpin _ =>
          rw [hdetect]
          exact shared_of_heldAll_accepted hpin hr hshares
            fun r hr => hheld r (List.mem_cons_of_mem _ hr)
  | enable pin =>
      intro r hr hshares
      obtain ⟨c, hpin⟩ := Option.isSome_iff_exists.mp hshares.2.1
      rw [step, halGpioIrqEnable, halGpioIrqSet_eq true s.g hpin] at h
      cases h
      exact on_of_heldAll_turned hpin hr hshares hheld
  | disable pin =>
      intro r hr hshares
      obtain ⟨c, hpin⟩ := Option.isSome_iff_exists.mp hshares.2.1
      rw [step, halGpioIrqDisable, halGpioIrqSet_eq false s.g hpin] at h
      cases h
      exact on_of_heldAll_turned hpin hr hshares hheld
  | release pin =>
      intro r hr hshares
      obtain ⟨c, hpin⟩ := Option.isSome_iff_exists.mp hshares.2.1
      rw [step, halGpioIrqRelease_eq s.g hpin] at h
      cases h
      exact off_of_heldAll_released hpin hr hshares hheld
  | detect _ | irq | turn | handlerReturn => trivial

theorem kept_init : Kept Sys.init := ⟨by simp [Sys.init], by simp [Sys.init]⟩

/-- In a run of the calls and of `hal_gpio_irq`, every pin keeps what it has registered with its
channel, and its handler is what is called, exactly as long as no call for another pin on the
channel changes it. -/
theorem channel_kept_iff {es : List Event} {s : Sys} (h : Run.run step Sys.init es = some s) :
    Run.Throughout step Kept Sys.init es ↔ Run.Along step Clean Sys.init es :=
  Run.throughout_iff_along (fun _ hs => hs) (fun _ _ _ hs hclean h => kept_step hs hclean h)
    (fun _ _ _ _ hclean h => not_kept_step hclean h) kept_init h

/-- A pin with its handler, which is called. -/
def ownerRun : List Event :=
  [.init 1 (some 7) 5 .rising .up, .enable 1, .init 17 (some 8) 6 .falling .none, .detect 1, .irq,
    .turn, .turn, .handlerReturn, .disable 1, .release 1, .init 17 (some 8) 6 .falling .none]

theorem channel_kept_ownerRun : Run.Throughout step Kept Sys.init ownerRun :=
  (channel_kept_iff (Option.some_get (x := Run.run step Sys.init ownerRun) (by decide)).symm).mpr
    (by decide)

/-- Pins 1 and 17 share channel 1: the release of pin 17, which has registered nothing, takes the
handler of pin 1. -/
theorem channel_not_kept_release :
    ∃ s, Run.run step Sys.init [.init 1 (some 7) 5 .rising .up, .enable 1, .release 17] = some s ∧
      s.regs.map Reg.pin = [1] ∧ (s.g.halGpioIrqs 1).func = none ∧
      (s.g.channels 1).inten = false ∧ ¬ Kept s := by
  refine ⟨_, rfl, rfl, rfl, rfl, ?_⟩
  intro hkept
  have hirq := (hkept.held _ (List.mem_singleton.mpr rfl) 1 rfl).irq
  cases hirq

end HalGpio
