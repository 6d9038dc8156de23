import MynewtArduinoZero.Spi.Driver

/-!
# HAL SPI

`hal_spi.c` over the driver: the six ports, the calls on them and the interrupts
of their SERCOMs.

A blocking transfer lasts; the interrupts that come while it waits are an argument
of the call, and so is the status the wait ends with.
-/

namespace HalSpi

/-! ## The data -/

def einval : Int := 22
def eio : Int := 5
def eacces : Int := 13
def ealready : Int := 114

/-- `struct samd21_hal_spi` without its module; the three flags are bits of `flags`. -/
structure Hal where
  master : Bool
  enabled : Bool
  xfer : Bool
  pconfig : Option Nat
  txrxCb : Option Nat
  txrxCbArg : Option Nat
deriving DecidableEq

/-- Filled with zeros. -/
def Hal.zero : Hal where
  master := false
  enabled := false
  xfer := false
  pconfig := none
  txrxCb := none
  txrxCbArg := none

/-- A port: its HAL state and its driver. -/
structure Port where
  hal : Hal
  driver : Driver

def Port.setXfer (p : Port) (xfer : Bool) : Port := { p with hal := { p.hal with xfer := xfer } }

/-- `HAL_SAMD21_SPI_MAX`. -/
abbrev spiMax : Nat := 6

/-- `samd21_hal_spis`. -/
abbrev Spis : Type := Fin spiMax → Option Port

/-- `spi_type`. -/
inductive SpiType where
  | master | slave | other
deriving DecidableEq

/-- `struct hal_spi_settings`; `none` is a value outside the enumeration. -/
structure HalSpiSettings where
  wordSize : Option CharacterSize
  dataOrder : Option Bool
  dataMode : Option (Fin 4)
  baudrate : Nat
deriving DecidableEq

/-! ## The interrupt -/

/-- `samd21_hal_spi_cb`: the callback of the application that it calls, if any. -/
def samd21HalSpiCb (p : Port) : Except Fault (Option Nat × Port) :=
  if p.hal.xfer then
    match p.hal.txrxCb with
    | none => .error .assertion
    | some cb => .ok (some cb, p.setXfer false)
  else .ok (none, p)

/-- What a handler reads of the hardware. -/
structure Irq where
  dre : Bool
  rxc : Bool
  txc : Bool
  /-- STATUS.BUFOVF. -/
  bufovf : Bool
  /-- DATA. -/
  data : UInt16
deriving DecidableEq

/-- Where the handler of a port is: it does not run, or a callback of the application runs. -/
inductive Phase where
  | idle
  /-- Called from the receive-complete part; `txc` tells whether the last part is to come. -/
  | rxCallback (txc : Bool)
  | txCallback
deriving DecidableEq

/-- The last part of the handler. -/
def interruptTxc (p : Port) (txc : Bool) : Except Fault (Port × Phase) :=
  if txc then
    match spiTransmitComplete p.driver with
    | (none, d) => .ok ({ p with driver := d }, .idle)
    | (some _, d) =>
        match samd21HalSpiCb { p with driver := d } with
        | .error fault => .error fault
        | .ok (none, p) => .ok (p, .idle)
        | .ok (some _, p) => .ok (p, .txCallback)
  else .ok (p, .idle)

/-- The receive-complete part of the handler and what follows it. -/
def interruptRxc (p : Port) (rxc txc : Bool) (irq : Irq) : Except Fault (Port × Phase) :=
  if rxc then
    match spiReceiveComplete p.driver irq.bufovf irq.data with
    | (none, d) => interruptTxc { p with driver := d } txc
    | (some _, d) =>
        match samd21HalSpiCb { p with driver := d } with
        | .error fault => .error fault
        | .ok (none, p) => interruptTxc p txc
        | .ok (some _, p) => .ok (p, .rxCallback txc)
  else interruptTxc p txc

/-- `_spi_interrupt_handler`, up to a callback of the application. -/
def interrupt (p : Port) (irq : Irq) : Except Fault (Port × Phase) :=
  let inten := p.driver.hw.inten
  if irq.dre && inten.dre then
    match spiDataRegisterEmpty p.driver with
    | .error fault => .error fault
    | .ok (_, d) =>
        interruptRxc { p with driver := d } (irq.rxc && inten.rxc) (irq.txc && inten.txc) irq
  else interruptRxc p (irq.rxc && inten.rxc) (irq.txc && inten.txc) irq

/-- Interrupts one after the other, with no callback of the application. -/
def interrupts : Port → List Irq → Except Fault Port
  | p, [] => .ok p
  | p, irq :: irqs =>
      match interrupt p irq with
      | .error fault => .error fault
      | .ok (p, _) => interrupts p irqs

/-! ## The calls -/

/-- `samd21_hal_spi_resolve` and a call on the port it finds.  `none` is a read in front of
`samd21_hal_spis`. -/
def onPort (s : Spis) (spiNum : Int) (f : Port → Except Fault (Int × Port)) :
    Option (Except Fault (Int × Spis)) :=
  if spiNum ≥ spiMax then some (.ok (einval, s))
  else if h : 0 ≤ spiNum ∧ spiNum.toNat < spiMax then
    match s ⟨spiNum.toNat, h.2⟩ with
    | none => some (.ok (einval, s))
    | some p =>
        some ((f p).map fun r => (r.1, Function.update s ⟨spiNum.toNat, h.2⟩ (some r.2)))
  else none

/-- `samd21_hal_spi_rc_from_status`. -/
def samd21HalSpiRcFromStatus : Status → Int
  | .ok => 0
  | .errInvalidArg => einval
  | _ => eio

/-- `hal_spi_init` behind the resolution of the port; every port has a SERCOM. -/
def initPort (cfg : Nat) (spiType : SpiType) (p : Port) : Except Fault (Int × Port) :=
  let p := { hal := .zero, driver := { p.driver with module := { SpiModule.zero with hw := true } } }
  match spiType with
  | .master => .ok (0, { p with hal := { p.hal with master := true, pconfig := some cfg } })
  | .slave => .ok (0, { p with hal := { p.hal with pconfig := some cfg } })
  | .other => .ok (einval, p)

/-- `samd21_spi_config`. -/
def samd21SpiConfig (settings : Option HalSpiSettings) (p : Port) : Except Fault (Int × Port) :=
  if p.hal.pconfig = none then .error .null
  else
    match settings with
    | none => .error .null
    | some settings =>
        match settings.wordSize with
        | none => .ok (einval, p)
        | some characterSize =>
            if settings.dataOrder = none ∨ settings.dataMode = none then .ok (einval, p)
            else
              let cfg : SpiConfig :=
                { mode := if p.hal.master then .master else .slave
                  characterSize := characterSize
                  receiverEnable := true
                  baudrate := settings.baudrate }
              match spiInit p.driver cfg with
              | .error fault => .error fault
              | .ok (rc, d) => .ok (if rc = .ok then 0 else eio, { p with driver := d })

/-- `hal_spi_config` behind the resolution of the port. -/
def configPort (settings : Option HalSpiSettings) (p : Port) : Except Fault (Int × Port) :=
  if p.hal.enabled then .ok (eacces, p) else samd21SpiConfig settings p

/-- `hal_spi_enable` behind the resolution of the port. -/
def enablePort (p : Port) : Except Fault (Int × Port) :=
  (spiEnable p.driver).map fun d => (0, { hal := { p.hal with enabled := true }, driver := d })

/-- `hal_spi_disable` behind the resolution of the port. -/
def disablePort (p : Port) : Except Fault (Int × Port) :=
  (spiDisable p.driver).map fun d => (0, { hal := { p.hal with enabled := false }, driver := d })

/-- The types that the loop of `hal_spi_set_txrx_cb` goes through. -/
def callbackTypes : List SpiCallback :=
  [.bufferTransmitted, .bufferReceived, .bufferTransceived, .error, .slaveTransmissionComplete,
    .slaveSelectLow, .combinedError]

/-- The loop of `hal_spi_set_txrx_cb`. -/
def setCallbacks (txrxCb : Option Nat) (d : Driver) : Driver :=
  callbackTypes.foldl (fun d type =>
    match txrxCb with
    | none => spiDisableCallback d type
    | some _ => spiEnableCallback (spiRegisterCallback d type) type) d

/-- `hal_spi_set_txrx_cb` behind the resolution of the port. -/
def setTxrxCbPort (txrxCb arg : Option Nat) (p : Port) : Except Fault (Int × Port) :=
  if p.hal.xfer then .ok (eacces, p)
  else
    .ok (0, { hal := { p.hal with txrxCb := txrxCb, txrxCbArg := arg },
              driver := setCallbacks txrxCb p.driver })

/-- The arguments of `hal_spi_txrx`, and what a blocking transfer meets. -/
structure Txrx where
  txbuf : Option (List UInt8)
  /-- `rxbuf` is not NULL. -/
  rxbuf : Bool
  len : Int
  /-- The interrupts that come while a blocking transfer waits. -/
  irqs : List Irq
  /-- The status a blocking transfer ends with; `none` is an access through a NULL buffer. -/
  wait : Option Status
deriving DecidableEq

/-- `samd21_hal_spi_txrx_blocking`. -/
def samd21HalSpiTxrxBlocking (x : Txrx) (p : Port) : Except Fault (Int × Port) :=
  let p := p.setXfer true
  match spiTransceiveBufferWaitCheck p.driver (.ofNat x.len.toNat) with
  | some status => .ok (samd21HalSpiRcFromStatus status, p.setXfer false)
  | none =>
      match interrupts p x.irqs, x.wait with
      | .error fault, _ => .error fault
      | .ok _, none => .error .null
      | .ok p, some status => .ok (samd21HalSpiRcFromStatus status, p.setXfer false)

/-- `samd21_hal_spi_txrx_nonblocking`. -/
def samd21HalSpiTxrxNonblocking (x : Txrx) (p : Port) : Int × Port :=
  let p := p.setXfer true
  let (status, d) := spiTransceiveBufferJob p.driver x.txbuf x.rxbuf (.ofNat x.len.toNat)
  (samd21HalSpiRcFromStatus status, { p with driver := d })

/-- `hal_spi_txrx` behind the resolution of the port. -/
def txrxPort (x : Txrx) (p : Port) : Except Fault (Int × Port) :=
  if x.len ≤ 0 ∨ x.len > 65535 then .ok (einval, p)
  else if p.hal.xfer then .ok (ealready, p)
  else if p.hal.master = true ∧ x.txbuf = none then .ok (einval, p)
  else if p.hal.master = false ∧ x.txbuf = none ∧ x.rxbuf = false then .ok (einval, p)
  else if p.hal.txrxCb = none then samd21HalSpiTxrxBlocking x p
  else .ok (samd21HalSpiTxrxNonblocking x p)

/-- `hal_spi_abort` behind the resolution of the port. -/
def abortPort (p : Port) : Except Fault (Int × Port) :=
  (spiAbortJob p.driver).map fun d => (0, { hal := { p.hal with xfer := false }, driver := d })

/-- A call with its arguments. -/
inductive Call where
  | init (cfg : Option Nat) (spiType : SpiType)
  | config (settings : Option HalSpiSettings)
  | enable
  | disable
  | setTxrxCb (txrxCb arg : Option Nat)
  | txrx (x : Txrx)
  | abort
deriving DecidableEq

/-- A call on a port it has found. -/
def callPort : Call → Port → Except Fault (Int × Port)
  | .init none _ => fun p => .ok (einval, p)
  | .init (some cfg) spiType => initPort cfg spiType
  | .config settings => configPort settings
  | .enable => enablePort
  | .disable => disablePort
  | .setTxrxCb txrxCb arg => setTxrxCbPort txrxCb arg
  | .txrx x => txrxPort x
  | .abort => abortPort

/-- What a call returns and the ports behind it.  `hal_spi_init` looks at `cfg` before it
looks for the port. -/
def call (s : Spis) (spiNum : Int) (c : Call) : Option (Except Fault (Int × Spis)) :=
  match c with
  | .init none _ => some (.ok (einval, s))
  | c => onPort s spiNum (callPort c)

/-- A port after reset. -/
def Port.reset : Port where
  hal := .zero
  driver :=
    { module := .zero
      hw := { enable := false, swrst := false, inten := { dre := false, rxc := false, txc := false },
              handler := false, vectorEnabled := false, gclkHz := 48000000 } }

/-- The ports after reset; `present` tells which of them exist. -/
def Spis.reset (present : Fin spiMax → Bool) : Spis := fun i =>
  if present i then some .reset else none

/-! ## What the handler leaves alone -/

/-- What a handler does to a port: the setup stays, and of the HAL state XFER is cleared at most,
for a callback of the application. -/
structure Handled (p p' : Port) : Prop where
  setup : SameSetup p.driver p'.driver
  hal : p'.hal = p.hal ∨ p.hal.txrxCb ≠ none ∧ p'.hal = { p.hal with xfer := false }

theorem Handled.of_setup {p : Port} {d : Driver} (h : SameSetup p.driver d) :
    Handled p { p with driver := d } := ⟨h, .inl rfl⟩

theorem Handled.refl (p : Port) : Handled p p := .of_setup (.refl _)

theorem Handled.trans {p p' p'' : Port} (h : Handled p p') (h' : Handled p' p'') :
    Handled p p'' where
  setup := h.setup.trans h'.setup
  hal := by
    rcases h.hal with hsame | ⟨hcb, hclear⟩
    · rw [← hsame]
      exact h'.hal
    · refine .inr ⟨hcb, ?_⟩
      rcases h'.hal with hsame' | ⟨-, hclear'⟩
      · exact hsame'.trans hclear
      · rw [hclear', hclear]

theorem Handled.txrxCb {p p' : Port} (h : Handled p p') : p'.hal.txrxCb = p.hal.txrxCb := by
  rcases h.hal with hsame | ⟨-, hclear⟩
  · rw [hsame]
  · rw [hclear]

theorem samd21HalSpiCb_handled {p p' : Port} {cb : Option Nat}
    (h : samd21HalSpiCb p = .ok (cb, p')) : Handled p p' := by
  unfold samd21HalSpiCb at h
  split at h
  · split at h
    · cases h
    · rename_i hcb
      cases h
      exact ⟨.refl _, .inr ⟨by rw [hcb]; exact Option.some_ne_none _, rfl⟩⟩
  · cases h
    exact .refl p

theorem interruptTxc_handled {p p' : Port} {txc : Bool} {phase : Phase}
    (h : interruptTxc p txc = .ok (p', phase)) : Handled p p' := by
  have hsetup := spiTransmitComplete_sameSetup p.driver
  unfold interruptTxc at h
  split at h
  · split at h
    · rename_i hd
      cases h
      rw [hd] at hsetup
      exact .of_setup hsetup
    · rename_i hd
      rw [hd] at hsetup
      split at h
      · cases h
      · rename_i hcall
        cases h
        exact (Handled.of_setup hsetup).trans (samd21HalSpiCb_handled hcall)
      · rename_i hcall
        cases h
        exact (Handled.of_setup hsetup).trans (samd21HalSpiCb_handled hcall)
  · cases h
    exact .refl p

theorem interruptRxc_handled {p p' : Port} {rxc txc : Bool} {irq : Irq} {phase : Phase}
    (h : interruptRxc p rxc txc irq = .ok (p', phase)) : Handled p p' := by
  have hsetup := spiReceiveComplete_sameSetup p.driver irq.bufovf irq.data
  unfold interruptRxc at h
  split at h
  · split at h
    · rename_i hd
      rw [hd] at hsetup
      exact (Handled.of_setup hsetup).trans (interruptTxc_handled h)
    · rename_i hd
      rw [hd] at hsetup
      split at h
      · cases h
      · rename_i hcall
        exact ((Handled.of_setup hsetup).trans (samd21HalSpiCb_handled hcall)).trans
          (interruptTxc_handled h)
      · rename_i hcall
        cases h
        exact (Handled.of_setup hsetup).trans (samd21HalSpiCb_handled hcall)
  · exact interruptTxc_handled h

theorem interrupt_handled {p p' : Port} {irq : Irq} {phase : Phase}
    (h : interrupt p irq = .ok (p', phase)) : Handled p p' := by
  unfold interrupt at h
  dsimp only at h
  split at h
  · split at h
    · cases h
    · rename_i hd
      exact (Handled.of_setup (spiDataRegisterEmpty_sameSetup hd)).trans (interruptRxc_handled h)
  · exact interruptRxc_handled h

theorem interrupts_handled : ∀ {irqs : List Irq} {p p' : Port},
    interrupts p irqs = .ok p' → Handled p p'
  | [], p, p', h => by
      cases h
      exact .refl p
  | irq :: irqs, p, p', h => by
      unfold interrupts at h
      split at h
      · cases h
      · rename_i hirq
        exact (interrupt_handled hirq).trans (interrupts_handled h)

end HalSpi
