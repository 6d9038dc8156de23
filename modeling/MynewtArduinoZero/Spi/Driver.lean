import Mathlib.Data.UInt
import Mathlib.Logic.Function.Basic

/-!
# The SPI driver

`spi.c` and `spi_interrupt.c`: a software module on top of a SERCOM, with jobs
that an interrupt handler carries out.

The interrupt handler is cut where it calls a callback, which may use the driver
again: `spiDataRegisterEmpty` and `spiReceiveComplete` come before the first call,
`spiTransmitComplete` behind it.  No code enables the slave-select and
combined-error interrupts; the branches for them are left out, and so are the
pins and the format bits of CTRLA and CTRLB.
-/

namespace HalSpi

/-! ## The data -/

/-- The members of `enum status_code` in use here. -/
inductive Status where
  | ok | aborted | busy | errTimeout | errInvalidArg | errDenied | errOverflow
  | errBaudrateUnavailable
deriving DecidableEq

/-- `enum spi_mode`. -/
inductive Mode where
  | slave | master
deriving DecidableEq

/-- `enum _spi_direction`. -/
inductive Direction where
  | read | write | both | idle
deriving DecidableEq

/-- `enum spi_character_size`. -/
inductive CharacterSize where
  | bits8 | bits9
deriving DecidableEq

/-- `enum spi_callback`. -/
inductive SpiCallback where
  | bufferTransmitted | bufferReceived | bufferTransceived | error
  | slaveTransmissionComplete | slaveSelectLow | combinedError
deriving DecidableEq

/-- `SPI_DUMMY_NONE`. -/
def dummyNone : UInt16 := 0xffff

/-- `SERCOM_SPI_DATA_MASK`. -/
def dataMask : UInt16 := 0x1ff

/-- `struct spi_module`.  Only `samd21_hal_spi_cb` is ever registered, so `callback` is told by
`registered_callback`. -/
structure SpiModule where
  /-- `hw` is not NULL. -/
  hw : Bool
  mode : Mode
  characterSize : CharacterSize
  receiverEnabled : Bool
  dir : Direction
  /-- The bytes stored in front of `rx_buffer_ptr`, or `none` where it is NULL. -/
  rxBufferPtr : Option (List UInt8)
  /-- The bytes from `tx_buffer_ptr` on, or `none` where it is NULL. -/
  txBufferPtr : Option (List UInt8)
  dummy : UInt16
  totalLength : UInt16
  remainingTxLength : UInt16
  remainingRxLength : UInt16
  registeredCallback : SpiCallback → Bool
  enabledCallback : SpiCallback → Bool
  status : Status

/-- The enabled interrupts. -/
structure Inten where
  dre : Bool
  rxc : Bool
  txc : Bool
deriving DecidableEq

/-- A SERCOM. -/
structure Sercom where
  /-- CTRLA.ENABLE. -/
  enable : Bool
  /-- CTRLA.SWRST. -/
  swrst : Bool
  inten : Inten
  /-- `_spi_interrupt_handler` is its handler. -/
  handler : Bool
  /-- Its interrupt is enabled in the NVIC. -/
  vectorEnabled : Bool
  /-- The frequency of its clock channel. -/
  gclkHz : Nat
deriving DecidableEq

/-- A module with its SERCOM. -/
structure Driver where
  module : SpiModule
  hw : Sercom

/-- What goes wrong where a call does not return. -/
inductive Fault where
  /-- A read or a write outside an array. -/
  | outOfBounds
  /-- An access through NULL. -/
  | null
  /-- A loop that does not end. -/
  | hang
  /-- A failed assertion. -/
  | assertion
deriving DecidableEq

namespace SpiModule

/-- A module filled with zeros. -/
def zero : SpiModule where
  hw := false
  mode := .slave
  characterSize := .bits8
  receiverEnabled := false
  dir := .read
  rxBufferPtr := none
  txBufferPtr := none
  dummy := 0
  totalLength := 0
  remainingTxLength := 0
  remainingRxLength := 0
  registeredCallback := fun _ => false
  enabledCallback := fun _ => false
  status := .ok

/-- `spi_xfer_count`. -/
def xferCount (m : SpiModule) : UInt16 := m.totalLength - m.remainingRxLength

/-- `spi_call_cb` calls the function that is registered. -/
def callsCb (m : SpiModule) (type : SpiCallback) : Bool :=
  m.enabledCallback type && m.registeredCallback type

end SpiModule

/-! ## Configuration -/

/-- `_sercom_get_sync_baud_val`. -/
def sercomGetSyncBaudVal (baudrate externalClock : Nat) : Except Fault Status :=
  if baudrate > externalClock / 2 then .ok .errBaudrateUnavailable
  else if baudrate = 0 then .error .hang
  else if (externalClock / 2 / baudrate + 65535) % 65536 > 0xff then .ok .errBaudrateUnavailable
  else .ok .ok

/-- `struct spi_config`, as `samd21_spi_config` fills it. -/
structure SpiConfig where
  mode : Mode
  characterSize : CharacterSize
  receiverEnable : Bool
  /-- `mode_specific.master.baudrate`. -/
  baudrate : Nat
deriving DecidableEq

/-- `_spi_set_config`. -/
def spiSetConfig (d : Driver) (config : SpiConfig) : Except Fault (Status × Driver) :=
  let d := { d with module := { d.module with
    mode := config.mode
    characterSize := config.characterSize
    receiverEnabled := config.receiverEnable } }
  match config.mode with
  | .slave => .ok (.ok, d)
  | .master =>
      match sercomGetSyncBaudVal config.baudrate d.hw.gclkHz with
      | .error fault => .error fault
      | .ok .ok => .ok (.ok, d)
      | .ok _ => .ok (.errInvalidArg, d)

/-- The part of `spi_init` that resets the module. -/
def spiResetModule (d : Driver) : Driver :=
  { module := { d.module with
      txBufferPtr := none
      rxBufferPtr := none
      dummy := dummyNone
      totalLength := 0
      remainingRxLength := 0
      remainingTxLength := 0
      registeredCallback := fun _ => false
      enabledCallback := fun _ => false
      status := .ok
      dir := .idle }
    hw := { d.hw with handler := true } }

/-- `spi_init`. -/
def spiInit (d : Driver) (config : SpiConfig) : Except Fault (Status × Driver) :=
  if d.module.hw = false then .error .null
  else if d.hw.enable then .ok (.errDenied, d)
  else if d.hw.swrst then .ok (.busy, d)
  else spiSetConfig (spiResetModule d) config

/-- `spi_enable`. -/
def spiEnable (d : Driver) : Except Fault Driver :=
  if d.module.hw = false then .error .null
  else .ok { d with hw := { d.hw with vectorEnabled := true, enable := true } }

/-- `spi_disable`. -/
def spiDisable (d : Driver) : Except Fault Driver :=
  if d.module.hw = false then .error .null
  else .ok { d with hw := { d.hw with vectorEnabled := false, enable := false } }

/-- `spi_register_callback`. -/
def spiRegisterCallback (d : Driver) (type : SpiCallback) : Driver :=
  { d with module := { d.module with
      registeredCallback := Function.update d.module.registeredCallback type true } }

/-- `spi_enable_callback`. -/
def spiEnableCallback (d : Driver) (type : SpiCallback) : Driver :=
  { d with module := { d.module with
      enabledCallback := Function.update d.module.enabledCallback type true } }

/-- `spi_disable_callback`. -/
def spiDisableCallback (d : Driver) (type : SpiCallback) : Driver :=
  { d with module := { d.module with
      enabledCallback := Function.update d.module.enabledCallback type false } }

/-! ## Jobs -/

/-- `spi_disable_ints`: with a dummy character DRE stays enabled. -/
def spiDisableInts (d : Driver) (flags : Inten) : Driver :=
  let dre := flags.dre && d.module.dummy = dummyNone
  { d with hw := { d.hw with inten :=
      { dre := d.hw.inten.dre && !dre
        rxc := d.hw.inten.rxc && !flags.rxc
        txc := d.hw.inten.txc && !flags.txc } } }

/-- `_spi_transceive_buffer`. -/
def spiTransceiveBuffer (d : Driver) (txData : Option (List UInt8)) (rxData : Bool)
    (length : UInt16) : Driver :=
  { module := { d.module with
      totalLength := length
      rxBufferPtr := if rxData then some [] else none
      txBufferPtr := txData
      status := .busy
      remainingRxLength := if rxData then length else 0
      remainingTxLength := if txData.isSome then length else 0
      dir := .both }
    hw := { d.hw with inten :=
      { dre := true
        rxc := true
        txc := d.hw.inten.txc || d.module.mode = .slave } } }

/-- `spi_transceive_buffer_job`. -/
def spiTransceiveBufferJob (d : Driver) (txData : Option (List UInt8)) (rxData : Bool)
    (length : UInt16) : Status × Driver :=
  if length = 0 then (.errInvalidArg, d)
  else if d.module.receiverEnabled = false then (.errDenied, d)
  else if d.module.status = .busy then (.busy, d)
  else (.ok, spiTransceiveBuffer d txData rxData length)

/-- `spi_abort_job`. -/
def spiAbortJob (d : Driver) : Except Fault Driver :=
  if d.module.hw = false then .error .null
  else
    let d := spiDisableInts d { dre := true, rxc := true, txc := true }
    .ok { d with module := { d.module with
      status := .aborted
      remainingTxLength := 0
      remainingRxLength := 0
      dir := .idle } }

/-- The front of `spi_transceive_buffer_wait`, which returns without touching the bus. -/
def spiTransceiveBufferWaitCheck (d : Driver) (length : UInt16) : Option Status :=
  if d.module.status = .busy then some .busy
  else if length = 0 then some .errInvalidArg
  else if d.module.receiverEnabled = false then some .errDenied
  else none

/-! ## The interrupt handler -/

/-- `_spi_write`: whether it is done, the character written to DATA, and the driver. -/
def spiWrite (d : Driver) : Except Fault (Bool × UInt16 × Driver) :=
  let m := d.module
  match m.txBufferPtr, m.characterSize with
  | none, _ => .ok (false, m.dummy &&& dataMask, d)
  | some (b :: bytes), .bits8 =>
      let m := { m with
        txBufferPtr := some bytes
        remainingTxLength := m.remainingTxLength - 1 }
      .ok (m.remainingTxLength == 0, b.toUInt16 &&& dataMask, { d with module := m })
  | some (b :: b' :: bytes), .bits9 =>
      let m := { m with
        txBufferPtr := some bytes
        remainingTxLength := m.remainingTxLength - 1 }
      let dataToSend := (b.toUInt16 ||| (b'.toUInt16 <<< (8 : UInt16))) &&& dataMask
      .ok (m.remainingTxLength == 0, dataToSend, { d with module := m })
  | some _, _ => .error .outOfBounds

/-- The bytes of a character in a buffer. -/
def charBytes : CharacterSize → UInt16 → List UInt8
  | .bits8, c => [c.toUInt8]
  | .bits9, c => [c.toUInt8, (c >>> 8).toUInt8]

/-- `_spi_read` with the character read from DATA: whether it is done, and the driver. -/
def spiRead (d : Driver) (data : UInt16) : Bool × Driver :=
  let m := d.module
  match m.rxBufferPtr with
  | none => (false, d)
  | some bytes =>
      let m := { m with
        rxBufferPtr := some (bytes ++ charBytes m.characterSize (data &&& dataMask))
        remainingRxLength := m.remainingRxLength - 1 }
      (m.remainingRxLength == 0, { d with module := m })

/-- The data-register-empty part of `_spi_interrupt_handler`: the character written to DATA, if
any. -/
def spiDataRegisterEmpty (d : Driver) : Except Fault (Option UInt16 × Driver) :=
  if d.module.mode = .slave ∧ d.module.dir = .read then .ok (none, d)
  else
    match spiWrite d with
    | .error fault => .error fault
    | .ok (done, c, d) =>
        if done then
          let d := spiDisableInts d { dre := true, rxc := false, txc := false }
          if d.module.dir = .write ∧ d.module.receiverEnabled = false then
            .ok (some c, { d with hw := { d.hw with inten := { d.hw.inten with txc := true } } })
          else .ok (some c, d)
        else .ok (some c, d)

/-- The callback type if `spi_call_cb` calls it. -/
def spiCallCb (d : Driver) (type : SpiCallback) : Option SpiCallback :=
  if d.module.callsCb type then some type else none

/-- The receive-complete part of `_spi_interrupt_handler`, up to its callback: STATUS.BUFOVF and
DATA are read here. -/
def spiReceiveComplete (d : Driver) (bufovf : Bool) (data : UInt16) :
    Option SpiCallback × Driver :=
  if bufovf then
    if d.module.dir ≠ .write then
      let d := { d with module := { d.module with status := .errOverflow, dir := .idle } }
      let d := spiDisableInts d { dre := true, rxc := true, txc := false }
      (spiCallCb d .error, d)
    else (none, d)
  else
    let (done, d) := spiRead d data
    if done then
      if d.module.dir = .write then
        let d := spiDisableInts d { dre := false, rxc := true, txc := false }
        let d := { d with module := { d.module with status := .ok, dir := .idle } }
        (spiCallCb d .bufferTransmitted, d)
      else
        let d := { d with module := { d.module with status := .ok } }
        let d := spiDisableInts d { dre := false, rxc := true, txc := false }
        match d.module.dir with
        | .both => (spiCallCb d .bufferTransceived, d)
        | .read => (spiCallCb d .bufferReceived, d)
        | _ => (none, d)
    else (none, d)

/-- The transmit-complete part of `_spi_interrupt_handler`, up to its callback. -/
def spiTransmitComplete (d : Driver) : Option SpiCallback × Driver :=
  match d.module.mode with
  | .slave =>
      let d := spiDisableInts d { dre := true, rxc := true, txc := true }
      let d := { d with module := { d.module with
        dir := .idle
        remainingTxLength := 0
        remainingRxLength := 0
        status := .ok } }
      (spiCallCb d .slaveTransmissionComplete, d)
  | .master =>
      if d.module.dir = .write ∧ d.module.receiverEnabled = false then
        let d := spiDisableInts d { dre := false, rxc := false, txc := true }
        let d := { d with module := { d.module with dir := .idle, status := .ok } }
        (spiCallCb d .bufferTransmitted, d)
      else (none, d)

/-! ## What the handler leaves alone -/

/-- The configuration of a module and its callback masks are the same. -/
structure SameSetup (d d' : Driver) : Prop where
  hw : d'.module.hw = d.module.hw
  receiverEnabled : d'.module.receiverEnabled = d.module.receiverEnabled
  registeredCallback : d'.module.registeredCallback = d.module.registeredCallback
  enabledCallback : d'.module.enabledCallback = d.module.enabledCallback

theorem SameSetup.refl (d : Driver) : SameSetup d d := ⟨rfl, rfl, rfl, rfl⟩

theorem SameSetup.trans {d d' d'' : Driver} (h : SameSetup d d') (h' : SameSetup d' d'') :
    SameSetup d d'' :=
  ⟨h'.hw.trans h.hw, h'.receiverEnabled.trans h.receiverEnabled,
    h'.registeredCallback.trans h.registeredCallback,
    h'.enabledCallback.trans h.enabledCallback⟩

theorem spiWrite_sameSetup {d d' : Driver} {done : Bool} {c : UInt16}
    (h : spiWrite d = .ok (done, c, d')) : SameSetup d d' := by
  unfold spiWrite at h
  dsimp only at h
  split at h
  · cases h
    exact .refl d
  · cases h
    exact ⟨rfl, rfl, rfl, rfl⟩
  · cases h
    exact ⟨rfl, rfl, rfl, rfl⟩
  · cases h

theorem spiRead_sameSetup (d : Driver) (data : UInt16) : SameSetup d (spiRead d data).2 := by
  unfold spiRead
  dsimp only
  split <;> exact ⟨rfl, rfl, rfl, rfl⟩

theorem spiDataRegisterEmpty_sameSetup {d d' : Driver} {c : Option UInt16}
    (h : spiDataRegisterEmpty d = .ok (c, d')) : SameSetup d d' := by
  unfold spiDataRegisterEmpty at h
  split at h
  · cases h
    exact .refl d
  · split at h
    · cases h
    · rename_i hwrite
      have hsame := spiWrite_sameSetup hwrite
      split at h
      · dsimp only at h
        split at h
        · cases h
          exact hsame.trans ⟨rfl, rfl, rfl, rfl⟩
        · cases h
          exact hsame.trans ⟨rfl, rfl, rfl, rfl⟩
      · cases h
        exact hsame

theorem spiReceiveComplete_sameSetup (d : Driver) (bufovf : Bool) (data : UInt16) :
    SameSetup d (spiReceiveComplete d bufovf data).2 := by
  have hread := spiRead_sameSetup d data
  unfold spiReceiveComplete
  split
  · split <;> exact ⟨rfl, rfl, rfl, rfl⟩
  · dsimp only
    split
    · split
      · exact hread.trans ⟨rfl, rfl, rfl, rfl⟩
      · split <;> exact hread.trans ⟨rfl, rfl, rfl, rfl⟩
    · exact hread

theorem spiTransmitComplete_sameSetup (d : Driver) : SameSetup d (spiTransmitComplete d).2 := by
  unfold spiTransmitComplete
  split
  · exact ⟨rfl, rfl, rfl, rfl⟩
  · dsimp only
    split <;> exact ⟨rfl, rfl, rfl, rfl⟩

end HalSpi
