import MynewtArduinoZero.Uart.HalUart

/-!
# A whole UART port

The rest of `hal_uart.c`: the receiver beside the transmitter, and how a port is
configured and closed.  A character that is received waits in DATA.  The read
jobs have one character, which `usart_callback_rx` passes on before it starts
the next one.

`hal_uart_close` disables the callbacks and the USART.  It leaves `u_open` and
`tx_on` as they are.
-/

namespace HalUart

/-! ## The receiver of the driver -/

/-- The receiver of a SERCOM. -/
structure Receiver where
  /-- The characters in DATA, oldest first. -/
  data : List UInt16
  /-- STATUS.FERR. -/
  ferr : Bool
  /-- STATUS.BUFOVF. -/
  bufovf : Bool
  /-- STATUS.PERR. -/
  perr : Bool
  /-- INTEN.RXC. -/
  intenRxc : Bool
deriving DecidableEq

/-- The values of `rx_status`. -/
inductive RxStatus where
  | ok | busy | errBadFormat | errOverflow | errBadData
deriving DecidableEq

/-- The fields of `struct usart_module` for the receiver.  Of its callbacks there is
`USART_CALLBACK_BUFFER_RECEIVED`. -/
structure RxModule where
  hw : Receiver
  receiverEnabled : Bool
  /-- `rx_buffer_ptr`, as an offset into the memory of the buffer. -/
  rxBufferPtr : Nat
  remainingRxBufferLength : Nat
  rxStatus : RxStatus
  callbackReg : Bool
  callbackEnable : Bool
  /-- The jobs that were accepted.  For the statements only. -/
  jobs : Nat

namespace Receiver

/-- After a reset. -/
def reset : Receiver := ⟨[], false, false, false, false⟩

/-- INTFLAG.RXC. -/
def rxc (hw : Receiver) : Bool := !hw.data.isEmpty

/-- A character arrives; DATA has room for two. -/
def arrive (hw : Receiver) (c : UInt16) (ferr perr : Bool) : Receiver :=
  if hw.data.length < 2 then
    { hw with data := hw.data ++ [c], ferr := hw.ferr || ferr, perr := hw.perr || perr }
  else { hw with bufovf := true }

/-- A write of STATUS with what was read from it clears every flag that is set. -/
def clearStatus (hw : Receiver) : Receiver :=
  { hw with ferr := false, bufovf := false, perr := false }

/-- The error that `_usart_interrupt_handler` finds in STATUS.  ISF and COLL are never set here. -/
def errorStatus (hw : Receiver) : Option RxStatus :=
  if hw.ferr then some .errBadFormat
  else if hw.bufovf then some .errOverflow
  else if hw.perr then some .errBadData
  else none

end Receiver

namespace RxModule

/-- `usart_read_job`, for a buffer that `rx_data` points at. -/
def usartReadJob (m : RxModule) : Status × RxModule :=
  if 0 < m.remainingRxBufferLength then (.busy, m)
  else
    (.ok,
      { m with
        remainingRxBufferLength := 1
        rxBufferPtr := 0
        rxStatus := .busy
        hw := { m.hw with intenRxc := true }
        jobs := m.jobs + 1 })

end RxModule

/-- A transmitter behind `usart_init`, with the callback that `hal_uart_config` registers and
enables. -/
def UsartModule.configured (m : UsartModule) (characterSize : CharacterSize) : UsartModule :=
  { m with
    characterSize := characterSize
    transmitterEnabled := true
    txBufferPtr := 0
    remainingTxBufferLength := 0
    txStatus := .ok
    callbackReg := true
    callbackEnable := true }

/-- A receiver behind `usart_init`, with its callback. -/
def RxModule.configured (m : RxModule) : RxModule :=
  { m with
    receiverEnabled := true
    rxBufferPtr := 0
    remainingRxBufferLength := 0
    rxStatus := .ok
    callbackReg := true
    callbackEnable := true }

/-! ## The port -/

/-- `struct hal_uart`. -/
structure Duplex (σ : Type*) where
  /-- The transmitter, the callbacks that send, and `u_func_arg`. -/
  port : Port σ
  rx : RxModule
  /-- The memory from `rxdata` on. -/
  rxdata : Nat → UInt8
  /-- `u_rx_func`, or `none` where it is NULL. -/
  uRxFunc : Option (σ → UInt8 → σ)
  /-- `u_cfg` is not NULL. -/
  uCfg : Bool
  /-- `hw` of the module is not NULL. -/
  hw : Bool
  /-- CTRLA.ENABLE. -/
  enabled : Bool
  /-- The interrupt of the SERCOM is enabled in the NVIC. -/
  nvic : Bool

/-- `enum hal_uart_parity`. -/
inductive Parity where
  | none | odd | even
  /-- Any other number. -/
  | other
deriving DecidableEq

/-- `enum hal_uart_flow_ctl`. -/
inductive FlowCtl where
  | none | rtsCts
  /-- Any other number. -/
  | other
deriving DecidableEq

/-- The arguments of `hal_uart_config`.  The baud rate goes to `usart_init`. -/
structure Config where
  databits : UInt8
  stopbits : UInt8
  parity : Parity
  flowCtl : FlowCtl
deriving DecidableEq

/-- The arguments beside `databits` that `hal_uart_config` knows. -/
def Config.valid (c : Config) : Bool :=
  decide (c.parity ≠ .other ∧ (c.stopbits = 1 ∨ c.stopbits = 2) ∧ c.flowCtl ≠ .other)

/-- How `usart_init` ends. -/
inductive UsartInit where
  /-- The USART is still enabled or in reset. -/
  | refused
  /-- There is no divider for the baud rate. -/
  | baudUnavailable
  | ok
deriving DecidableEq

namespace Duplex

variable {σ : Type*}

/-- A port in `.bss`. -/
def zero (uFuncArg : σ) : Duplex σ where
  port := .zero uFuncArg
  rx :=
    { hw := .reset
      receiverEnabled := false
      rxBufferPtr := 0
      remainingRxBufferLength := 0
      rxStatus := .ok
      callbackReg := false
      callbackEnable := false
      jobs := 0 }
  rxdata := fun _ => 0
  uRxFunc := none
  uCfg := false
  hw := false
  enabled := false
  nvic := false

/-- `hal_uart_init`, with a configuration or NULL. -/
def halUartInit (u : Duplex σ) (cfg : Bool) : Int × Duplex σ := (0, { u with uCfg := cfg })

/-- `hal_uart_init_cbs`. -/
def halUartInitCbs (u : Duplex σ) (txFunc : Option (σ → Int × σ)) (txDone : Option (σ → σ))
    (rxFunc : Option (σ → UInt8 → σ)) (arg : σ) : Int × Duplex σ :=
  if u.port.uOpen then (-1, u)
  else
    (0, { u with
      port := { u.port with uTxFunc := txFunc, uTxDone := txDone, uFuncArg := arg }
      uRxFunc := rxFunc })

/-- `hal_uart_start_rx`. -/
def halUartStartRx (u : Duplex σ) : Duplex σ :=
  if u.port.uOpen then { u with rx := u.rx.usartReadJob.2 } else u

/-- `hal_uart_start_tx`. -/
def halUartStartTx (u : Duplex σ) : Duplex σ := { u with port := u.port.halUartStartTx }

/-- The arguments that `hal_uart_config` knows. -/
def knownConfig (c : Config) : Option CharacterSize :=
  match Port.characterSizeOf c.databits with
  | none => none
  | some characterSize =>
      if c.valid then some characterSize else none

/-- `hal_uart_config` resets the USART. -/
def softwareReset (u : Duplex σ) : Duplex σ :=
  { u with
    port := { u.port with
      inst := { u.port.inst with hw := ⟨none, none, false, false, false, u.port.inst.hw.sent⟩ } }
    rx := { u.rx with hw := .reset }
    enabled := false }

/-- `hal_uart_config`, with how its `usart_init` ends. -/
def halUartConfig (u : Duplex σ) (c : Config) (init : UsartInit) : Int × Duplex σ :=
  if u.port.uOpen then (-1, u)
  else if !u.uCfg then (-1, u)
  else
    match knownConfig c with
    | none => (-1, u)
    | some characterSize =>
        let u := { u.softwareReset with hw := true }
        match init with
        | .refused => (-1, u)
        | .baudUnavailable =>
            (-1, { u with
              port := { u.port with
                inst := { u.port.inst with
                  characterSize := characterSize
                  transmitterEnabled := true } }
              rx := { u.rx with receiverEnabled := true } })
        | .ok =>
            (0, { u with
              port := { u.port with inst := u.port.inst.configured characterSize, uOpen := true }
              rx := u.rx.configured
              enabled := true
              nvic := true }.halUartStartRx)

/-- `hal_uart_close`, or `none` where `usart_disable` uses a NULL `hw`. -/
def halUartClose (u : Duplex σ) : Option (Duplex σ) :=
  if u.hw then
    some
      { u with
        port := { u.port with inst := u.port.inst.usartDisableCallback }
        rx := { u.rx with callbackEnable := false }
        enabled := false
        nvic := false }
  else none

/-! ## Interrupts -/

/-- `usart_callback_rx`. -/
def usartCallbackRx (u : Duplex σ) : Duplex σ :=
  if u.port.uOpen then
    let arg :=
      match u.uRxFunc with
      | some uRxFunc => uRxFunc u.port.uFuncArg (u.rxdata 0)
      | none => u.port.uFuncArg
    { u with port := { u.port with uFuncArg := arg }, rx := u.rx.usartReadJob.2 }
  else u

/-- A character from DATA in the buffer. -/
def store (u : Duplex σ) (c : UInt16) : Nat → UInt8 :=
  let low := Function.update u.rxdata u.rx.rxBufferPtr c.toUInt8
  if u.port.inst.characterSize = .bits9 then
    Function.update low (u.rx.rxBufferPtr + 1) (c >>> 8).toUInt8
  else low

/-- The part of `_usart_interrupt_handler` for RXC.  `called` says that the callback was registered
and enabled when the handler was entered. -/
def receiveComplete (u : Duplex σ) (called : Bool) : Duplex σ :=
  if 0 < u.rx.remainingRxBufferLength then
    match u.rx.hw.errorStatus with
    | some status => { u with rx := { u.rx with rxStatus := status, hw := u.rx.hw.clearStatus } }
    | none =>
        let c := (u.rx.hw.data.headD 0) &&& dataMask
        let taken := { u with
          rxdata := u.store c
          rx := { u.rx with
            hw := { u.rx.hw with data := u.rx.hw.data.tail }
            rxBufferPtr := u.rx.rxBufferPtr + u.port.inst.width
            remainingRxBufferLength := u.rx.remainingRxBufferLength - 1 } }
        if u.rx.remainingRxBufferLength = 1 then
          let done := { taken with
            rx := { taken.rx with
              hw := { taken.rx.hw with intenRxc := false }
              rxStatus := .ok } }
          if called then done.usartCallbackRx else done
        else taken
  else { u with rx := { u.rx with hw := { u.rx.hw with intenRxc := false } } }

/-- `_usart_interrupt_handler`, or `none` where it jumps through NULL. -/
def usartInterruptHandler (u : Duplex σ) : Option (Duplex σ) :=
  let rxc := u.rx.hw.rxc && u.rx.hw.intenRxc
  let called := u.rx.callbackReg && u.rx.callbackEnable
  u.port.usartInterruptHandler.map fun port =>
    let u := { u with port := port }
    if rxc then u.receiveComplete called else u

/-! ## The transmitter alone -/

/-- What the receiver's part of the interrupt may do with a port: `u_rx_func` gets a character, or
nothing. -/
inductive Received (uRxFunc : Option (σ → UInt8 → σ)) (u : Port σ) : Port σ → Prop where
  | kept : Received uRxFunc u u
  | passed (f : σ → UInt8 → σ) (c : UInt8) (h : uRxFunc = some f) :
      Received uRxFunc u { u with uFuncArg := f u.uFuncArg c }

theorem usartCallbackRx_port {u v : Duplex σ} (hport : v.port = u.port)
    (hrx : v.uRxFunc = u.uRxFunc) : Received u.uRxFunc u.port v.usartCallbackRx.port := by
  rw [← hport, ← hrx, usartCallbackRx]
  split
  · cases v.uRxFunc with
    | none => exact .kept
    | some f => exact .passed f _ rfl
  · exact .kept

theorem receiveComplete_port (u : Duplex σ) (called : Bool) :
    Received u.uRxFunc u.port (u.receiveComplete called).port := by
  rw [receiveComplete]
  split
  · split
    · exact .kept
    · split
      · split
        · exact usartCallbackRx_port (u := u) rfl rfl
        · exact .kept
      · exact .kept
  · exact .kept

/-- The handler of a whole port does with the transmitter what the handler of the transmitter
alone does, and then the receiver's part comes. -/
theorem usartInterruptHandler_port (u : Duplex σ) :
    (u.usartInterruptHandler = none ∧ u.port.usartInterruptHandler = none) ∨
      ∃ v port, u.usartInterruptHandler = some v ∧ u.port.usartInterruptHandler = some port ∧
        Received u.uRxFunc port v.port := by
  rw [usartInterruptHandler]
  cases u.port.usartInterruptHandler with
  | none => exact .inl ⟨rfl, rfl⟩
  | some port =>
      refine .inr ⟨_, port, rfl, rfl, ?_⟩
      split
      · exact receiveComplete_port { u with port := port } _
      · exact .kept

theorem halUartInitCbs_port (u : Duplex σ) (txFunc : Option (σ → Int × σ)) (txDone : Option (σ → σ))
    (rxFunc : Option (σ → UInt8 → σ)) (arg : σ) :
    (u.halUartInitCbs txFunc txDone rxFunc arg).map id Duplex.port =
      u.port.halUartInitCbs txFunc txDone arg := by
  rw [halUartInitCbs, Port.halUartInitCbs]
  split <;> rfl

/-- A port that has not sent yet is opened as its transmitter alone is. -/
theorem halUartConfig_port {u : Duplex σ} (c : Config) (hcfg : u.uCfg = true)
    (hsent : u.port.inst.hw.sent = []) (hjobs : u.port.inst.jobs = []) :
    (u.halUartConfig c .ok).map id Duplex.port = u.port.halUartConfig c.databits c.valid true := by
  rw [halUartConfig, Port.halUartConfig, knownConfig, hcfg]
  by_cases hopen : u.port.uOpen = true
  · rw [if_pos hopen, if_pos hopen]
    rfl
  · rw [if_neg hopen, if_neg hopen]
    cases Port.characterSizeOf c.databits with
    | none => rfl
    | some characterSize =>
        cases c.valid with
        | false => rfl
        | true =>
            simp [softwareReset, UsartModule.configured, halUartStartRx, hsent, hjobs]

end Duplex

end HalUart
