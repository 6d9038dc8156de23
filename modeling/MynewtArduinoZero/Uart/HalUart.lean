import MynewtArduinoZero.Uart.Usart
import Mathlib.Logic.Function.Basic

/-!
# The HAL UART

`hal_uart.c`, the side that transmits.  `u_tx_func` is asked for the bytes to
send, up to `TX_BUFFER_SIZE` at a time, which are staged in `txdata` and given
to the driver as one write job.  The callback at the job's end stages the next
bytes, and clears `tx_on` when there are none.
-/

namespace HalUart

open Cells

/-- `TX_BUFFER_SIZE`. -/
def txBufferSize : Nat := 8

/-- `struct hal_uart`, without its receiver.  `σ` is what `u_func_arg` points at. -/
structure Port (σ : Type*) where
  /-- `instance`. -/
  inst : UsartModule
  uOpen : Bool
  txOn : Bool
  /-- The memory from `txdata` on: `TX_BUFFER_SIZE` bytes, and the fields behind them. -/
  txdata : Nat → UInt8
  /-- `u_tx_func`, or `none` where it is NULL. -/
  uTxFunc : Option (σ → Int × σ)
  /-- `u_tx_done`, or `none` where it is NULL. -/
  uTxDone : Option (σ → σ)
  /-- What `u_func_arg` points at. -/
  uFuncArg : σ

namespace Port

variable {σ : Type*}

/-- The loop of `fill_tx_buf` from index `i` on, with `n` turns to go. -/
def fillTxBufFrom (uTxFunc : σ → Int × σ) : (n i : Nat) → Port σ → Nat × Port σ
  | 0, i, u => (i, u)
  | n + 1, i, u =>
      let (val, arg) := uTxFunc u.uFuncArg
      if val < 0 then (i, { u with uFuncArg := arg })
      else
        fillTxBufFrom uTxFunc n (i + 1)
          { u with uFuncArg := arg, txdata := Function.update u.txdata i (UInt8.ofInt val) }

/-- `fill_tx_buf`, or `none` where it jumps through NULL. -/
def fillTxBuf (u : Port σ) : Option (Nat × Port σ) :=
  u.uTxFunc.map fun uTxFunc => fillTxBufFrom uTxFunc txBufferSize 0 u

/-- `tx_on` is set and what was staged becomes a write job. -/
def writeStaged (u : Port σ) (sz : Nat) : Port σ :=
  { u with txOn := true, inst := (u.inst.usartWriteBufferJob u.txdata 0 sz).2 }

/-- `usart_callback_txdone`. -/
def usartCallbackTxdone (u : Port σ) : Option (Port σ) :=
  if u.uOpen then
    u.fillTxBuf.map fun (sz, u) =>
      if 0 < sz then u.writeStaged sz
      else
        { u with
          txOn := false
          uFuncArg := (u.uTxDone.map fun uTxDone => uTxDone u.uFuncArg).getD u.uFuncArg }
  else some u

/-- `hal_uart_start_tx`, which is called with interrupts masked. -/
def halUartStartTx (u : Port σ) : Port σ :=
  if u.uOpen && !u.txOn then
    match u.fillTxBuf with
    | some (sz, u) => if 0 < sz then u.writeStaged sz else u
    | none => u
  else u

/-- The part of `_usart_interrupt_handler` for TXC. -/
def transmitComplete (u : Port σ) (called : Bool) : Option (Port σ) :=
  let u := { u with
    inst := { u.inst with hw := { u.inst.hw with intenTxc := false }, txStatus := .ok } }
  if called then u.usartCallbackTxdone else some u

/-- `_usart_interrupt_handler`, or `none` where it jumps through NULL. -/
def usartInterruptHandler (u : Port σ) : Option (Port σ) :=
  let dre := u.inst.hw.dre && u.inst.hw.intenDre
  let txc := u.inst.hw.txc && u.inst.hw.intenTxc
  let called := u.inst.callbackReg && u.inst.callbackEnable
  let u := if dre then { u with inst := u.inst.dataRegisterEmpty u.txdata } else u
  if txc then u.transmitComplete called else some u

/-! ## Opening a port -/

/-- A port in `.bss`, with what `u_func_arg` will point at. -/
def zero (uFuncArg : σ) : Port σ where
  inst :=
    { hw := ⟨none, none, false, false, false, []⟩
      characterSize := .bits5
      transmitterEnabled := false
      txBufferPtr := 0
      remainingTxBufferLength := 0
      txStatus := .ok
      callbackReg := false
      callbackEnable := false
      jobs := [] }
  uOpen := false
  txOn := false
  txdata := fun _ => 0
  uTxFunc := none
  uTxDone := none
  uFuncArg := uFuncArg

/-- `hal_uart_init_cbs`. -/
def halUartInitCbs (u : Port σ) (txFunc : Option (σ → Int × σ)) (txDone : Option (σ → σ))
    (arg : σ) : Int × Port σ :=
  if u.uOpen then (-1, u)
  else (0, { u with uTxFunc := txFunc, uTxDone := txDone, uFuncArg := arg })

/-- The character size for `databits`. -/
def characterSizeOf (databits : UInt8) : Option CharacterSize :=
  match databits.toNat with
  | 5 => some .bits5
  | 6 => some .bits6
  | 7 => some .bits7
  | 8 => some .bits8
  | 9 => some .bits9
  | _ => none

/-- `hal_uart_config` with a configuration for the port.  `valid` says that `stopbits`, `parity`
and `flow_ctl` are among the values it knows, and `init` that `usart_init` returns `STATUS_OK`. -/
def halUartConfig (u : Port σ) (databits : UInt8) (valid init : Bool) : Int × Port σ :=
  if u.uOpen then (-1, u)
  else
    match characterSizeOf databits with
    | none => (-1, u)
    | some characterSize =>
        -- what a failed `usart_init` leaves behind is set again by the next call
        if valid && init then
          (0, { u with
            inst :=
              { hw := ⟨none, none, false, false, false, []⟩
                characterSize := characterSize
                transmitterEnabled := true
                txBufferPtr := 0
                remainingTxBufferLength := 0
                txStatus := .ok
                callbackReg := true
                callbackEnable := true
                jobs := [] }
            uOpen := true })
        else (-1, u)

/-! ## What `fill_tx_buf` pulls -/

/-- The bytes that `n` calls of `u_tx_func` give, up to the first negative value. -/
def pull (uTxFunc : σ → Int × σ) : (n : Nat) → σ → List UInt8 × σ
  | 0, arg => ([], arg)
  | n + 1, arg =>
      let (val, arg) := uTxFunc arg
      if val < 0 then ([], arg)
      else
        let (bytes, arg) := pull uTxFunc n arg
        (UInt8.ofInt val :: bytes, arg)

theorem length_pull_le (uTxFunc : σ → Int × σ) (n : Nat) (arg : σ) :
    (pull uTxFunc n arg).1.length ≤ n := by
  induction n generalizing arg with
  | zero => simp [pull]
  | succ n ih =>
      simp only [pull]
      split
      · simp
      · simpa using ih _

theorem fillTxBufFrom_eq (uTxFunc : σ → Int × σ) (n i : Nat) (u : Port σ) :
    fillTxBufFrom uTxFunc n i u =
      (i + (pull uTxFunc n u.uFuncArg).1.length,
        { u with
          txdata := overlay u.txdata i (pull uTxFunc n u.uFuncArg).1
          uFuncArg := (pull uTxFunc n u.uFuncArg).2 }) := by
  induction n generalizing i u with
  | zero => simp [fillTxBufFrom, pull, overlay_nil]
  | succ n ih =>
      simp only [fillTxBufFrom, pull]
      split
      · simp [overlay_nil]
      · rw [ih]
        have hupdate : Function.update u.txdata i (UInt8.ofInt (uTxFunc u.uFuncArg).1)
            = overlay u.txdata i [UInt8.ofInt (uTxFunc u.uFuncArg).1] := by
          rw [overlay_singleton]
          funext x
          simp [Function.update_apply]
        simp only [hupdate, ← overlay_append, List.length_cons, List.length_nil, Nat.zero_add,
          ← List.singleton_append (l := (pull uTxFunc n (uTxFunc u.uFuncArg).2).1)]
        simp [Nat.add_assoc, Nat.add_comm 1]

/-- What `fill_tx_buf` leaves. -/
def filled (u : Port σ) (uTxFunc : σ → Int × σ) : Port σ :=
  { u with
    txdata := overlay u.txdata 0 (pull uTxFunc txBufferSize u.uFuncArg).1
    uFuncArg := (pull uTxFunc txBufferSize u.uFuncArg).2 }

theorem fillTxBuf_eq (u : Port σ) :
    u.fillTxBuf = u.uTxFunc.map fun f =>
      ((pull f txBufferSize u.uFuncArg).1.length, u.filled f) := by
  simp only [fillTxBuf, fillTxBufFrom_eq, Nat.zero_add, filled]

end Port

end HalUart
