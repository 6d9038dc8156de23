import MynewtArduinoZero.Espduino.Link

/-!
# The transmitter of the link

`Espduino/Transmit.lean` has the transmitter with `e_tx` alone, as `u_func_arg`.
In `Espduino/Link.lean` `u_func_arg` is both rings, and the receiver shares the
interrupt.  Seen from `e_tx` a step of the link is a step of the transmit
pipeline, or none.
-/

namespace Esp.Link

open HalUart Port

/-- The callbacks that send are those of the link. -/
structure Tied (u : Port Rings) : Prop where
  uTxFunc : u.uTxFunc = some espduinoUartTx
  uTxDone : u.uTxDone = none

/-- The port as the transmit pipeline has it. -/
def side (u : Port Rings) : Port RingBuf where
  inst := u.inst
  uOpen := u.uOpen
  txOn := u.txOn
  txdata := u.txdata
  uTxFunc := some Transmit.espduinoUartTx
  uTxDone := none
  uFuncArg := u.uFuncArg.eTx

/-! ## What the transmitter does -/

theorem pull_eq (n : Nat) (r : Rings) :
    pull espduinoUartTx n r =
      ((pull Transmit.espduinoUartTx n r.eTx).1,
        { r with eTx := (pull Transmit.espduinoUartTx n r.eTx).2 }) := by
  induction n generalizing r with
  | zero => rfl
  | succ n ih =>
      by_cases hneg : (Transmit.espduinoUartTx r.eTx).1 < 0
      · simp [pull, espduinoUartTx, hneg]
      · simp [pull, espduinoUartTx, hneg, ih]

theorem side_filled (u : Port Rings) :
    side (u.filled espduinoUartTx) = (side u).filled Transmit.espduinoUartTx := by
  rw [filled, pull_eq]
  rfl

theorem Tied.fillTxBuf {u : Port Rings} (hu : Tied u) :
    u.fillTxBuf = some
      ((pull Transmit.espduinoUartTx txBufferSize u.uFuncArg.eTx).1.length,
        u.filled espduinoUartTx) := by
  rw [fillTxBuf_eq, hu.uTxFunc, Option.map_some, pull_eq]

theorem fillTxBuf_side (u : Port Rings) :
    (side u).fillTxBuf = some
      ((pull Transmit.espduinoUartTx txBufferSize u.uFuncArg.eTx).1.length,
        side (u.filled espduinoUartTx)) := by
  rw [fillTxBuf_eq, side_filled]
  rfl

theorem side_halUartStartTx {u : Port Rings} (hu : Tied u) :
    side u.halUartStartTx = (side u).halUartStartTx := by
  rw [Port.halUartStartTx, Port.halUartStartTx, hu.fillTxBuf, fillTxBuf_side]
  change side (if u.uOpen && !u.txOn then _ else u) = if u.uOpen && !u.txOn then _ else side u
  split
  · dsimp only
    split <;> rfl
  · rfl

theorem side_usartCallbackTxdone {u : Port Rings} (hu : Tied u) :
    u.usartCallbackTxdone.map side = (side u).usartCallbackTxdone := by
  rw [usartCallbackTxdone, usartCallbackTxdone, hu.fillTxBuf, fillTxBuf_side]
  change Option.map side (if u.uOpen = true then _ else _) = if u.uOpen = true then _ else _
  split
  · simp only [Option.map_some]
    split
    · rfl
    · rw [filled, hu.uTxDone]
      rfl
  · rfl

theorem side_transmitComplete {u : Port Rings} (hu : Tied u) (called : Bool) :
    (u.transmitComplete called).map side = (side u).transmitComplete called := by
  rw [transmitComplete, transmitComplete]
  split
  · exact side_usartCallbackTxdone ⟨hu.uTxFunc, hu.uTxDone⟩
  · rfl

theorem side_usartInterruptHandler {u : Port Rings} (hu : Tied u) :
    u.usartInterruptHandler.map side = (side u).usartInterruptHandler := by
  let v : Port Rings := if u.inst.hw.dre && u.inst.hw.intenDre then
    { u with inst := u.inst.dataRegisterEmpty u.txdata } else u
  have hv : Tied v := by
    dsimp only [v]
    split
    · exact ⟨hu.uTxFunc, hu.uTxDone⟩
    · exact hu
  have hside : side v = if u.inst.hw.dre && u.inst.hw.intenDre then
      { side u with inst := u.inst.dataRegisterEmpty u.txdata } else side u := by
    dsimp only [v]
    split <;> rfl
  change Option.map side (if u.inst.hw.txc && u.inst.hw.intenTxc then
      v.transmitComplete (u.inst.callbackReg && u.inst.callbackEnable) else some v) =
    if u.inst.hw.txc && u.inst.hw.intenTxc then
      transmitComplete (if u.inst.hw.dre && u.inst.hw.intenDre then
        { side u with inst := u.inst.dataRegisterEmpty u.txdata } else side u)
        (u.inst.callbackReg && u.inst.callbackEnable)
    else some _
  rw [← hside]
  split
  · exact side_transmitComplete hv _
  · exact congrArg some hside

/-! ## The steps -/

/-- The transmit pipeline with the port of a station. -/
def Station.sys (s : Station) (writer : Transmit.Writer) (written : List UInt8) : Transmit.Sys where
  writer := writer
  port := side s.uart.port
  written := written

/-- What a step of the link is for the transmit pipeline.  Where its task has to be is up to the
caller of `esp_uart_write`. -/
def Transmits (s t : Station) : Event → Prop
  | .irq => ∀ w l, Transmit.step (s.sys w l) .irq = some (t.sys w l)
  | .load => ∀ w l, Transmit.step (s.sys w l) .load = some (t.sys w l)
  | .shiftOut => ∀ w l, Transmit.step (s.sys w l) .shiftOut = some (t.sys w l)
  | .txPut data => ∀ l, ∃ w l', Transmit.step (s.sys (.put data) l) .put = some (t.sys w l')
  | .txStart => ∀ l, Transmit.step (s.sys .start l) .start = some (t.sys .idle l)
  | _ => side t.uart.port = side s.uart.port

theorem Inv.tied {behind : Nat → UInt8} {s : Station} (hs : Inv behind s) : Tied s.uart.port :=
  ⟨hs.uTxFunc, hs.uTxDone⟩

/-- The receiver has its own ring. -/
theorem side_received {u v : Port Rings} (h : Duplex.Received (some espduinoUartRx) u v) :
    side v = side u := by
  cases h with
  | kept => rfl
  | passed f c hf =>
      cases hf
      rfl

/-- Seen from `e_tx`, the interrupt handler has no receiver. -/
theorem Inv.side_irq {behind : Nat → UInt8} {s : Station} (hs : Inv behind s)
    {uart : Duplex Rings} (h : s.uart.usartInterruptHandler = some uart) :
    (side s.uart.port).usartInterruptHandler = some (side uart.port) := by
  rcases s.uart.usartInterruptHandler_port with ⟨hnone, -⟩ | ⟨v, port, hv, hport, hrx⟩
  · rw [hnone] at h
    cases h
  · obtain rfl := Option.some.inj (hv.symm.trans h)
    rw [hs.armed.uRxFunc] at hrx
    rw [← side_usartInterruptHandler hs.tied, hport, Option.map_some, side_received hrx]

theorem ringbufPut_full {r : RingBuf} {c : UInt8} (h : (ringbufPut r c).1 ≠ 0) :
    (ringbufPut r c).2 = r := by
  rw [ringbufPut] at h ⊢
  split at h
  · rw [if_pos ‹_›]
  · exact absurd rfl h

/-- Seen from `e_tx`, a step of the link is a step of the transmit pipeline, or none. -/
theorem transmits_of_step {behind : Nat → UInt8} {s t : Station} (hs : Inv behind s) {e : Event}
    (h : step s e = some t) : Transmits s t e := by
  cases e with
  | irq =>
    obtain ⟨uart, huart, rfl⟩ := Option.map_eq_some_iff.mp h
    intro w l
    change (side s.uart.port).usartInterruptHandler.map _ = _
    rw [hs.side_irq huart]
    rfl
  | load =>
    obtain ⟨port, hport, rfl⟩ := Option.map_eq_some_iff.mp h
    obtain ⟨hw, hload, rfl⟩ := Option.map_eq_some_iff.mp hport
    intro w l
    change (Option.map _ s.uart.port.inst.hw.load).map _ = _
    rw [hload]
    rfl
  | shiftOut =>
    obtain ⟨port, hport, rfl⟩ := Option.map_eq_some_iff.mp h
    obtain ⟨hw, hshift, rfl⟩ := Option.map_eq_some_iff.mp hport
    intro w l
    change (Option.map _ s.uart.port.inst.hw.shiftOut).map _ = _
    rw [hshift]
    rfl
  | txPut data =>
    obtain ⟨-, hput⟩ := Option.ite_none_right_eq_some.mp h
    cases hput
    intro l
    change ∃ w l', (if (ringbufPut s.uart.port.uFuncArg.eTx data).1 ≠ 0 then _ else _) = _
    by_cases hfull : (ringbufPut s.uart.port.uFuncArg.eTx data).1 ≠ 0
    · rw [if_pos hfull]
      refine ⟨.put data, l, ?_⟩
      simp only [Station.sys, side, Station.setRings, ringbufPut_full hfull]
    · rw [if_neg hfull]
      exact ⟨.start, l ++ [data], rfl⟩
  | txStart =>
    obtain ⟨-, hstart⟩ := Option.ite_none_right_eq_some.mp h
    cases hstart
    intro l
    change some (Transmit.Sys.mk _ (side s.uart.port).halUartStartTx _) = _
    rw [← side_halUartStartTx hs.tied]
    rfl
  | arrive | writeBehind =>
    cases h
    rfl
  | process | waitFor | clearReturn =>
    obtain ⟨-, hnext⟩ := Option.ite_none_right_eq_some.mp h
    cases hnext
    rfl
  | turn =>
    change s.turn = some t at h
    rw [Station.turn] at h
    split at h
    all_goals cases h
    all_goals rfl

end Esp.Link
