import MynewtArduinoZero.Espduino.RingBuf
import MynewtArduinoZero.Lib.Fair
import MynewtArduinoZero.Uart.Stage

/-!
# The transmit pipeline

`esp_uart_write` puts a byte into the ring `e_tx`, trying again while the ring is
full, and starts the transmitter.  `espduino_uart_tx` gives the bytes of the ring
to the UART, which asks for them in `hal_uart_start_tx` and at the end of each
write job.  The UART layer calls `hal_uart_start_tx` with interrupts masked.

There is one writing task.  Interrupts may come between any two of its steps.
-/

namespace Esp.Transmit

open HalUart Port Cells

/-! ## The system -/

/-- `espduino_uart_tx`. -/
def espduinoUartTx (r : RingBuf) : Int × RingBuf :=
  let (rc, byte, r) := ringbufGet r
  if rc ≠ 0 then (-1, r) else ((byte.getD 0).toNat, r)

/-- Where the writing task is. -/
inductive Writer where
  /-- Outside `esp_uart_write`. -/
  | idle
  /-- In front of `RINGBUF_Put`, for the first time or after a delay. -/
  | put (data : UInt8)
  /-- In front of `uart_start_tx`. -/
  | start
deriving DecidableEq

structure Sys where
  writer : Writer
  /-- The UART, whose `u_func_arg` is `e_tx`. -/
  port : Port RingBuf
  /-- The bytes that `esp_uart_write` has put, the oldest first. -/
  written : List UInt8

inductive Event where
  /-- `esp_uart_write` is called. -/
  | write (data : UInt8)
  /-- `RINGBUF_Put` is tried. -/
  | put
  /-- `uart_start_tx` is called, and `esp_uart_write` returns. -/
  | start
  | irq
  | load
  | shiftOut
deriving DecidableEq

/-- One step. -/
def step (s : Sys) : Event → Option Sys
  | .write data =>
      match s.writer with
      | .idle => some { s with writer := .put data }
      | _ => none
  | .put =>
      match s.writer with
      | .put data =>
          let (rc, ring) := ringbufPut s.port.uFuncArg data
          if rc ≠ 0 then some s
          else
            some
              { writer := .start
                port := { s.port with uFuncArg := ring }
                written := s.written ++ [data] }
      | _ => none
  | .start =>
      match s.writer with
      | .start => some { s with writer := .idle, port := s.port.halUartStartTx }
      | _ => none
  | .irq => s.port.usartInterruptHandler.map fun u => { s with port := u }
  | .load => s.port.load.map fun u => { s with port := u }
  | .shiftOut => s.port.shiftOut.map fun u => { s with port := u }

/-- `sizeof(e_tx_buf)`. -/
def txBufSize : Int := 32

/-- `espduino_init`: the UART layer opens the port `u`, and the ring is set up in the memory
`buf`. -/
def espduinoInit (u : Port RingBuf) (buf : Nat → UInt8) : Sys where
  writer := .idle
  port :=
    let zero : RingBuf := { buf := buf, pR := 0, pW := 0, fillCnt := 0, size := 0 }
    let u := (u.halUartInitCbs (some espduinoUartTx) none zero).2
    let u := (u.halUartConfig 8 true true).2
    { u with uFuncArg := (ringbufInit zero buf txBufSize).2 }
  written := []

/-! ## What `fill_tx_buf` gets -/

theorem espduinoUartTx_empty {r : RingBuf} (hr : r.WF) (h : r.contents = []) :
    espduinoUartTx r = (-1, r) := by
  rw [espduinoUartTx, RingBuf.ringbufGet_empty hr h]
  rfl

theorem espduinoUartTx_cons {r : RingBuf} (hr : r.WF) {c : UInt8} {l : List UInt8}
    (h : r.contents = c :: l) :
    ∃ r' : RingBuf, espduinoUartTx r = ((c.toNat : Int), r') ∧ r'.WF ∧ r'.contents = l ∧ r'.size = r.size := by
  obtain ⟨r', hget, hr'⟩ := RingBuf.ringbufGet_cons hr h
  exact ⟨r', by simp [espduinoUartTx, hget], hr'⟩

theorem uint8_ofInt_toNat (b : UInt8) : UInt8.ofInt (b.toNat : Int) = b := by
  have hlt := b.toNat_lt
  rw [← UInt8.toNat_inj, UInt8.ofInt, UInt8.toNat_ofNat']
  omega

/-- `n` calls of `espduino_uart_tx` give the first `n` bytes of the ring. -/
theorem pull_espduinoUartTx (n : Nat) {r : RingBuf} (hr : r.WF) :
    (pull espduinoUartTx n r).1 = r.contents.take n ∧ (pull espduinoUartTx n r).2.WF ∧
      (pull espduinoUartTx n r).2.contents = r.contents.drop n ∧
      (pull espduinoUartTx n r).2.size = r.size := by
  induction n generalizing r with
  | zero => exact ⟨by simp [pull], hr, by simp [pull], rfl⟩
  | succ n ih =>
      cases h : r.contents with
      | nil =>
          simp only [pull, espduinoUartTx_empty hr h]
          simpa [h] using hr
      | cons c l =>
          obtain ⟨r', htx, hr', hcontents, hsize⟩ := espduinoUartTx_cons hr h
          obtain ⟨hpull, hwf, hdrop, hsize'⟩ := ih hr'
          have hnonneg : ¬ (c.toNat : Int) < 0 := by omega
          simp only [pull, htx, if_neg hnonneg, uint8_ofInt_toNat, List.take_succ_cons,
            List.drop_succ_cons]
          rw [hcontents] at hpull hdrop
          exact ⟨by rw [hpull], hwf, hdrop, hsize'.trans hsize⟩

/-! ## The bytes on their way -/

/-- The bytes of the job that are not in DATA yet. -/
def staged (u : Port RingBuf) : List UInt8 :=
  bytesAt u.txdata u.inst.txBufferPtr u.inst.remainingTxBufferLength

/-- The characters that have been written to DATA. -/
def chars (u : Port RingBuf) : List UInt16 := u.inst.hw.line.map Frame.char

/-- Every byte is in its place between the ring and the wire. -/
structure Pipe (u : Port RingBuf) (written : List UInt8) : Prop where
  func : u.uTxFunc = some espduinoUartTx
  done : u.uTxDone = none
  bits8 : u.inst.characterSize = .bits8
  enable : u.inst.callbackEnable = true
  ring : u.uFuncArg.WF
  size : u.uFuncArg.size = txBufSize
  order : u.inst.jobs.flatten ++ u.uFuncArg.contents = written
  sizes : ∀ job ∈ u.inst.jobs, 0 < job.length ∧ job.length ≤ txBufferSize
  wire : chars u ++ (staged u).map UInt8.toUInt16 = u.inst.jobs.flatten.map UInt8.toUInt16

/-- The registers change, and the same characters have been written. -/
theorem Pipe.setHw {u : Port RingBuf} {written : List UInt8} (hp : Pipe u written)
    {hw : Transmitter} (hline : hw.line = u.inst.hw.line) : Pipe (u.setHw hw) written where
  func := hp.func
  done := hp.done
  bits8 := hp.bits8
  enable := hp.enable
  ring := hp.ring
  size := hp.size
  order := hp.order
  sizes := hp.sizes
  wire := by
    have hwire := hp.wire
    rw [chars, ← hline] at hwire
    exact hwire

theorem Pipe.txcOff {u : Port RingBuf} {written : List UInt8} (hp : Pipe u written) :
    Pipe u.txcOff written where
  func := hp.func
  done := hp.done
  bits8 := hp.bits8
  enable := hp.enable
  ring := hp.ring
  size := hp.size
  order := hp.order
  sizes := hp.sizes
  wire := hp.wire

/-- What `fill_tx_buf` pulls is the front of the ring. -/
theorem Pipe.pull {u : Port RingBuf} {written : List UInt8} (hp : Pipe u written) :
    (Port.pull espduinoUartTx txBufferSize u.uFuncArg).1
        = u.uFuncArg.contents.take txBufferSize :=
  (pull_espduinoUartTx txBufferSize hp.ring).1

/-- When it pulls nothing the ring is empty. -/
theorem Pipe.contents_nil {u : Port RingBuf} {written : List UInt8} (hp : Pipe u written)
    (hnil : (Port.pull espduinoUartTx txBufferSize u.uFuncArg).1 = []) :
    u.uFuncArg.contents = [] := by
  rw [hp.pull, List.take_eq_nil_iff] at hnil
  exact hnil.resolve_left (by decide)

/-- A port at rest has nothing staged. -/
theorem staged_resting {u : Port RingBuf} (hu : Resting u) : staged u = [] := by
  rw [staged, hu.remaining, bytesAt_zero]

/-- The ring is found empty. -/
theorem Pipe.filled {u : Port RingBuf} {written : List UInt8} (hp : Pipe u written)
    (hu : Resting u) (hnil : (Port.pull espduinoUartTx txBufferSize u.uFuncArg).1 = []) :
    Pipe (u.filled espduinoUartTx) written := by
  obtain ⟨-, hwf, hdrop, hsize⟩ := pull_espduinoUartTx txBufferSize hp.ring
  have hcontents : (u.filled espduinoUartTx).uFuncArg.contents = u.uFuncArg.contents := by
    rw [Port.filled, hdrop, hp.contents_nil hnil, List.drop_nil]
  exact
    { func := hp.func
      done := hp.done
      bits8 := hp.bits8
      enable := hp.enable
      ring := hwf
      size := hsize.trans hp.size
      order := by
        rw [hcontents]
        exact hp.order
      sizes := hp.sizes
      wire := by
        have hwire := hp.wire
        rw [staged_resting hu] at hwire
        rw [staged_resting (hu.filled espduinoUartTx)]
        exact hwire }

/-- The front of the ring becomes a job. -/
theorem Pipe.job {u : Port RingBuf} {written : List UInt8} (hp : Pipe u written) (hu : Resting u)
    (hne : (Port.pull espduinoUartTx txBufferSize u.uFuncArg).1 ≠ []) :
    Pipe ((u.filled espduinoUartTx).writeStaged
      (Port.pull espduinoUartTx txBufferSize u.uFuncArg).1.length) written := by
  obtain ⟨hpull, hwf, hdrop, hsize⟩ := pull_espduinoUartTx txBufferSize hp.ring
  have hstaged := bytesAt_overlay u.txdata 0 (Port.pull espduinoUartTx txBufferSize u.uFuncArg).1
  rw [writeStaged_eq (hu.filled espduinoUartTx) (List.length_pos_iff.mpr hne)]
  refine
    { func := hp.func
      done := hp.done
      bits8 := hp.bits8
      enable := hp.enable
      ring := hwf
      size := hsize.trans hp.size
      order := ?_
      sizes := ?_
      wire := ?_ }
  · have horder := hp.order
    simp only [Port.filled, hstaged, List.flatten_append, List.flatten_singleton, hdrop]
    rw [hpull, List.append_assoc, List.take_append_drop]
    exact horder
  · intro job hjob
    simp only [Port.filled, hstaged, List.mem_append, List.mem_singleton] at hjob
    rcases hjob with hjob | rfl
    · exact hp.sizes job hjob
    · exact ⟨List.length_pos_iff.mpr hne, length_pull_le ..⟩
  · have hwire := hp.wire
    rw [staged_resting hu, List.map_nil, List.append_nil] at hwire
    simp only [staged, Port.filled, hstaged, List.flatten_append, List.flatten_singleton,
      List.map_append, ← hwire]
    rfl

theorem dataMask_and (b : UInt8) : dataMask &&& b.toUInt16 = b.toUInt16 := by
  have hlt := b.toNat_lt
  rw [← UInt16.toNat_inj, UInt16.toNat_and, UInt8.toNat_toUInt16, Nat.and_comm]
  exact (Nat.and_two_pow_sub_one_eq_mod _ 9).trans (Nat.mod_eq_of_lt (by omega))

/-- A byte of the job is written to DATA. -/
theorem Pipe.dataRegisterEmpty {u : Port RingBuf} {written : List UInt8} (hp : Pipe u written)
    (hremaining : 0 < u.inst.remainingTxBufferLength) (hdata : u.inst.hw.data = none) :
    Pipe { u with inst := u.inst.dataRegisterEmpty u.txdata } written := by
  have hbits : u.inst.characterSize ≠ .bits9 := by
    rw [hp.bits8]
    decide
  have hchar : u.inst.dataToSend u.txdata = (u.txdata u.inst.txBufferPtr).toUInt16 := by
    rw [UsartModule.dataToSend, if_neg hbits]
    exact dataMask_and _
  have hline := line_writeData hdata ⟨u.inst.dataToSend u.txdata, .job⟩ true
  obtain ⟨n, hn⟩ := Nat.exists_eq_succ_of_ne_zero hremaining.ne'
  have hstaged : staged u = u.txdata u.inst.txBufferPtr
      :: bytesAt u.txdata (u.inst.txBufferPtr + 1) n := by
    rw [staged, hn, bytesAt_succ]
  have hwire := hp.wire
  rw [hstaged, List.map_cons, ← hchar] at hwire
  refine
    { func := hp.func
      done := hp.done
      bits8 := ?_
      enable := ?_
      ring := hp.ring
      size := hp.size
      order := ?_
      sizes := ?_
      wire := ?_ }
  all_goals simp only [UsartModule.dataRegisterEmpty, if_pos hremaining]
  · exact hp.bits8
  · exact hp.enable
  · exact hp.order
  · exact hp.sizes
  · have hhw : ∀ hw : Transmitter, hw.line = u.inst.hw.line ++ [⟨u.inst.dataToSend u.txdata, .job⟩] →
        hw.line.map Frame.char = chars u ++ [u.inst.dataToSend u.txdata] := by
      intro hw h
      simp [h, chars]
    simp only [chars, staged, UsartModule.width, if_neg hbits, hn, Nat.succ_eq_add_one,
      Nat.add_sub_cancel]
    rw [← hwire, hhw _ (by split <;> exact hline)]
    simp

/-! ## What every state keeps -/

structure Inv (s : Sys) : Prop where
  port : s.port.Inv
  pipe : Pipe s.port s.written
  /-- Outside the last step of `esp_uart_write`, a ring that is not empty is being emptied. -/
  ready : s.writer ≠ .start → s.port.uFuncArg.contents ≠ [] → s.port.txOn = true

/-- What an interrupt does to the pipe. -/
theorem irq_pipe {u u' : Port RingBuf} {written : List UInt8} (hp : Pipe u written)
    (h : Irq u u') : Pipe u' written := by
  cases h with
  | quiet => exact hp
  | data _ hremaining _ _ hdata => exact hp.dataRegisterEmpty hremaining hdata
  | lost _ _ _ hdisabled =>
      rw [hp.enable] at hdisabled
      cases hdisabled
  | dry f _ _ _ _ hrest hf hnil =>
      obtain rfl := Option.some.inj (hp.func.symm.trans hf)
      have hfilled := hp.txcOff.filled hrest hnil
      have harg : (u.txcOff.filled espduinoUartTx).txDone.uFuncArg
          = (u.txcOff.filled espduinoUartTx).uFuncArg := by
        rw [txDone, hfilled.done]
        rfl
      exact
        { func := hfilled.func
          done := hfilled.done
          bits8 := hfilled.bits8
          enable := hfilled.enable
          ring := harg ▸ hfilled.ring
          size := harg ▸ hfilled.size
          order := harg ▸ hfilled.order
          sizes := hfilled.sizes
          wire := hfilled.wire }
  | job f _ _ _ _ hrest hf hne =>
      obtain rfl := Option.some.inj (hp.func.symm.trans hf)
      exact hp.txcOff.job hrest hne

/-- An interrupt takes bytes from the front of the ring only, and starts a job with them. -/
theorem irq_contents {u u' : Port RingBuf} {written : List UInt8} (hp : Pipe u written)
    (h : Irq u u') :
    (u'.uFuncArg.contents = u.uFuncArg.contents ∧
        (u'.txOn = u.txOn ∨ u.uFuncArg.contents = [])) ∨
      (u'.uFuncArg.contents = u.uFuncArg.contents.drop txBufferSize ∧ u'.txOn = true) := by
  cases h with
  | quiet | data | lost => exact .inl ⟨rfl, .inl rfl⟩
  | dry f _ _ _ _ hrest hf hnil =>
      obtain rfl := Option.some.inj (hp.func.symm.trans hf)
      obtain ⟨-, -, hdrop, -⟩ := pull_espduinoUartTx txBufferSize hp.ring
      have hempty := hp.contents_nil hnil
      refine .inl ⟨?_, .inr hempty⟩
      rw [txDone, show (u.txcOff.filled espduinoUartTx).uTxDone = none from hp.done]
      exact hdrop.trans (by rw [hempty, List.drop_nil])
  | job f _ _ _ _ hrest hf hne =>
      obtain rfl := Option.some.inj (hp.func.symm.trans hf)
      obtain ⟨-, -, hdrop, -⟩ := pull_espduinoUartTx txBufferSize hp.ring
      rw [writeStaged_eq (hrest.filled _) (List.length_pos_iff.mpr hne)]
      exact .inr ⟨hdrop, rfl⟩

/-- `hal_uart_start_tx` leaves no bytes in the ring without a job. -/
theorem startTx_pipe {u u' : Port RingBuf} {written : List UInt8} (hu : u.Inv)
    (hp : Pipe u written) (h : StartTx u u') :
    Pipe u' written ∧ (u'.uFuncArg.contents ≠ [] → u'.txOn = true) := by
  cases h with
  | nothing h =>
      refine ⟨hp, fun _ => h.resolve_right ?_⟩
      rw [hp.func]
      exact Option.some_ne_none _
  | dry f hoff hf hnil =>
      obtain rfl := Option.some.inj (hp.func.symm.trans hf)
      have hfilled := hp.filled (hu.resting hoff) hnil
      obtain ⟨-, -, hdrop, -⟩ := pull_espduinoUartTx txBufferSize hp.ring
      refine ⟨hfilled, fun hne => absurd ?_ hne⟩
      exact hdrop.trans (by rw [hp.contents_nil hnil, List.drop_nil])
  | job f hoff hf hne =>
      obtain rfl := Option.some.inj (hp.func.symm.trans hf)
      refine ⟨hp.job (hu.resting hoff) hne, fun _ => ?_⟩
      rw [writeStaged_eq ((hu.resting hoff).filled _) (List.length_pos_iff.mpr hne)]

/-- The port changes, with the bytes in their places. -/
theorem Inv.setPort {s : Sys} (hs : Inv s) {u : Port RingBuf} (hu : u.Inv)
    (hp : Pipe u s.written)
    (hready : u.uFuncArg.contents ≠ [] → u.txOn = true ∨
      (u.uFuncArg.contents = s.port.uFuncArg.contents ∧ u.txOn = s.port.txOn)) :
    Inv { s with port := u } where
  port := hu
  pipe := hp
  ready := by
    intro hwriter hne
    rcases hready hne with hon | ⟨hcontents, hon⟩
    · exact hon
    · exact hon.trans (hs.ready hwriter (hcontents ▸ hne))

/-- A byte is put into the ring. -/
theorem Inv.put {s : Sys} (hs : Inv s) {data : UInt8}
    (hroom : s.port.uFuncArg.fillCnt < s.port.uFuncArg.size) :
    Inv
      { writer := .start
        port := { s.port with uFuncArg := (ringbufPut s.port.uFuncArg data).2 }
        written := s.written ++ [data] } := by
  obtain ⟨-, hwf, hcontents, hsize⟩ := RingBuf.ringbufPut_room hs.pipe.ring hroom data
  refine
    { port := setArg_inv hs.port _
      pipe :=
        { func := hs.pipe.func
          done := hs.pipe.done
          bits8 := hs.pipe.bits8
          enable := hs.pipe.enable
          ring := hwf
          size := hsize.trans hs.pipe.size
          order := ?_
          sizes := hs.pipe.sizes
          wire := hs.pipe.wire }
      ready := fun h => absurd rfl h }
  rw [hcontents, ← List.append_assoc, hs.pipe.order]

/-- What `RINGBUF_Put` finds. -/
theorem step_put {s t : Sys} (hs : Inv s) (h : step s .put = some t) :
    ∃ data, s.writer = .put data ∧
      ((s.port.uFuncArg.size ≤ s.port.uFuncArg.fillCnt ∧ t = s) ∨
        (s.port.uFuncArg.fillCnt < s.port.uFuncArg.size ∧
          t = { writer := .start
                port := { s.port with uFuncArg := (ringbufPut s.port.uFuncArg data).2 }
                written := s.written ++ [data] })) := by
  simp only [step] at h
  split at h
  next data hwriter =>
    refine ⟨data, hwriter, ?_⟩
    rcases lt_or_ge s.port.uFuncArg.fillCnt s.port.uFuncArg.size with hroom | hfull
    · obtain ⟨hok, -⟩ := RingBuf.ringbufPut_room hs.pipe.ring hroom data
      rw [if_neg (by simp [hok])] at h
      cases h
      exact .inr ⟨hroom, rfl⟩
    · rw [RingBuf.ringbufPut_full hfull] at h
      cases h
      exact .inl ⟨hfull, rfl⟩
  next => cases h

theorem step_inv {s t : Sys} {e : Event} (hs : Inv s) (h : step s e = some t) : Inv t := by
  cases e with
  | write data =>
      simp only [step] at h
      split at h
      next hwriter =>
        cases h
        exact ⟨hs.port, hs.pipe, fun _ => hs.ready (by simp [hwriter])⟩
      next => cases h
  | put =>
      obtain ⟨data, -, ⟨-, rfl⟩ | ⟨hroom, rfl⟩⟩ := step_put hs h
      · exact hs
      · exact hs.put hroom
  | start =>
      simp only [step] at h
      split at h
      next hwriter =>
        cases h
        obtain ⟨hpipe, hready⟩ := startTx_pipe hs.port hs.pipe (halUartStartTx_cases hs.port)
        exact ⟨halUartStartTx_inv hs.port, hpipe, fun _ => hready⟩
      next => cases h
  | irq =>
      obtain ⟨u, hu, rfl⟩ := Option.map_eq_some_iff.mp h
      have hirq := irq_of_handler hs.port hu
      refine hs.setPort (hirq.inv hs.port fun _ _ => hs.pipe.enable)
        (irq_pipe hs.pipe hirq) fun hne => ?_
      rcases irq_contents hs.pipe hirq with ⟨hsame, hon | hempty⟩ | ⟨-, hon⟩
      · exact .inr ⟨hsame, hon⟩
      · exact absurd (hsame.trans hempty) hne
      · exact .inl hon
  | load =>
      obtain ⟨u, hu, rfl⟩ := Option.map_eq_some_iff.mp h
      have hinv := load_inv hs.port hu
      obtain ⟨hw, hload, rfl⟩ := Option.map_eq_some_iff.mp hu
      obtain ⟨f, hdata, hshift, rfl⟩ := load_eq_some hload
      exact hs.setPort hinv (hs.pipe.setHw (by simp [Transmitter.line, hdata, hshift]))
        fun _ => .inr ⟨rfl, rfl⟩
  | shiftOut =>
      obtain ⟨u, hu, rfl⟩ := Option.map_eq_some_iff.mp h
      have hinv := shiftOut_inv hs.port hu
      obtain ⟨hw, hout, rfl⟩ := Option.map_eq_some_iff.mp hu
      obtain ⟨f, hshift, rfl⟩ := shiftOut_eq_some hout
      exact hs.setPort hinv (hs.pipe.setHw (by simp [Transmitter.line, hshift]))
        fun _ => .inr ⟨rfl, rfl⟩

/-- The system behind `espduino_init` on a port that was closed. -/
theorem Inv.start {u : Port RingBuf} (hclosed : u.uOpen = false) (hoff : u.txOn = false)
    (buf : Nat → UInt8) : Inv (espduinoInit u buf) := by
  obtain ⟨hwf, hcontents⟩ := RingBuf.ringbufInit_wf
    { buf := buf, pR := 0, pW := 0, fillCnt := 0, size := 0 } buf
    (show (2 : Int) ≤ txBufSize by decide)
  simp only [espduinoInit, halUartInitCbs, halUartConfig, hclosed, Bool.false_eq_true, if_false]
  exact
    { port := Resting.inv ⟨rfl, rfl, rfl, rfl, rfl, rfl, nofun⟩ hoff
      pipe :=
        { func := rfl
          done := rfl
          bits8 := rfl
          enable := rfl
          ring := hwf
          size := rfl
          order := hcontents
          sizes := nofun
          wire := rfl }
      ready := fun _ hne => absurd hcontents hne }

/-! ## The writer is served -/

/-- What the hardware has to do. -/
def Pending (s : Sys) : Event → Prop
  | .irq =>
      (s.port.inst.hw.data = none ∧ s.port.inst.hw.intenDre = true) ∨
        (s.port.inst.hw.txc = true ∧ s.port.inst.hw.intenTxc = true)
  | .load => s.port.inst.hw.data.isSome ∧ s.port.inst.hw.shift = none
  | .shiftOut => s.port.inst.hw.shift.isSome
  | _ => False

/-- The writing task is about to try `RINGBUF_Put`. -/
def Trying (s : Sys) (e : Event) : Prop := e = .put ∧ ∃ data, s.writer = .put data

/-- The steps the hardware takes to the end of the job. -/
def work (s : Sys) : Nat :=
  3 * s.port.inst.remainingTxBufferLength + 2 * s.port.inst.hw.data.toList.length +
    s.port.inst.hw.shift.toList.length

/-- A job in flight gives the hardware something to do. -/
theorem pending_of_inFlight {s : Sys} (h : s.port.InFlight) : ∃ e, Pending s e := by
  rcases hdata : s.port.inst.hw.data with _ | f
  · rcases hshift : s.port.inst.hw.shift with _ | g
    · rcases h with ⟨-, hdre⟩ | ⟨htxc, hbusy⟩
      · exact ⟨.irq, .inl ⟨hdata, hdre⟩⟩
      · refine ⟨.irq, .inr ⟨?_, htxc⟩⟩
        simpa [Busy, hdata, hshift] using hbusy
    · exact ⟨.shiftOut, by simp [Pending, hshift]⟩
  · rcases hshift : s.port.inst.hw.shift with _ | g
    · exact ⟨.load, by simp [Pending, hdata, hshift]⟩
    · exact ⟨.shiftOut, by simp [Pending, hshift]⟩

/-- The writer waits with `data`, having put `written` before. -/
structure Waiting (data : UInt8) (written : List UInt8) (s : Sys) : Prop where
  inv : Inv s
  writer : s.writer = .put data
  written : s.written = written

/-- The ring has no room. -/
def Full (s : Sys) : Prop := s.port.uFuncArg.size ≤ s.port.uFuncArg.fillCnt

/-- A ring without room is being emptied. -/
theorem Waiting.inFlight {data : UInt8} {written : List UInt8} {s : Sys}
    (hs : Waiting data written s) (hfull : Full s) :
    s.port.txOn = true ∧ s.port.InFlight := by
  have hlen := hs.inv.pipe.ring.length_contents
  have hne : s.port.uFuncArg.contents ≠ [] := by
    intro hnil
    rw [hnil, List.length_nil] at hlen
    rw [Full, ← hlen, hs.inv.pipe.size] at hfull
    exact absurd hfull (by decide)
  have hon := hs.inv.ready (by simp [hs.writer]) hne
  exact ⟨hon, hs.inv.port.stage.inFlight hon⟩

/-- A ring whose first bytes have been taken has room. -/
theorem not_full_of_drop {r r' : RingBuf} (hr : r.WF) (hr' : r'.WF) (hsize : r'.size = txBufSize)
    (hr32 : r.size = txBufSize) (hcontents : r'.contents = r.contents.drop txBufferSize) :
    ¬ r'.size ≤ r'.fillCnt := by
  have hlen := hr.length_contents
  have hlen' := hr'.length_contents
  have hle := hr.filled.2
  rw [hcontents, List.length_drop] at hlen'
  rw [hr32] at hle
  rw [hsize]
  simp only [txBufSize, txBufferSize] at *
  omega

/-- What an interrupt does for the writer: it makes room, or moves a character, or has nothing
to do. -/
theorem irq_serves {u u' : Port RingBuf} {written : List UInt8} (hp : Pipe u written)
    (h : Irq u u') :
    (u' = u ∧ ¬ (u.inst.hw.data = none ∧ u.inst.hw.intenDre = true) ∧
        ¬ (u.inst.hw.txc = true ∧ u.inst.hw.intenTxc = true)) ∨
      (0 < u.inst.remainingTxBufferLength ∧ u.inst.hw.data = none ∧
        u' = { u with inst := u.inst.dataRegisterEmpty u.txdata }) ∨
      ¬ u'.uFuncArg.size ≤ u'.uFuncArg.fillCnt := by
  have hpipe := irq_pipe hp h
  cases h with
  | quiet hdre htxc =>
      refine .inl ⟨rfl, ?_, ?_⟩
      · rintro ⟨hnone, hset⟩
        simpa [hnone] using hdre hset
      · rintro ⟨hset, hinten⟩
        rw [htxc hinten] at hset
        cases hset
  | data _ hremaining _ _ hdata => exact .inr (.inl ⟨hremaining, hdata, rfl⟩)
  | lost _ _ _ hdisabled =>
      rw [hp.enable] at hdisabled
      cases hdisabled
  | dry f _ _ _ _ hrest hf hnil =>
      obtain rfl := Option.some.inj (hp.func.symm.trans hf)
      obtain ⟨-, -, hdrop, -⟩ := pull_espduinoUartTx txBufferSize hp.ring
      refine .inr (.inr (not_full_of_drop hp.ring hpipe.ring hpipe.size hp.size ?_))
      rw [txDone, show (u.txcOff.filled espduinoUartTx).uTxDone = none from hp.done]
      exact hdrop
  | job f _ _ _ _ hrest hf hne =>
      obtain rfl := Option.some.inj (hp.func.symm.trans hf)
      obtain ⟨-, -, hdrop, -⟩ := pull_espduinoUartTx txBufferSize hp.ring
      refine .inr (.inr (not_full_of_drop hp.ring hpipe.ring hpipe.size hp.size ?_))
      rw [writeStaged_eq (hrest.filled _) (List.length_pos_iff.mpr hne)]
      exact hdrop

theorem work_setHw_lt {s : Sys} {hw : Transmitter}
    (h : 2 * hw.data.toList.length + hw.shift.toList.length
      < 2 * s.port.inst.hw.data.toList.length + s.port.inst.hw.shift.toList.length) :
    work { s with port := s.port.setHw hw } < work s := by
  simp only [work, Port.setHw]
  omega

/-- One step of a system whose writer waits. -/
theorem Waiting.moves {data : UInt8} {written : List UInt8} {s t : Sys} {e : Event}
    (hs : Waiting data written s) (h : step s e = some t) :
    (t.writer = .start ∧ t.written = written ++ [data]) ∨
      (Waiting data written t ∧ (Full t → Full s) ∧ (Trying s e → Full s) ∧
        (Full t → work t ≤ work s ∧ (Pending s e → work t < work s))) := by
  have hinv := step_inv hs.inv h
  cases e with
  | write | start => simp [step, hs.writer] at h
  | put =>
      obtain ⟨d, hd, ⟨hfull, rfl⟩ | ⟨-, rfl⟩⟩ := step_put hs.inv h
      · exact .inr ⟨hs, id, fun _ => hfull, fun _ => ⟨le_rfl, False.elim⟩⟩
      · rw [hs.writer] at hd
        cases hd
        exact .inl ⟨rfl, by rw [hs.written]⟩
  | irq =>
      obtain ⟨u, hu, rfl⟩ := Option.map_eq_some_iff.mp h
      have hirq := irq_of_handler hs.inv.port hu
      have htrying : Trying s .irq → Full s := by
        rintro ⟨hput, -⟩
        cases hput
      rcases irq_serves hs.inv.pipe hirq with ⟨rfl, hdre, htxc⟩ | ⟨hremaining, hdata, rfl⟩ | hroom
      · exact .inr ⟨hs, id, htrying, fun _ => ⟨le_rfl, fun hp => (hp.elim hdre htxc).elim⟩⟩
      · have hwork : work { s with port :=
            { s.port with inst := s.port.inst.dataRegisterEmpty s.port.txdata } } < work s := by
          simp only [work, UsartModule.dataRegisterEmpty, if_pos hremaining, hdata]
          split <;> simp [Transmitter.writeData] <;> omega
        exact .inr ⟨⟨hinv, hs.writer, hs.written⟩, id, htrying, fun _ => ⟨hwork.le, fun _ => hwork⟩⟩
      · exact .inr ⟨⟨hinv, hs.writer, hs.written⟩, fun hfull => absurd hfull hroom, htrying,
          fun hfull => absurd hfull hroom⟩
  | load =>
      obtain ⟨u, hu, rfl⟩ := Option.map_eq_some_iff.mp h
      obtain ⟨hw, hload, rfl⟩ := Option.map_eq_some_iff.mp hu
      obtain ⟨f, hdata, hshift, rfl⟩ := load_eq_some hload
      refine .inr ⟨⟨hinv, hs.writer, hs.written⟩, id, ?_, fun _ => ?_⟩
      · rintro ⟨hput, -⟩
        cases hput
      · refine ⟨(work_setHw_lt ?_).le, fun _ => work_setHw_lt ?_⟩ <;> simp [hdata, hshift]
  | shiftOut =>
      obtain ⟨u, hu, rfl⟩ := Option.map_eq_some_iff.mp h
      obtain ⟨hw, hout, rfl⟩ := Option.map_eq_some_iff.mp hu
      obtain ⟨f, hshift, rfl⟩ := shiftOut_eq_some hout
      refine .inr ⟨⟨hinv, hs.writer, hs.written⟩, id, ?_, fun _ => ?_⟩
      · rintro ⟨hput, -⟩
        cases hput
      · refine ⟨(work_setHw_lt ?_).le, fun _ => work_setHw_lt ?_⟩ <;> simp [hshift]

/-- The byte has been put behind `written`. -/
def Put (data : UInt8) (written : List UInt8) (s : Sys) : Prop :=
  s.writer = .start ∧ s.written = written ++ [data]

/-- While there is no room, the hardware works towards it. -/
theorem Waiting.leads_to_room {r : Run.Endless step} (hhw : r.Fair Pending) {data : UInt8}
    {written : List UInt8} {n : Nat} (hn : Waiting data written (r.state n))
    (hfull : Full (r.state n)) :
    ∃ m ≥ n, Put data written (r.state m) ∨
      (Waiting data written (r.state m) ∧ ¬ Full (r.state m)) := by
  refine Run.Endless.leads_to (P := fun s => Waiting data written s ∧ Full s)
    (Q := fun s => Put data written s ∨ (Waiting data written s ∧ ¬ Full s)) work ?_ ?_ hhw
    ⟨hn, hfull⟩
  · rintro s ⟨hs, hfull⟩
    exact pending_of_inFlight (hs.inFlight hfull).2
  · rintro s e t ⟨hs, -⟩ h
    rcases hs.moves h with hput | ⟨ht, -, -, hwork⟩
    · exact .inl (.inl hput)
    · by_cases hfull : Full t
      · exact .inr ⟨⟨ht, hfull⟩, hwork hfull⟩
      · exact .inl (.inr ⟨ht, hfull⟩)

/-- While there is room, the next try succeeds. -/
theorem Waiting.leads_to_put {r : Run.Endless step} (htry : r.Fair Trying) {data : UInt8}
    {written : List UInt8} {n : Nat} (hn : Waiting data written (r.state n))
    (hroom : ¬ Full (r.state n)) : ∃ m ≥ n, Put data written (r.state m) := by
  refine Run.Endless.leads_to (P := fun s => Waiting data written s ∧ ¬ Full s)
    (Q := Put data written) (fun _ => 0) ?_ ?_ htry ⟨hn, hroom⟩
  · rintro s ⟨hs, -⟩
    exact ⟨.put, rfl, data, hs.writer⟩
  · rintro s e t ⟨hs, hroom⟩ h
    rcases hs.moves h with hput | ⟨ht, hfull, htrying, -⟩
    · exact .inl hput
    · exact .inr ⟨⟨ht, fun h => hroom (hfull h)⟩, le_rfl, fun h => absurd (htrying h) hroom⟩

/-- A writer that waits puts its byte in the end. -/
theorem Waiting.served {r : Run.Endless step} (hhw : r.Fair Pending) (htry : r.Fair Trying)
    {data : UInt8} {written : List UInt8} {n : Nat} (hn : Waiting data written (r.state n)) :
    ∃ m ≥ n, Put data written (r.state m) := by
  by_cases hfull : Full (r.state n)
  · obtain ⟨m, hm, hput | ⟨hwaits, hroom⟩⟩ := hn.leads_to_room hhw hfull
    · exact ⟨m, hm, hput⟩
    · obtain ⟨k, hk, hput⟩ := hwaits.leads_to_put htry hroom
      exact ⟨k, hm.trans hk, hput⟩
  · exact hn.leads_to_put htry hfull

/-! ## The pipeline -/

/-- What is to hold in every state. -/
structure Kept (s : Sys) : Prop where
  /-- What has been written has been given to the USART in jobs, or is in the ring, in order. -/
  order : s.port.inst.jobs.flatten ++ s.port.uFuncArg.contents = s.written
  sizes : ∀ job ∈ s.port.inst.jobs, 0 < job.length ∧ job.length ≤ txBufferSize
  /-- The USART writes the bytes of the jobs to DATA, in order. -/
  wire : chars s.port ++ (staged s.port).map UInt8.toUInt16
    = s.port.inst.jobs.flatten.map UInt8.toUInt16
  /-- Behind `esp_uart_write` a ring that is not empty is being emptied. -/
  returned : s.writer = .idle → s.port.uFuncArg.contents ≠ [] →
    s.port.txOn = true ∧ s.port.InFlight
  /-- A writer waits only for a job in flight. -/
  waiting : ∀ data, s.writer = .put data → Full s → s.port.txOn = true ∧ s.port.InFlight

theorem Inv.kept {s : Sys} (hs : Inv s) : Kept s where
  order := hs.pipe.order
  sizes := hs.pipe.sizes
  wire := hs.pipe.wire
  returned := by
    intro hwriter hne
    have hon := hs.ready (by simp [hwriter]) hne
    exact ⟨hon, hs.port.stage.inFlight hon⟩
  waiting := fun _ hwriter hfull => Waiting.inFlight ⟨hs, hwriter, rfl⟩ hfull

/-- In every run the bytes written reach the USART once and in order, in
jobs of up to 8, and a ring that is not empty has a job in flight.  In every endless run in which
the hardware does what it has to do and the writer keeps trying, each byte is put in the end. -/
theorem written_once_in_order {u : Port RingBuf} (hclosed : u.uOpen = false)
    (hoff : u.txOn = false) (buf : Nat → UInt8) :
    (∀ es t, Run.run step (espduinoInit u buf) es = some t → Kept t) ∧
      ∀ r : Run.Endless step, r.state 0 = espduinoInit u buf → r.Fair Pending → r.Fair Trying →
        ∀ n data, (r.state n).writer = .put data →
          ∃ m ≥ n, Put data (r.state n).written (r.state m) := by
  have hstart := Inv.start hclosed hoff buf
  constructor
  · intro es t hrun
    exact (Run.run_invariant (fun _ _ _ => step_inv) hstart hrun).kept
  · intro r hr hhw htry n data hwriter
    have hinv := Run.Endless.invariant (fun _ _ _ => step_inv) r (hr ▸ hstart) n
    exact Waiting.served hhw htry ⟨hinv, hwriter, rfl⟩

theorem written_once_in_order_bss :
    (∀ es t, Run.run step (espduinoInit (zero ⟨fun _ => 0, 0, 0, 0, 0⟩) fun _ => 0) es = some t →
        Kept t) ∧
      ∀ r : Run.Endless step, r.state 0 = espduinoInit (zero ⟨fun _ => 0, 0, 0, 0, 0⟩) (fun _ => 0) →
        r.Fair Pending → r.Fair Trying →
        ∀ n data, (r.state n).writer = .put data →
          ∃ m ≥ n, Put data (r.state n).written (r.state m) :=
  written_once_in_order rfl rfl _

end Esp.Transmit
