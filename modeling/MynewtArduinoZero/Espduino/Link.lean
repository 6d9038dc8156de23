import MynewtArduinoZero.Espduino.Acceptance
import MynewtArduinoZero.Espduino.Fifo
import MynewtArduinoZero.Espduino.Transmit
import MynewtArduinoZero.Uart.Lifecycle

/-!
# The receive path

From the wire to the parser.  A character waits in DATA until the interrupt stores
it, and `espduino_uart_rx` puts it into the ring `e_rx`.  `hal_uart` does not look
at what that returns, so a byte that finds the ring full is lost, and the next read
job is started all the same.  `esp_process` takes the bytes out of the ring, one
critical section for each.

Interrupts may come between any two steps of the task, and so may those of the
transmitter, which works on the other ring.
-/

namespace HalUart.Port

variable {σ : Type*}

/-! ## What the transmitter leaves alone -/

/-- The transmitter has worked, and `u_func_arg` has changed by the callbacks only. -/
structure Leaves (P : σ → Prop) (u u' : Port σ) : Prop where
  uOpen : u'.uOpen = u.uOpen
  characterSize : u'.inst.characterSize = u.inst.characterSize
  uTxFunc : u'.uTxFunc = u.uTxFunc
  uTxDone : u'.uTxDone = u.uTxDone
  arg : P u.uFuncArg → P u'.uFuncArg

/-- The callbacks of a port keep a property. -/
structure Respects (P : σ → Prop) (u : Port σ) : Prop where
  txFunc : ∀ f, u.uTxFunc = some f → ∀ a, P a → P (f a).2
  txDone : ∀ f, u.uTxDone = some f → ∀ a, P a → P (f a)

variable {P : σ → Prop}

theorem Leaves.refl (u : Port σ) : Leaves P u u := ⟨rfl, rfl, rfl, rfl, id⟩

theorem Leaves.trans {u v w : Port σ} (h : Leaves P u v) (h' : Leaves P v w) : Leaves P u w :=
  ⟨h'.uOpen.trans h.uOpen, h'.characterSize.trans h.characterSize, h'.uTxFunc.trans h.uTxFunc,
    h'.uTxDone.trans h.uTxDone, h'.arg ∘ h.arg⟩

theorem Leaves.respects {u v : Port σ} (h : Leaves P u v) (hu : u.Respects P) : v.Respects P where
  txFunc f hf := hu.txFunc f (h.uTxFunc ▸ hf)
  txDone f hf := hu.txDone f (h.uTxDone ▸ hf)

theorem pull_keeps {f : σ → Int × σ} (hf : ∀ a, P a → P (f a).2) (n : Nat) {a : σ} (ha : P a) :
    P (pull f n a).2 := by
  induction n generalizing a with
  | zero => exact ha
  | succ n ih =>
      simp only [pull]
      split
      · exact hf a ha
      · exact ih (hf a ha)

theorem fillTxBuf_leaves {u u' : Port σ} {sz : Nat} (hu : u.Respects P)
    (h : u.fillTxBuf = some (sz, u')) : Leaves P u u' := by
  rw [fillTxBuf_eq] at h
  obtain ⟨f, hf, hfilled⟩ := Option.map_eq_some_iff.mp h
  cases hfilled
  exact ⟨rfl, rfl, rfl, rfl, fun ha => pull_keeps (hu.txFunc f hf) _ ha⟩

theorem writeStaged_leaves (u : Port σ) (sz : Nat) : Leaves P u (u.writeStaged sz) := by
  refine ⟨rfl, ?_, rfl, rfl, id⟩
  simp only [writeStaged, UsartModule.usartWriteBufferJob, UsartModule.usartWriteBuffer]
  repeat' split
  all_goals rfl

theorem usartCallbackTxdone_leaves {u u' : Port σ} (hu : u.Respects P)
    (h : u.usartCallbackTxdone = some u') : Leaves P u u' := by
  rw [usartCallbackTxdone] at h
  split at h
  · obtain ⟨⟨sz, v⟩, hfill, rfl⟩ := Option.map_eq_some_iff.mp h
    have hv := fillTxBuf_leaves hu hfill
    dsimp only
    split
    · exact hv.trans (writeStaged_leaves v sz)
    · refine hv.trans ⟨rfl, rfl, rfl, rfl, fun ha => ?_⟩
      dsimp only
      cases hdone : v.uTxDone with
      | none => exact ha
      | some f => exact (hv.respects hu).txDone f hdone _ ha
  · cases h
    exact .refl u

theorem halUartStartTx_leaves {u : Port σ} (hu : u.Respects P) :
    Leaves P u u.halUartStartTx := by
  rw [halUartStartTx]
  split
  · split
    next sz v hfill =>
      have hv := fillTxBuf_leaves hu hfill
      split
      · exact hv.trans (writeStaged_leaves v sz)
      · exact hv
    next => exact .refl u
  · exact .refl u

theorem dataRegisterEmpty_leaves (u : Port σ) :
    Leaves P u { u with inst := u.inst.dataRegisterEmpty u.txdata } := by
  refine ⟨rfl, ?_, rfl, rfl, id⟩
  simp only [UsartModule.dataRegisterEmpty]
  split <;> rfl

theorem usartInterruptHandler_leaves {u u' : Port σ} (hu : u.Respects P)
    (h : u.usartInterruptHandler = some u') : Leaves P u u' := by
  have hv : Leaves P u (if u.inst.hw.dre && u.inst.hw.intenDre then
      { u with inst := u.inst.dataRegisterEmpty u.txdata } else u) := by
    split
    · exact dataRegisterEmpty_leaves u
    · exact .refl u
  rw [usartInterruptHandler] at h
  generalize (if u.inst.hw.dre && u.inst.hw.intenDre then
      { u with inst := u.inst.dataRegisterEmpty u.txdata } else u) = v at h hv
  split at h
  · rw [transmitComplete] at h
    split at h
    · refine hv.trans (Leaves.trans ?_ (usartCallbackTxdone_leaves ?_ h))
      · exact ⟨rfl, rfl, rfl, rfl, id⟩
      · exact ⟨(hv.respects hu).txFunc, (hv.respects hu).txDone⟩
    · cases h
      exact hv.trans ⟨rfl, rfl, rfl, rfl, id⟩
  · cases h
    exact hv

end HalUart.Port

namespace Esp.Link

open HalUart Run

/-! ## The system -/

/-- `e_rx` and `e_tx`. -/
structure Rings where
  eRx : RingBuf
  eTx : RingBuf
  /-- The bytes that found `e_rx` full.  For the statements only. -/
  refused : Nat

/-- `espduino_uart_tx`. -/
def espduinoUartTx (r : Rings) : Int × Rings :=
  let (val, eTx) := Transmit.espduinoUartTx r.eTx
  (val, { r with eTx := eTx })

/-- `espduino_uart_rx`.  What it returns goes nowhere. -/
def espduinoUartRx (r : Rings) (byte : UInt8) : Rings :=
  let (rc, eRx) := ringbufPut r.eRx byte
  { r with eRx := eRx, refused := if rc ≠ 0 then r.refused + 1 else r.refused }

/-- Where the task is. -/
inductive Task where
  /-- Outside `esp_process`. -/
  | outside
  /-- In front of `esp_uart_available`. -/
  | available
  /-- In front of `esp_uart_read`. -/
  | read
  /-- In front of the switch. -/
  | handle (value : UInt8)
deriving DecidableEq

structure Station where
  /-- The UART, whose `u_func_arg` is `esp`. -/
  uart : Duplex Rings
  esp : Espduino
  task : Task
  /-- The characters that came over the wire, the oldest first. -/
  arrived : List UInt8
  /-- The characters that found DATA full. -/
  overrun : Nat
  /-- The values the switch has had, the oldest first. -/
  handled : List UInt8

inductive Event where
  /-- A character arrives. -/
  | arrive (value : UInt8) (ferr perr : Bool)
  | irq
  /-- DATA moves on to the shift register. -/
  | load
  | shiftOut
  /-- A byte of a request is put into `e_tx`, or finds it full. -/
  | txPut (data : UInt8)
  | txStart
  /-- `esp_process` is called. -/
  | process
  /-- `esp_process` goes on. -/
  | turn
  /-- `esp_wait_for`, or the start of a request. -/
  | waitFor (cmd : UInt16) (cb : UInt32)
  /-- `e_is_return = 0`, before a wait. -/
  | clearReturn
  /-- The memory behind `e_protobuf` is written. -/
  | writeBehind (behind : Nat → UInt8)

namespace Station

/-- `e_rx`. -/
def eRx (s : Station) : RingBuf := s.uart.port.uFuncArg.eRx

def setRings (s : Station) (r : Rings) : Station :=
  { s with uart := { s.uart with port := { s.uart.port with uFuncArg := r } } }

def setPort (s : Station) (port : Port Rings) : Station :=
  { s with uart := { s.uart with port := port } }

/-- `esp_uart_read`. -/
def espUartRead (s : Station) : UInt8 × Station :=
  let (rc, data, eRx) := ringbufGet s.eRx
  (if rc ≠ 0 then 0 else data.getD 0, s.setRings { s.uart.port.uFuncArg with eRx := eRx })

/-- One step in the loop of `esp_process`. -/
def turn (s : Station) : Option Station :=
  match s.task with
  | .outside => none
  | .available => some { s with task := if s.eRx.fillCnt ≠ 0 then .read else .outside }
  | .read =>
      let (value, s) := s.espUartRead
      some { s with task := .handle value }
  | .handle value =>
      some { s with
        esp := (espProcessByte s.esp value).1
        task := .available
        handled := s.handled ++ [value] }

/-- A character arrives, and is lost when DATA is full. -/
def arrive (s : Station) (value : UInt8) (ferr perr : Bool) : Station :=
  { s with
    uart := { s.uart with
      rx := { s.uart.rx with hw := s.uart.rx.hw.arrive value.toUInt16 ferr perr } }
    arrived := s.arrived ++ [value]
    overrun := if s.uart.rx.hw.data.length < 2 then s.overrun else s.overrun + 1 }

end Station

/-- One step.  The functions other than `esp_process` are called outside it. -/
def step (s : Station) : Event → Option Station
  | .arrive value ferr perr => some (s.arrive value ferr perr)
  | .irq => s.uart.usartInterruptHandler.map fun uart => { s with uart := uart }
  | .load => s.uart.port.load.map s.setPort
  | .shiftOut => s.uart.port.shiftOut.map s.setPort
  | .txPut data =>
      if s.task = .outside then
        let r := s.uart.port.uFuncArg
        some (s.setRings { r with eTx := (ringbufPut r.eTx data).2 })
      else none
  | .txStart =>
      if s.task = .outside then some (s.setPort s.uart.port.halUartStartTx) else none
  | .process => if s.task = .outside then some { s with task := .available } else none
  | .turn => s.turn
  | .waitFor cmd cb =>
      if s.task = .outside then some { s with esp := espWaitFor s.esp cmd cb } else none
  | .clearReturn =>
      if s.task = .outside then some { s with esp := { s.esp with eIsReturn := false } } else none
  | .writeBehind behind =>
      some { s with esp := { s.esp with eProto := writeBehind behind s.esp.eProto } }

/-- `sizeof(e_rx_buf)`. -/
def rxBufSize : Int := 128

/-- `espduino_init` on a port `u` that has its configuration, with what the memory holds. -/
def espduinoInit (u : Duplex Rings) (rxBuf txBuf behind : Nat → UInt8) : Station :=
  let zero (buf : Nat → UInt8) : RingBuf := ⟨buf, 0, 0, 0, 0⟩
  let u := (u.halUartInitCbs (some espduinoUartTx) none (some espduinoUartRx)
    ⟨zero rxBuf, zero txBuf, 0⟩).2
  let u := (u.halUartConfig Duplex.config8n1 .ok).2
  let rings : Rings :=
    ⟨(ringbufInit (zero rxBuf) rxBuf rxBufSize).2,
      (ringbufInit (zero txBuf) txBuf Transmit.txBufSize).2, 0⟩
  { uart := { u with port := { u.port with uFuncArg := rings } }
    esp := Esp.espduinoInit behind
    task := .outside
    arrived := []
    overrun := 0
    handled := [] }

/-! ## What every state keeps -/

/-- The byte that the task holds. -/
def Task.inHand : Task → List UInt8
  | .handle value => [value]
  | _ => []

/-- What is on its way from DATA to the switch, behind what the switch has had. -/
def Station.line (s : Station) : List UInt8 :=
  s.handled ++ s.task.inHand ++ s.eRx.contents ++ s.uart.rx.hw.data.map UInt16.toUInt8

/-- The read job of one character is there, and its interrupt is enabled. -/
structure Armed (u : Duplex Rings) : Prop where
  uOpen : u.port.uOpen = true
  bits8 : u.port.inst.characterSize = .bits8
  uRxFunc : u.uRxFunc = some espduinoUartRx
  callbackReg : u.rx.callbackReg = true
  callbackEnable : u.rx.callbackEnable = true
  remaining : u.rx.remainingRxBufferLength = 1
  bufferPtr : u.rx.rxBufferPtr = 0
  intenRxc : u.rx.hw.intenRxc = true

structure Inv (behind : Nat → UInt8) (s : Station) : Prop where
  armed : Armed s.uart
  uTxFunc : s.uart.port.uTxFunc = some espduinoUartTx
  uTxDone : s.uart.port.uTxDone = none
  ring : s.eRx.WF
  size : s.eRx.size = rxBufSize
  /-- The characters in DATA have eight bits. -/
  eight : ∀ c ∈ s.uart.rx.hw.data, ∃ value : UInt8, c = value.toUInt16
  /-- What has not been lost is in its place, in order. -/
  order : s.line.Sublist s.arrived
  lost : s.arrived.length = s.line.length + s.overrun + s.uart.port.uFuncArg.refused
  /-- The task reads only where there is something to read. -/
  reads : s.task = .read → s.eRx.contents ≠ []
  session : ∃ es, run sessionStep (Session.init behind) es = some ⟨s.esp, s.handled⟩

/-- The transmitter has its own ring. -/
theorem Inv.respects {behind : Nat → UInt8} {s : Station} (hs : Inv behind s) :
    s.uart.port.Respects fun r =>
      r.eRx = s.eRx ∧ r.refused = s.uart.port.uFuncArg.refused where
  txFunc f hf a ha := by
    obtain rfl := Option.some.inj (hs.uTxFunc.symm.trans hf)
    exact ha
  txDone f hf := by
    rw [hs.uTxDone] at hf
    cases hf

theorem Inv.setPort {behind : Nat → UInt8} {s : Station} (hs : Inv behind s) {port : Port Rings}
    (h : Port.Leaves (fun r => r.eRx = s.eRx ∧ r.refused = s.uart.port.uFuncArg.refused)
      s.uart.port port) : Inv behind (s.setPort port) := by
  obtain ⟨hrx, hrefused⟩ := h.arg ⟨rfl, rfl⟩
  have heRx : (s.setPort port).eRx = s.eRx := hrx
  have hline : (s.setPort port).line = s.line := by rw [Station.line, heRx]; rfl
  exact
    { armed :=
        { hs.armed with
          uOpen := h.uOpen.trans hs.armed.uOpen
          bits8 := h.characterSize.trans hs.armed.bits8 }
      uTxFunc := h.uTxFunc.trans hs.uTxFunc
      uTxDone := h.uTxDone.trans hs.uTxDone
      ring := heRx ▸ hs.ring
      size := heRx ▸ hs.size
      eight := hs.eight
      order := hline ▸ hs.order
      lost := by
        rw [hline]
        exact hs.lost.trans (congrArg _ hrefused.symm)
      reads := heRx ▸ hs.reads
      session := hs.session }

/-! ### A character arrives -/

theorem Inv.arrive {behind : Nat → UInt8} {s : Station} (hs : Inv behind s) (value : UInt8)
    (ferr perr : Bool) : Inv behind (s.arrive value ferr perr) := by
  have hinten : (s.uart.rx.hw.arrive value.toUInt16 ferr perr).intenRxc = true := by
    rw [Receiver.arrive]
    split
    · exact hs.armed.intenRxc
    · exact hs.armed.intenRxc
  have harmed : Armed (s.arrive value ferr perr).uart := { hs.armed with intenRxc := hinten }
  have hlost := hs.lost
  cases Nat.lt_or_ge s.uart.rx.hw.data.length 2 with
  | inl hroom =>
    have hdata : (s.uart.rx.hw.arrive value.toUInt16 ferr perr).data =
        s.uart.rx.hw.data ++ [value.toUInt16] := by
      rw [Receiver.arrive, if_pos hroom]
    have hline : (s.arrive value ferr perr).line = s.line ++ [value] := by
      simp only [Station.line, Station.arrive, Station.eRx, hdata, List.map_append,
        List.append_assoc]
      simp
    refine
      { armed := harmed
        uTxFunc := hs.uTxFunc
        uTxDone := hs.uTxDone
        ring := hs.ring
        size := hs.size
        eight := fun c hc => ?_
        order := ?_
        lost := ?_
        reads := hs.reads
        session := hs.session }
    · replace hc := List.mem_append.mp (hdata ▸ hc)
      rcases hc with hc | hc
      · exact hs.eight c hc
      · exact ⟨value, List.mem_singleton.mp hc⟩
    · rw [hline]
      exact hs.order.append (List.Sublist.refl [value])
    · rw [hline]
      simp only [Station.arrive, List.length_append, List.length_singleton, if_pos hroom]
      omega
  | inr hfull =>
    have hdata : (s.uart.rx.hw.arrive value.toUInt16 ferr perr).data = s.uart.rx.hw.data := by
      rw [Receiver.arrive, if_neg (Nat.not_lt.mpr hfull)]
    have hline : (s.arrive value ferr perr).line = s.line := by
      simp only [Station.line, Station.arrive, Station.eRx, hdata]
    refine
      { armed := harmed
        uTxFunc := hs.uTxFunc
        uTxDone := hs.uTxDone
        ring := hs.ring
        size := hs.size
        eight := fun c hc => hs.eight c (hdata ▸ hc)
        order := ?_
        lost := ?_
        reads := hs.reads
        session := hs.session }
    · rw [hline]
      exact hs.order.trans (List.sublist_append_left _ _)
    · rw [hline]
      simp only [Station.arrive, List.length_append, List.length_singleton,
        if_neg (Nat.not_lt.mpr hfull)]
      omega

/-! ### A character is stored -/

/-- The character that is first in DATA goes to the callback, and the next job is started. -/
theorem receiveComplete_eq {u : Duplex Rings} (hu : Armed u) {value : UInt8} {rest : List UInt16}
    (hdata : u.rx.hw.data = value.toUInt16 :: rest) (herror : u.rx.hw.errorStatus = none) :
    u.receiveComplete true =
      { u with
        port := { u.port with uFuncArg := espduinoUartRx u.port.uFuncArg value }
        rxdata := Function.update u.rxdata 0 value
        rx := { u.rx with
          hw := { u.rx.hw with data := rest }
          rxStatus := .busy
          jobs := u.rx.jobs + 1 } } := by
  have hbits : u.port.inst.characterSize ≠ .bits9 := by
    rw [hu.bits8]
    decide
  have hmask : value.toUInt16 &&& dataMask = value.toUInt16 := by
    rw [UInt16.and_comm]
    exact Transmit.dataMask_and value
  have hpos : 0 < u.rx.remainingRxBufferLength := by
    rw [hu.remaining]
    exact Nat.one_pos
  have hstore : u.store value.toUInt16 = Function.update u.rxdata 0 value := by
    rw [Duplex.store, if_neg hbits, hu.bufferPtr]
    simp
  rw [Duplex.receiveComplete, if_pos hpos, herror]
  simp only [hdata, List.headD_cons, List.tail_cons, hmask, hstore, if_true,
    Duplex.usartCallbackRx, if_pos hu.uOpen, hu.uRxFunc, Function.update_self,
    RxModule.usartReadJob, hu.remaining, Nat.sub_self, Nat.lt_irrefl, if_false]
  rw [← hu.bufferPtr, ← hu.remaining, ← hu.intenRxc]

/-- An error is cleared, and the character waits for the next interrupt. -/
theorem receiveComplete_error {u : Duplex Rings} (hu : Armed u) {status : RxStatus}
    (herror : u.rx.hw.errorStatus = some status) (called : Bool) :
    u.receiveComplete called =
      { u with rx := { u.rx with rxStatus := status, hw := u.rx.hw.clearStatus } } := by
  have hpos : 0 < u.rx.remainingRxBufferLength := by
    rw [hu.remaining]
    exact Nat.one_pos
  rw [Duplex.receiveComplete, if_pos hpos, herror]

/-- RXC says that there is a character. -/
theorem Inv.head {behind : Nat → UInt8} {s : Station} (hs : Inv behind s)
    (hrxc : s.uart.rx.hw.rxc = true) :
    ∃ (value : UInt8) (rest : List UInt16), s.uart.rx.hw.data = value.toUInt16 :: rest := by
  obtain ⟨c, rest, hdata⟩ : ∃ c rest, s.uart.rx.hw.data = c :: rest := by
    refine List.exists_cons_of_ne_nil fun hnil => ?_
    rw [Receiver.rxc, hnil] at hrxc
    exact nomatch hrxc
  obtain ⟨value, rfl⟩ := hs.eight c (hdata ▸ List.mem_cons_self)
  exact ⟨value, rest, hdata⟩

theorem Inv.receiveComplete {behind : Nat → UInt8} {s : Station} (hs : Inv behind s)
    (hrxc : s.uart.rx.hw.rxc = true) :
    Inv behind { s with uart := s.uart.receiveComplete true } := by
  cases herror : s.uart.rx.hw.errorStatus with
  | some status =>
    rw [receiveComplete_error hs.armed herror]
    exact
      { armed := { hs.armed with }
        uTxFunc := hs.uTxFunc
        uTxDone := hs.uTxDone
        ring := hs.ring
        size := hs.size
        eight := hs.eight
        order := hs.order
        lost := hs.lost
        reads := hs.reads
        session := hs.session }
  | none =>
    obtain ⟨value, rest, hdata⟩ := hs.head hrxc
    have height : ∀ c ∈ rest, ∃ value : UInt8, c = value.toUInt16 :=
      fun c hc => hs.eight c (hdata ▸ List.mem_cons_of_mem _ hc)
    have hlow : value.toUInt16.toUInt8 = value := by simp
    have hline : s.line = s.handled ++ s.task.inHand ++ s.eRx.contents ++
        value :: rest.map UInt16.toUInt8 := by
      rw [Station.line, hdata, List.map_cons, hlow]
    have horder := hs.order
    have hlost := hs.lost
    rw [hline] at horder hlost
    rw [receiveComplete_eq hs.armed hdata herror]
    cases Int.lt_or_le s.eRx.fillCnt s.eRx.size with
    | inl hroom =>
      obtain ⟨hrc, hwf, hcontents, hsize⟩ := RingBuf.ringbufPut_room hs.ring hroom value
      have hrings : espduinoUartRx s.uart.port.uFuncArg value =
          { s.uart.port.uFuncArg with eRx := (ringbufPut s.eRx value).2 } := by
        simp only [espduinoUartRx, Station.eRx] at hrc ⊢
        rw [if_neg (not_not.mpr hrc)]
      rw [hrings]
      refine
        { armed := { hs.armed with }
          uTxFunc := hs.uTxFunc
          uTxDone := hs.uTxDone
          ring := hwf
          size := hsize.trans hs.size
          eight := height
          order := ?_
          lost := ?_
          reads := fun hread hnil => ?_
          session := hs.session }
      · simp only [Station.line, Station.eRx] at hcontents horder ⊢
        rw [hcontents]
        simpa only [List.append_assoc, List.cons_append, List.nil_append] using horder
      · simp only [Station.line, Station.eRx] at hcontents hlost ⊢
        rw [hcontents]
        simp only [List.length_append, List.length_cons, List.length_nil] at hlost ⊢
        omega
      · simp only [Station.eRx] at hcontents hnil
        rw [hcontents] at hnil
        exact List.append_ne_nil_of_right_ne_nil _ (List.cons_ne_nil _ _) hnil
    | inr hfull =>
      have hrings : espduinoUartRx s.uart.port.uFuncArg value =
          { s.uart.port.uFuncArg with refused := s.uart.port.uFuncArg.refused + 1 } := by
        have hput := RingBuf.ringbufPut_full hfull value
        simp only [espduinoUartRx, Station.eRx] at hput ⊢
        rw [hput]
        rfl
      rw [hrings]
      refine
        { armed := { hs.armed with }
          uTxFunc := hs.uTxFunc
          uTxDone := hs.uTxDone
          ring := hs.ring
          size := hs.size
          eight := height
          order := ?_
          lost := ?_
          reads := hs.reads
          session := hs.session }
      · refine List.Sublist.trans ?_ horder
        exact List.Sublist.append (List.Sublist.refl _) (List.sublist_cons_self _ _)
      · simp only [Station.line, Station.eRx, List.length_append, List.length_cons] at hlost ⊢
        omega

theorem Inv.irq {behind : Nat → UInt8} {s : Station} (hs : Inv behind s) {uart : Duplex Rings}
    (h : s.uart.usartInterruptHandler = some uart) : Inv behind { s with uart := uart } := by
  rw [Duplex.usartInterruptHandler] at h
  obtain ⟨port, hport, rfl⟩ := Option.map_eq_some_iff.mp h
  have hleft := hs.setPort (Port.usartInterruptHandler_leaves hs.respects hport)
  dsimp only
  split
  · rename_i hrxc
    rw [hs.armed.callbackReg, hs.armed.callbackEnable]
    exact hleft.receiveComplete (Bool.and_eq_true_iff.mp hrxc).1
  · exact hleft

/-! ### The task -/

/-- The receiver of the sequential session takes one more event. -/
theorem session_snoc {behind : Nat → UInt8} {s t : Session} {e : Esp.Event}
    (h : ∃ es, run sessionStep (Session.init behind) es = some s)
    (hstep : sessionStep s e = some t) :
    ∃ es, run sessionStep (Session.init behind) es = some t := by
  obtain ⟨es, hes⟩ := h
  exact ⟨es ++ [e], run_concat hes hstep⟩

/-- A byte is taken out of the ring, and not made up. -/
theorem Inv.espUartRead {behind : Nat → UInt8} {s : Station} (hs : Inv behind s)
    (hread : s.task = .read) :
    Inv behind { s.espUartRead.2 with task := .handle s.espUartRead.1 } := by
  obtain ⟨value, rest, hcons⟩ := List.exists_cons_of_ne_nil (hs.reads hread)
  obtain ⟨r, hget, hwf, hcontents, hsize⟩ := RingBuf.ringbufGet_cons hs.ring hcons
  have hresult : s.espUartRead =
      (value, s.setRings { s.uart.port.uFuncArg with eRx := r }) := by
    rw [Station.espUartRead, hget]
    rfl
  have hline : s.line = s.handled ++ [value] ++ rest ++
      s.uart.rx.hw.data.map UInt16.toUInt8 := by
    rw [Station.line, hread, hcons]
    simp [Task.inHand]
  have hnext : ({ s.setRings { s.uart.port.uFuncArg with eRx := r } with
      task := .handle value } : Station).line = s.line := by
    rw [hline]
    simp only [Station.line, Station.eRx, Station.setRings, Task.inHand, hcontents]
  rw [hresult]
  exact
    { armed := { hs.armed with }
      uTxFunc := hs.uTxFunc
      uTxDone := hs.uTxDone
      ring := hwf
      size := hsize.trans hs.size
      eight := hs.eight
      order := hnext ▸ hs.order
      lost := by
        rw [hnext]
        exact hs.lost
      reads := nofun
      session := hs.session }

/-- The task goes on, with nothing more or less in hand. -/
theorem Inv.setTask {behind : Nat → UInt8} {s : Station} (hs : Inv behind s) {task : Task}
    (hhand : task.inHand = s.task.inHand) (hreads : task = .read → s.eRx.contents ≠ []) :
    Inv behind { s with task := task } := by
  have hline : ({ s with task := task } : Station).line = s.line := by
    rw [Station.line, hhand]
    rfl
  exact
    { armed := hs.armed
      uTxFunc := hs.uTxFunc
      uTxDone := hs.uTxDone
      ring := hs.ring
      size := hs.size
      eight := hs.eight
      order := hline ▸ hs.order
      lost := by
        rw [hline]
        exact hs.lost
      reads := hreads
      session := hs.session }

theorem Inv.turn {behind : Nat → UInt8} {s t : Station} (hs : Inv behind s)
    (h : s.turn = some t) : Inv behind t := by
  cases htask : s.task with
  | outside =>
    rw [Station.turn, htask] at h
    cases h
  | available =>
    rw [Station.turn, htask] at h
    cases h
    refine hs.setTask ?_ fun hread hnil => ?_
    · rw [htask]
      split
      · rfl
      · rfl
    · have hlen := hs.ring.length_contents
      rw [hnil, List.length_nil] at hlen
      have hzero : s.eRx.fillCnt = 0 := hlen.symm
      rw [if_neg (not_not.mpr hzero)] at hread
      cases hread
  | read =>
    rw [Station.turn, htask] at h
    cases h
    exact hs.espUartRead htask
  | handle value =>
    rw [Station.turn, htask] at h
    cases h
    have hline : ({ s with
        esp := (espProcessByte s.esp value).1
        task := .available
        handled := s.handled ++ [value] } : Station).line = s.line := by
      simp [Station.line, htask, Task.inHand, Station.eRx]
    exact
      { armed := hs.armed
        uTxFunc := hs.uTxFunc
        uTxDone := hs.uTxDone
        ring := hs.ring
        size := hs.size
        eight := hs.eight
        order := hline ▸ hs.order
        lost := by
          rw [hline]
          exact hs.lost
        reads := nofun
        session := by
          refine session_snoc hs.session (e := .process [value]) ?_
          rw [sessionStep, espProcess_singleton] }

/-- The task does something to the parser outside `esp_process`. -/
theorem Inv.setEsp {behind : Nat → UInt8} {s : Station} (hs : Inv behind s) {esp : Espduino}
    {e : Esp.Event} (h : sessionStep ⟨s.esp, s.handled⟩ e = some ⟨esp, s.handled⟩) :
    Inv behind { s with esp := esp } where
  armed := hs.armed
  uTxFunc := hs.uTxFunc
  uTxDone := hs.uTxDone
  ring := hs.ring
  size := hs.size
  eight := hs.eight
  order := hs.order
  lost := hs.lost
  reads := hs.reads
  session := session_snoc hs.session h

theorem Inv.step {behind : Nat → UInt8} {s t : Station} (hs : Inv behind s) {e : Event}
    (h : step s e = some t) : Inv behind t := by
  cases e with
  | arrive value ferr perr =>
    cases h
    exact hs.arrive value ferr perr
  | irq =>
    obtain ⟨uart, huart, rfl⟩ := Option.map_eq_some_iff.mp h
    exact hs.irq huart
  | load =>
    obtain ⟨port, hport, rfl⟩ := Option.map_eq_some_iff.mp h
    obtain ⟨hw, -, rfl⟩ := Option.map_eq_some_iff.mp hport
    exact hs.setPort ⟨rfl, rfl, rfl, rfl, id⟩
  | shiftOut =>
    obtain ⟨port, hport, rfl⟩ := Option.map_eq_some_iff.mp h
    obtain ⟨hw, -, rfl⟩ := Option.map_eq_some_iff.mp hport
    exact hs.setPort ⟨rfl, rfl, rfl, rfl, id⟩
  | txPut data =>
    obtain ⟨-, hput⟩ := Option.ite_none_right_eq_some.mp h
    cases hput
    exact hs.setPort ⟨rfl, rfl, rfl, rfl, id⟩
  | txStart =>
    obtain ⟨-, hstart⟩ := Option.ite_none_right_eq_some.mp h
    cases hstart
    exact hs.setPort (Port.halUartStartTx_leaves hs.respects)
  | process =>
    obtain ⟨houtside, hprocess⟩ := Option.ite_none_right_eq_some.mp h
    cases hprocess
    exact hs.setTask (by rw [houtside]; rfl) nofun
  | turn => exact hs.turn h
  | waitFor cmd cb =>
    obtain ⟨-, hwait⟩ := Option.ite_none_right_eq_some.mp h
    cases hwait
    exact hs.setEsp (e := .waitFor cmd cb) rfl
  | clearReturn =>
    obtain ⟨-, hclear⟩ := Option.ite_none_right_eq_some.mp h
    cases hclear
    exact hs.setEsp (e := .clearReturn) rfl
  | writeBehind behind' =>
    cases h
    exact hs.setEsp (e := .writeBehind behind') rfl

/-- The station behind `espduino_init`, on a port that was closed. -/
theorem Inv.start {u : Duplex Rings} (hclosed : u.port.uOpen = false) (hcfg : u.uCfg = true)
    (rxBuf txBuf behind : Nat → UInt8) : Inv behind (espduinoInit u rxBuf txBuf behind) := by
  obtain ⟨hwf, hcontents⟩ := RingBuf.ringbufInit_wf ⟨rxBuf, 0, 0, 0, 0⟩ rxBuf
    (show (2 : Int) ≤ rxBufSize by decide)
  have hcbs : u.halUartInitCbs (some espduinoUartTx) none (some espduinoUartRx)
      ⟨⟨rxBuf, 0, 0, 0, 0⟩, ⟨txBuf, 0, 0, 0, 0⟩, 0⟩ =
        (0, { u with
          port := { u.port with
            uTxFunc := some espduinoUartTx
            uTxDone := none
            uFuncArg := ⟨⟨rxBuf, 0, 0, 0, 0⟩, ⟨txBuf, 0, 0, 0, 0⟩, 0⟩ }
          uRxFunc := some espduinoUartRx }) := by
    rw [Duplex.halUartInitCbs, hclosed]
    rfl
  rw [espduinoInit, hcbs]
  simp only [Duplex.halUartConfig, hclosed, hcfg, Bool.false_eq_true, Bool.not_true, if_false]
  exact
    { armed := ⟨rfl, rfl, rfl, rfl, rfl, rfl, rfl, rfl⟩
      uTxFunc := rfl
      uTxDone := rfl
      ring := hwf
      size := rfl
      eight := fun c hc => absurd hc List.not_mem_nil
      order := by
        simp only [Station.line, Station.eRx, Task.inHand]
        rw [hcontents]
        exact List.Sublist.refl []
      lost := by
        simp only [Station.line, Station.eRx, Task.inHand]
        rw [hcontents]
        rfl
      reads := by
        intro hread
        cases hread
      session := ⟨[], rfl⟩ }

/-! ### Where characters are lost -/

theorem espduinoUartRx_refused {r : Rings} {byte : UInt8}
    (h : (espduinoUartRx r byte).refused ≠ r.refused) : r.eRx.size ≤ r.eRx.fillCnt := by
  refine Int.not_lt.mp fun hroom => h ?_
  have hrc := (RingBuf.ringbufPut_eq_zero_iff r.eRx byte).mpr hroom
  exact if_neg (not_not.mpr hrc)

theorem Inv.arrive_overrun {s : Station} {value : UInt8} {ferr perr : Bool}
    (h : (s.arrive value ferr perr).overrun ≠ s.overrun) : 2 ≤ s.uart.rx.hw.data.length := by
  refine Nat.not_lt.mp fun hroom => h ?_
  exact if_pos hroom

theorem Inv.irq_refused {behind : Nat → UInt8} {s : Station} (hs : Inv behind s)
    {uart : Duplex Rings} (h : s.uart.usartInterruptHandler = some uart)
    (hrefused : uart.port.uFuncArg.refused ≠ s.uart.port.uFuncArg.refused) :
    s.eRx.size ≤ s.eRx.fillCnt := by
  rw [Duplex.usartInterruptHandler] at h
  obtain ⟨port, hport, rfl⟩ := Option.map_eq_some_iff.mp h
  have hleaves := Port.usartInterruptHandler_leaves hs.respects hport
  obtain ⟨hrx, hsame⟩ := hleaves.arg ⟨rfl, rfl⟩
  have hleft := hs.setPort hleaves
  dsimp only at hrefused
  split at hrefused
  · rename_i hrxc
    rw [hs.armed.callbackReg, hs.armed.callbackEnable] at hrefused
    cases herror : s.uart.rx.hw.errorStatus with
    | some status =>
      have hstays := receiveComplete_error hleft.armed herror true
      simp only [Station.setPort] at hstays
      rw [Bool.and_true, hstays] at hrefused
      exact absurd hsame hrefused
    | none =>
      obtain ⟨value, rest, hdata⟩ := hleft.head (Bool.and_eq_true_iff.mp hrxc).1
      have hstored := receiveComplete_eq hleft.armed hdata herror
      simp only [Station.setPort] at hstored
      rw [Bool.and_true, hstored] at hrefused
      rw [← hsame] at hrefused
      have hfull := espduinoUartRx_refused hrefused
      rwa [hrx] at hfull
  · exact absurd hsame hrefused

/-- The task loses nothing. -/
theorem turn_lost {s t : Station} (h : s.turn = some t) :
    t.overrun = s.overrun ∧
      t.uart.port.uFuncArg.refused = s.uart.port.uFuncArg.refused := by
  cases htask : s.task with
  | outside =>
    rw [Station.turn, htask] at h
    cases h
  | available =>
    rw [Station.turn, htask] at h
    cases h
    exact ⟨rfl, rfl⟩
  | read =>
    rw [Station.turn, htask] at h
    cases h
    exact ⟨rfl, rfl⟩
  | handle value =>
    rw [Station.turn, htask] at h
    cases h
    exact ⟨rfl, rfl⟩

/-- A character is lost in one of two places, and there only where there is no room. -/
theorem Inv.step_lost {behind : Nat → UInt8} {s t : Station} (hs : Inv behind s) {e : Event}
    (h : Link.step s e = some t) :
    (t.overrun ≠ s.overrun → 2 ≤ s.uart.rx.hw.data.length) ∧
      (t.uart.port.uFuncArg.refused ≠ s.uart.port.uFuncArg.refused →
        s.eRx.size ≤ s.eRx.fillCnt) := by
  cases e with
  | arrive value ferr perr =>
    cases h
    exact ⟨Inv.arrive_overrun, absurd rfl⟩
  | irq =>
    obtain ⟨uart, huart, rfl⟩ := Option.map_eq_some_iff.mp h
    exact ⟨absurd rfl, hs.irq_refused huart⟩
  | load =>
    obtain ⟨port, hport, rfl⟩ := Option.map_eq_some_iff.mp h
    obtain ⟨hw, -, rfl⟩ := Option.map_eq_some_iff.mp hport
    exact ⟨absurd rfl, absurd rfl⟩
  | shiftOut =>
    obtain ⟨port, hport, rfl⟩ := Option.map_eq_some_iff.mp h
    obtain ⟨hw, -, rfl⟩ := Option.map_eq_some_iff.mp hport
    exact ⟨absurd rfl, absurd rfl⟩
  | txPut data =>
    obtain ⟨-, hput⟩ := Option.ite_none_right_eq_some.mp h
    cases hput
    exact ⟨absurd rfl, absurd rfl⟩
  | txStart =>
    obtain ⟨-, hstart⟩ := Option.ite_none_right_eq_some.mp h
    cases hstart
    exact ⟨absurd rfl, absurd ((Port.halUartStartTx_leaves hs.respects).arg ⟨rfl, rfl⟩).2⟩
  | turn =>
    obtain ⟨hoverrun, hrefused⟩ := turn_lost h
    exact ⟨absurd hoverrun, absurd hrefused⟩
  | process =>
    obtain ⟨-, hprocess⟩ := Option.ite_none_right_eq_some.mp h
    cases hprocess
    exact ⟨absurd rfl, absurd rfl⟩
  | waitFor cmd cb =>
    obtain ⟨-, hwait⟩ := Option.ite_none_right_eq_some.mp h
    cases hwait
    exact ⟨absurd rfl, absurd rfl⟩
  | clearReturn =>
    obtain ⟨-, hclear⟩ := Option.ite_none_right_eq_some.mp h
    cases hclear
    exact ⟨absurd rfl, absurd rfl⟩
  | writeBehind behind' =>
    cases h
    exact ⟨absurd rfl, absurd rfl⟩

/-! ## The receive path -/

/-- What is to hold in every state. -/
structure Kept (behind : Nat → UInt8) (s : Station) : Prop where
  /-- What the switch has had and what waits for it came over the wire, in that order, and the
  rest of what came was lost in one of the two places. -/
  order : s.line.Sublist s.arrived
  lost : s.arrived.length = s.line.length + s.overrun + s.uart.port.uFuncArg.refused
  intact : s.overrun = 0 → s.uart.port.uFuncArg.refused = 0 → s.line = s.arrived
  /-- A character is lost where DATA or the ring is full. -/
  overrun : ∀ e t, step s e = some t → t.overrun ≠ s.overrun → 2 ≤ s.uart.rx.hw.data.length
  refused : ∀ e t, step s e = some t →
    t.uart.port.uFuncArg.refused ≠ s.uart.port.uFuncArg.refused → s.eRx.contents.length = 128
  /-- Reception goes on. -/
  armed : Armed s.uart
  /-- The parser is where calls of `esp_process` with those bytes leave it. -/
  session : ∃ es, run sessionStep (Session.init behind) es = some ⟨s.esp, s.handled⟩

theorem Inv.kept {behind : Nat → UInt8} {s : Station} (hs : Inv behind s) : Kept behind s where
  order := hs.order
  lost := hs.lost
  intact := by
    intro hoverrun hrefused
    refine hs.order.eq_of_length ?_
    have hlost := hs.lost
    omega
  overrun := fun _ _ h => (hs.step_lost h).1
  refused := by
    intro e t h hmore
    have hfull := (hs.step_lost h).2 hmore
    have hle := hs.ring.filled.2
    have hlen := hs.ring.length_contents
    rw [hs.size] at hfull hle
    have hsize : rxBufSize = 128 := rfl
    omega
  armed := hs.armed
  session := hs.session

/-- In every run, interrupts and all, the parser has had the characters that came over the
wire, in order and each once, but for those that found DATA or `e_rx` full. -/
theorem received_in_order {u : Duplex Rings} (hclosed : u.port.uOpen = false)
    (hcfg : u.uCfg = true) (rxBuf txBuf behind : Nat → UInt8) {es : List Event} {t : Station}
    (hrun : run step (espduinoInit u rxBuf txBuf behind) es = some t) : Kept behind t :=
  (run_invariant (fun _ _ _ hs => hs.step) (Inv.start hclosed hcfg rxBuf txBuf behind) hrun).kept

/-- A port with its configuration, before it is opened. -/
def closedPort : Duplex Rings :=
  { Duplex.zero ⟨⟨fun _ => 0, 0, 0, 0, 0⟩, ⟨fun _ => 0, 0, 0, 0, 0⟩, 0⟩ with uCfg := true }

/-- Two characters, of which the task has taken one out when the second comes. -/
def arrivals : List Event :=
  [.arrive 0x7E false false, .irq, .process, .turn, .turn, .arrive 0x02 false false, .irq, .turn]

theorem received_in_order_arrivals :
    ∃ t, run step (espduinoInit closedPort (fun _ => 0) (fun _ => 0) fun _ => 0) arrivals = some t ∧
      t.handled = [0x7E] ∧ t.eRx.contents = [0x02] ∧ Kept (fun _ => 0) t := by
  obtain ⟨t, ht⟩ : ∃ t, run step
      (espduinoInit closedPort (fun _ => 0) (fun _ => 0) fun _ => 0) arrivals = some t := ⟨_, rfl⟩
  have hkept :=
    received_in_order (u := closedPort) rfl rfl (fun _ => 0) (fun _ => 0) (fun _ => 0) ht
  cases ht
  exact ⟨_, rfl, rfl, rfl, hkept⟩

end Esp.Link
