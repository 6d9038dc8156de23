import MynewtArduinoZero.Lib.Run
import MynewtArduinoZero.Uart.Duplex

/-!
# Sessions of a UART port

A session goes from a successful `hal_uart_config` to `hal_uart_close`.  `Kept`
says what the users of a port rely on: `u_open` tells whether a session is going
on, outside sessions the port is quiet, and a new session can be opened in which
transmission works.
-/

namespace HalUart.Duplex

variable {σ : Type*}

/-! ## Counting the callbacks -/

/-- What `u_func_arg` points at, with the number of calls of the user's callbacks. -/
structure Counted (σ : Type*) where
  arg : σ
  calls : Nat
deriving DecidableEq

def Counted.txFunc (f : σ → Int × σ) (x : Counted σ) : Int × Counted σ :=
  ((f x.arg).1, ⟨(f x.arg).2, x.calls + 1⟩)

def Counted.txDone (f : σ → σ) (x : Counted σ) : Counted σ := ⟨f x.arg, x.calls + 1⟩

def Counted.rxFunc (f : σ → UInt8 → σ) (x : Counted σ) (byte : UInt8) : Counted σ :=
  ⟨f x.arg byte, x.calls + 1⟩

/-! ## The system -/

/-- The jobs that were started and the calls of user callbacks. -/
structure Activity where
  txJobs : Nat
  rxJobs : Nat
  calls : Nat
deriving DecidableEq

structure Sys (σ : Type*) where
  u : Duplex (Counted σ)
  /-- The last successful `hal_uart_config` has not been followed by `hal_uart_close`. -/
  session : Bool
  /-- The activity up to the end of the last session. -/
  mark : Activity

def Sys.init (arg : σ) : Sys σ := ⟨.zero ⟨arg, 0⟩, false, ⟨0, 0, 0⟩⟩

/-- The activity of a port so far. -/
def activity (u : Duplex (Counted σ)) : Activity :=
  ⟨u.port.inst.jobs.length, u.rx.jobs, u.port.uFuncArg.calls⟩

/-- `hal_uart_init_cbs`, with callbacks that are counted. -/
def initCounted (u : Duplex (Counted σ)) (txFunc : Option (σ → Int × σ)) (txDone : Option (σ → σ))
    (rxFunc : Option (σ → UInt8 → σ)) (arg : σ) : Int × Duplex (Counted σ) :=
  u.halUartInitCbs (txFunc.map Counted.txFunc) (txDone.map Counted.txDone)
    (rxFunc.map Counted.rxFunc) ⟨arg, u.port.uFuncArg.calls⟩

/-- What can happen. -/
inductive Event (σ : Type*) where
  | init (cfg : Bool)
  | initCbs (txFunc : Option (σ → Int × σ)) (txDone : Option (σ → σ))
      (rxFunc : Option (σ → UInt8 → σ)) (arg : σ)
  | config (c : Config) (init : UsartInit)
  | startRx
  | startTx
  | close
  /-- `_usart_interrupt_handler` runs. -/
  | irq
  /-- DATA moves on to the shift register. -/
  | load
  /-- A character goes out on the wire. -/
  | shiftOut
  /-- A character arrives. -/
  | arrive (c : UInt16) (ferr perr : Bool)

/-- The registers of the transmitter change by themselves. -/
def moveTx (u : Duplex (Counted σ)) (move : Transmitter → Option Transmitter) :
    Option (Duplex (Counted σ)) :=
  if u.enabled then
    (move u.port.inst.hw).map fun hw =>
      { u with port := { u.port with inst := { u.port.inst with hw := hw } } }
  else none

def step (s : Sys σ) : Event σ → Option (Sys σ)
  | .init cfg => some { s with u := (s.u.halUartInit cfg).2 }
  | .initCbs txFunc txDone rxFunc arg =>
      some { s with u := (initCounted s.u txFunc txDone rxFunc arg).2 }
  | .config c init =>
      let r := s.u.halUartConfig c init
      some { s with u := r.2, session := s.session || r.1 == 0 }
  | .startRx => some { s with u := s.u.halUartStartRx }
  | .startTx => some { s with u := s.u.halUartStartTx }
  | .close =>
      s.u.halUartClose.map fun u =>
        { u := u
          session := false
          mark := if s.session then activity u else s.mark }
  | .irq => if s.u.nvic then s.u.usartInterruptHandler.map fun u => { s with u := u } else none
  | .load => (moveTx s.u Transmitter.load).map fun u => { s with u := u }
  | .shiftOut => (moveTx s.u Transmitter.shiftOut).map fun u => { s with u := u }
  | .arrive c ferr perr =>
      if s.u.enabled && s.u.rx.receiverEnabled then
        some { s with
          u := { s.u with rx := { s.u.rx with hw := s.u.rx.hw.arrive c ferr perr } } }
      else none

/-! ## What the users rely on -/

/-- The port takes new callbacks and a configuration that is known, and a byte that the new
`u_tx_func` has becomes a job. -/
def Reopens (u : Duplex (Counted σ)) : Prop :=
  ∀ txFunc txDone rxFunc arg c,
    u.uCfg = true → (knownConfig c).isSome →
      let cbs := initCounted u txFunc txDone rxFunc arg
      let opened := cbs.2.halUartConfig c .ok
      cbs.1 = 0 ∧ opened.1 = 0 ∧ opened.2.port.uOpen = true ∧ opened.2.port.txOn = false ∧
        ∀ f, txFunc = some f → 0 ≤ (f arg).1 →
          opened.2.halUartStartTx.port.txOn = true ∧
            opened.2.halUartStartTx.port.inst.jobs.length = opened.2.port.inst.jobs.length + 1

/-- `u_open` tells whether there is a session; without one, nothing is started or called, and the
next one can be opened. -/
structure Kept (s : Sys σ) : Prop where
  uOpen : s.u.port.uOpen = s.session
  quiet : s.session = false → activity s.u = s.mark
  reopens : s.session = false → Reopens s.u

/-- The port is not closed while `u_open` is set. -/
def Clean (s : Sys σ) : Event σ → Prop
  | .close => s.u.port.uOpen = false
  | _ => True

instance (s : Sys σ) (e : Event σ) : Decidable (Clean s e) := by
  cases e <;> unfold Clean <;> infer_instance

/-! ## A port is opened -/

theorem length_pull_pos {τ : Type*} {f : τ → Int × τ} {arg : τ} (h : 0 ≤ (f arg).1) (n : Nat) :
    0 < (Port.pull f (n + 1) arg).1.length := by
  have hneg : ¬ (f arg).1 < 0 := Int.not_lt.mpr h
  simp [Port.pull, hneg]

/-- The first byte that a port at rest is asked to send becomes a job. -/
theorem halUartStartTx_starts {τ : Type*} {u : Port τ} {f : τ → Int × τ} (hopen : u.uOpen = true)
    (hoff : u.txOn = false) (henabled : u.inst.transmitterEnabled = true)
    (hremaining : u.inst.remainingTxBufferLength = 0) (hfunc : u.uTxFunc = some f)
    (hbyte : 0 ≤ (f u.uFuncArg).1) :
    u.halUartStartTx.txOn = true ∧
      u.halUartStartTx.inst.jobs.length = u.inst.jobs.length + 1 := by
  have hpos : 0 < (Port.pull f txBufferSize u.uFuncArg).1.length := length_pull_pos hbyte 7
  have hne : ¬ (Port.pull f txBufferSize u.uFuncArg).1.length = 0 := by omega
  have hstart : u.halUartStartTx
      = (u.filled f).writeStaged (Port.pull f txBufferSize u.uFuncArg).1.length := by
    simp [Port.halUartStartTx, hopen, hoff, Port.fillTxBuf_eq, hfunc, hpos]
  rw [hstart]
  simp [Port.writeStaged, Port.filled, UsartModule.usartWriteBufferJob, hne, henabled,
    UsartModule.usartWriteBuffer, hremaining]

/-- A successful `hal_uart_config`. -/
theorem halUartConfig_ok {u : Duplex σ} {c : Config} (hclosed : u.port.uOpen = false)
    (hcfg : u.uCfg = true) (hc : (knownConfig c).isSome) :
    (u.halUartConfig c .ok).1 = 0 ∧
      (u.halUartConfig c .ok).2.port.uOpen = true ∧
      (u.halUartConfig c .ok).2.port.txOn = u.port.txOn ∧
      (u.halUartConfig c .ok).2.port.uTxFunc = u.port.uTxFunc ∧
      (u.halUartConfig c .ok).2.port.uFuncArg = u.port.uFuncArg ∧
      (u.halUartConfig c .ok).2.port.inst.transmitterEnabled = true ∧
      (u.halUartConfig c .ok).2.port.inst.remainingTxBufferLength = 0 := by
  obtain ⟨characterSize, hsize⟩ := Option.isSome_iff_exists.mp hc
  simp [halUartConfig, hclosed, hcfg, hsize, halUartStartRx, softwareReset,
    UsartModule.configured]

theorem reopens_of_closed {u : Duplex (Counted σ)} (hclosed : u.port.uOpen = false)
    (hoff : u.port.txOn = false) : Reopens u := by
  intro txFunc txDone rxFunc arg c hcfg hc cbs opened
  have hcbs : cbs = (0, { u with
      port := { u.port with
        uTxFunc := txFunc.map Counted.txFunc
        uTxDone := txDone.map Counted.txDone
        uFuncArg := ⟨arg, u.port.uFuncArg.calls⟩ }
      uRxFunc := rxFunc.map Counted.rxFunc }) := by
    simp [cbs, initCounted, halUartInitCbs, hclosed]
  have hopened := halUartConfig_ok (u := cbs.2) (c := c) (by rw [hcbs]; exact hclosed)
    (by rw [hcbs]; exact hcfg) hc
  obtain ⟨hrc, hopen, htx, hfunc, harg, henabled, hremaining⟩ := hopened
  have htxOff : opened.2.port.txOn = false := by
    rw [htx, hcbs]
    exact hoff
  refine ⟨by rw [hcbs], hrc, hopen, htxOff, ?_⟩
  intro f hf hbyte
  refine halUartStartTx_starts (f := Counted.txFunc f) hopen htxOff henabled hremaining ?_ ?_
  · rw [hfunc, hcbs, hf]
    rfl
  · rw [harg, hcbs]
    exact hbyte

/-! ## Steps -/

theorem halUartStartTx_uOpen {τ : Type*} (u : Port τ) :
    u.halUartStartTx.uOpen = u.uOpen := by
  rw [Port.halUartStartTx, Port.fillTxBuf_eq]
  cases u.uTxFunc with
  | none => simp
  | some f =>
      simp only [Option.map_some]
      split
      · split <;> rfl
      · rfl

theorem usartCallbackTxdone_uOpen {τ : Type*} {u u' : Port τ} (h : u.usartCallbackTxdone = some u') :
    u'.uOpen = u.uOpen := by
  rw [Port.usartCallbackTxdone, Port.fillTxBuf_eq] at h
  split at h
  · cases hfunc : u.uTxFunc with
    | none =>
        rw [hfunc] at h
        cases h
    | some f =>
        rw [hfunc, Option.map_some, Option.map_some, Option.some.injEq] at h
        subst h
        dsimp only
        split <;> rfl
  · cases h
    rfl

theorem port_usartInterruptHandler_uOpen {τ : Type*} {u u' : Port τ}
    (h : u.usartInterruptHandler = some u') : u'.uOpen = u.uOpen := by
  have hdre : ∀ b : Bool,
      (if b then { u with inst := u.inst.dataRegisterEmpty u.txdata } else u).uOpen = u.uOpen := by
    intro b
    cases b <;> rfl
  rw [Port.usartInterruptHandler] at h
  split at h
  · rw [Port.transmitComplete] at h
    split at h
    · rw [usartCallbackTxdone_uOpen h]
      exact hdre _
    · cases h
      exact hdre _
  · cases h
    exact hdre _

theorem usartCallbackRx_uOpen (u : Duplex σ) : u.usartCallbackRx.port.uOpen = u.port.uOpen := by
  rw [usartCallbackRx]
  split <;> rfl

theorem receiveComplete_uOpen (u : Duplex σ) (called : Bool) :
    (u.receiveComplete called).port.uOpen = u.port.uOpen := by
  rw [receiveComplete]
  split
  · split
    · rfl
    · dsimp only
      split
      · split
        · exact usartCallbackRx_uOpen _
        · rfl
      · rfl
  · rfl

theorem usartInterruptHandler_uOpen {u u' : Duplex σ} (h : u.usartInterruptHandler = some u') :
    u'.port.uOpen = u.port.uOpen := by
  obtain ⟨port, hport, rfl⟩ := Option.map_eq_some_iff.mp h
  have hopen := port_usartInterruptHandler_uOpen hport
  split
  · exact (receiveComplete_uOpen _ _).trans hopen
  · exact hopen

/-- Without a session the port is as it was before the first one. -/
structure Inv (s : Sys σ) : Prop where
  uOpen : s.u.port.uOpen = s.session
  quiet : s.session = false → activity s.u = s.mark
  txOn : s.session = false → s.u.port.txOn = false
  nvic : s.session = false → s.u.nvic = false

theorem Inv.kept {s : Sys σ} (hs : Inv s) : Kept s where
  uOpen := hs.uOpen
  quiet := hs.quiet
  reopens := fun h => reopens_of_closed (hs.uOpen.trans h) (hs.txOn h)

/-- During a session it is enough that `u_open` stays. -/
theorem Inv.of_session {s : Sys σ} {u : Duplex (Counted σ)} (hs : Inv s) (h : s.session = true)
    (hopen : u.port.uOpen = s.u.port.uOpen) : Inv { s with u := u } where
  uOpen := hopen.trans hs.uOpen
  quiet := fun hno => by simp [h] at hno
  txOn := fun hno => by simp [h] at hno
  nvic := fun hno => by simp [h] at hno

/-- What leaves the activity, `tx_on` and the interrupts alone. -/
theorem Inv.of_same {s : Sys σ} {u : Duplex (Counted σ)} (hs : Inv s)
    (hopen : u.port.uOpen = s.u.port.uOpen) (hactivity : activity u = activity s.u)
    (htxOn : u.port.txOn = s.u.port.txOn) (hnvic : u.nvic = s.u.nvic) :
    Inv { s with u := u } where
  uOpen := hopen.trans hs.uOpen
  quiet := fun h => hactivity.trans (hs.quiet h)
  txOn := fun h => htxOn.trans (hs.txOn h)
  nvic := fun h => hnvic.trans (hs.nvic h)

/-- A call that does nothing on a closed port and leaves `u_open` alone on an open one. -/
theorem Inv.of_guarded {s : Sys σ} {u : Duplex (Counted σ)} (hs : Inv s)
    (hclosed : s.u.port.uOpen = false → u = s.u) (hopen : u.port.uOpen = s.u.port.uOpen) :
    Inv { s with u := u } := by
  rcases Bool.eq_false_or_eq_true s.session with hsession | hsession
  · exact hs.of_session hsession hopen
  · rw [hclosed (hs.uOpen.trans hsession)]
    exact hs

theorem inv_moveTx {s : Sys σ} {u : Duplex (Counted σ)} {move : Transmitter → Option Transmitter}
    (hs : Inv s) (h : moveTx s.u move = some u) : Inv { s with u := u } := by
  rw [moveTx, Option.ite_none_right_eq_some] at h
  obtain ⟨hw, -, rfl⟩ := Option.map_eq_some_iff.mp h.2
  exact hs.of_same rfl rfl rfl rfl

/-- What `hal_uart_config` can do to a port. -/
inductive ConfigStep (u : Duplex (Counted σ)) : Int → Duplex (Counted σ) → Prop where
  | refused {u' : Duplex (Counted σ)} : u'.port.uOpen = u.port.uOpen → activity u' = activity u →
      u'.port.txOn = u.port.txOn → u'.nvic = u.nvic → ConfigStep u (-1) u'
  | opened {u' : Duplex (Counted σ)} : u.port.uOpen = false → u'.port.uOpen = true →
      ConfigStep u 0 u'

theorem halUartConfig_cases (u : Duplex (Counted σ)) (c : Config) (init : UsartInit) :
    ConfigStep u (u.halUartConfig c init).1 (u.halUartConfig c init).2 := by
  rw [halUartConfig]
  split
  · exact .refused rfl rfl rfl rfl
  next hclosed =>
    split
    · exact .refused rfl rfl rfl rfl
    · split
      · exact .refused rfl rfl rfl rfl
      · cases init with
        | refused => exact .refused rfl rfl rfl rfl
        | baudUnavailable => exact .refused rfl rfl rfl rfl
        | ok => exact .opened (by simpa using hclosed) (by simp [halUartStartRx])

theorem inv_config {s : Sys σ} (hs : Inv s) {rc : Int} {u : Duplex (Counted σ)}
    (h : ConfigStep s.u rc u) : Inv { s with u := u, session := s.session || rc == 0 } := by
  cases h with
  | refused hopen hactivity htxOn hnvic =>
      have hsession : (s.session || (-1 : Int) == 0) = s.session := Bool.or_false _
      rw [hsession]
      exact hs.of_same hopen hactivity htxOn hnvic
  | opened hclosed hopen =>
      have hsession : (s.session || (0 : Int) == 0) = true := Bool.or_true _
      rw [hsession]
      exact ⟨hopen, nofun, nofun, nofun⟩

theorem inv_step {s t : Sys σ} {e : Event σ} (hs : Inv s) (hclean : Clean s e)
    (h : step s e = some t) : Inv t := by
  cases e with
  | init cfg =>
      cases h
      exact hs.of_same rfl rfl rfl rfl
  | initCbs txFunc txDone rxFunc arg =>
      cases h
      rw [initCounted, halUartInitCbs]
      split <;> exact hs.of_same rfl rfl rfl rfl
  | config c init =>
      cases h
      exact inv_config hs (halUartConfig_cases s.u c init)
  | startRx =>
      cases h
      refine hs.of_guarded (fun hclosed => by simp [halUartStartRx, hclosed]) ?_
      rw [halUartStartRx]
      split <;> rfl
  | startTx =>
      cases h
      refine hs.of_guarded (fun hclosed => ?_) (halUartStartTx_uOpen s.u.port)
      simp [halUartStartTx, Port.halUartStartTx, hclosed]
  | close =>
      obtain ⟨u, hclose, rfl⟩ := Option.map_eq_some_iff.mp h
      rw [halUartClose, Option.ite_none_right_eq_some] at hclose
      have hsession : s.session = false := hs.uOpen.symm.trans hclean
      cases hclose.2
      rw [hsession, if_neg Bool.false_ne_true]
      exact ⟨hclean, fun _ => hs.quiet hsession, fun _ => hs.txOn hsession, fun _ => rfl⟩
  | irq =>
      rw [step, Option.ite_none_right_eq_some] at h
      obtain ⟨u, hirq, rfl⟩ := Option.map_eq_some_iff.mp h.2
      rcases Bool.eq_false_or_eq_true s.session with hsession | hsession
      · exact hs.of_session hsession (usartInterruptHandler_uOpen hirq)
      · have hmasked := hs.nvic hsession
        rw [h.1] at hmasked
        cases hmasked
  | load =>
      obtain ⟨u, hmove, rfl⟩ := Option.map_eq_some_iff.mp h
      exact inv_moveTx hs hmove
  | shiftOut =>
      obtain ⟨u, hmove, rfl⟩ := Option.map_eq_some_iff.mp h
      exact inv_moveTx hs hmove
  | arrive c ferr perr =>
      rw [step, Option.ite_none_right_eq_some] at h
      cases h.2
      exact hs.of_same rfl rfl rfl rfl

/-- A port that is closed while it is open stays open. -/
theorem not_kept_step {s t : Sys σ} {e : Event σ} (hclean : ¬ Clean s e) (h : step s e = some t) :
    ¬ Kept t := by
  intro hkept
  cases e with
  | close =>
      obtain ⟨u, hclose, rfl⟩ := Option.map_eq_some_iff.mp h
      rw [halUartClose, Option.ite_none_right_eq_some] at hclose
      cases hclose.2
      exact hclean hkept.uOpen
  | init _ | initCbs _ _ _ _ | config _ _ | startRx | startTx | irq | load | shiftOut
  | arrive _ _ _ => exact hclean trivial

theorem inv_init (arg : σ) : Inv (Sys.init arg) := ⟨rfl, fun _ => rfl, fun _ => rfl, fun _ => rfl⟩

/-- A port does what its users rely on in every state of a run exactly when it is never closed
while `u_open` is set. -/
theorem sessions_kept_iff {arg : σ} {es : List (Event σ)} {t : Sys σ}
    (h : Run.run step (Sys.init arg) es = some t) :
    Run.Throughout step Kept (Sys.init arg) es ↔ Run.Along step Clean (Sys.init arg) es :=
  Run.throughout_iff_along (fun _ hs => hs.kept) (fun _ _ _ hs hclean h => inv_step hs hclean h)
    (fun _ _ _ _ hclean h => not_kept_step hclean h) (inv_init arg) h

/-- 8 data bits, 1 stop bit. -/
def config8n1 : Config := ⟨8, 1, .none, .none⟩

/-- The first of some bytes, if there is one. -/
def nextByte : List UInt8 → Int × List UInt8
  | [] => (-1, [])
  | b :: bs => (b.toNat, bs)

/-- A session in which two bytes go out and one is received. -/
def sessionRun : List (Event (List UInt8)) :=
  [.init true, .initCbs (some nextByte) (some id) (some fun bs _ => bs) [1, 2],
    .config config8n1 .baudUnavailable, .close, .config config8n1 .ok, .startTx, .irq, .load, .irq,
    .arrive 65 false false, .irq, .shiftOut, .load, .shiftOut, .irq, .startRx]

theorem sessions_kept_sessionRun :
    Run.Throughout step Kept (Sys.init []) sessionRun :=
  (sessions_kept_iff (Option.some_get (x := Run.run step (Sys.init []) sessionRun) rfl).symm).mpr
    (by decide)

/-- A port is configured and closed with a byte in flight.  It takes neither callbacks nor a
configuration any more, and still starts jobs and calls the user. -/
theorem sessions_not_kept_close :
    ∃ s t : Sys (List UInt8),
      Run.run step (Sys.init [])
        [.init true, .initCbs (some nextByte) none none [1, 2], .config config8n1 .ok, .startTx,
          .close] = some s ∧
        s.session = false ∧ s.u.port.uOpen = true ∧ s.u.port.txOn = true ∧
        (initCounted s.u (some nextByte) none none [3]).1 = -1 ∧
        (s.u.halUartConfig config8n1 .ok).1 = -1 ∧ ¬ Kept s ∧
        Run.run step (Sys.init [])
          [.init true, .initCbs (some nextByte) none none [1, 2], .config config8n1 .ok, .close,
            .startTx] = some t ∧
        t.session = false ∧ t.mark = ⟨0, 1, 0⟩ ∧ activity t.u = ⟨1, 1, 3⟩ := by
  refine ⟨_, _, rfl, rfl, rfl, rfl, rfl, rfl, ?_, rfl, rfl, rfl, rfl⟩
  intro hkept
  cases hkept.uOpen

end HalUart.Duplex
