import MynewtArduinoZero.Lib.Run
import MynewtArduinoZero.Uart.Stage

/-!
# Blocking transmission

`hal_uart_blocking_tx` shares the transmitter with the write jobs.  It disables
their callback, writes one character with `usart_write_wait` and enables the
callback again.  `usart_write_wait` refuses while bytes of a job remain, and the
caller does not look at its status; otherwise it writes DATA, full or not, and
waits for TXC.  An interrupt or another call may fall behind any of these steps.

`Kept` says that `tx_on` never stays set with nothing in flight, and that every
byte given to a blocking call reaches the wire.  `never_wedges_iff_clean` tells
the runs in which that is so.
-/

namespace HalUart.Blocking

open Port

variable {σ : Type*}

/-! ## The system -/

/-- The next step of a blocking call. -/
inductive Phase where
  /-- The checks of `usart_write_wait`. -/
  | check
  /-- Its write of DATA. -/
  | write
  /-- Its wait for TXC. -/
  | wait
  /-- The callback is enabled again. -/
  | enable
  /-- The call has returned. -/
  | done
deriving DecidableEq

/-- A call of `hal_uart_blocking_tx`. -/
structure Call where
  data : UInt8
  phase : Phase
deriving DecidableEq

/-- A port with the blocking calls that have been made, numbered from 0. -/
structure Sys (σ : Type*) where
  port : Port σ
  calls : List Call

/-- What can happen. -/
inductive Event (σ : Type*) where
  /-- `hal_uart_start_tx` is called. -/
  | startTx
  /-- `hal_uart_blocking_tx` is called, and disables the callback. -/
  | blockingTx (data : UInt8)
  | check (k : Nat)
  | write (k : Nat) (taken : Bool)
  | wait (k : Nat)
  | enable (k : Nat)
  /-- `_usart_interrupt_handler` runs. -/
  | irq
  /-- DATA moves on to the shift register. -/
  | load
  /-- A character goes out on the wire. -/
  | shiftOut
  /-- The application changes what `u_func_arg` points at. -/
  | setArg (arg : σ)

namespace Sys

/-- The byte of call `k`, where its next step is `phase`. -/
def dataAt (s : Sys σ) (k : Nat) (phase : Phase) : Option UInt8 :=
  match s.calls[k]? with
  | some c => if c.phase = phase then some c.data else none
  | none => none

/-- Call `k` goes on to `phase`. -/
def setPhase (s : Sys σ) (k : Nat) (data : UInt8) (phase : Phase) : Sys σ :=
  { s with calls := s.calls.set k ⟨data, phase⟩ }

end Sys

/-- The character of a blocking call. -/
def Call.frame (c : Call) (k : Nat) : Frame := ⟨c.data.toUInt16, .blocking k⟩

/-- One step. -/
def step (s : Sys σ) : Event σ → Option (Sys σ)
  | .startTx => some { s with port := s.port.halUartStartTx }
  | .blockingTx data =>
      if s.port.uOpen then
        some
          { port := { s.port with inst := s.port.inst.usartDisableCallback }
            calls := s.calls ++ [⟨data, .check⟩] }
      else some s
  | .check k =>
      (s.dataAt k .check).map fun data =>
        s.setPhase k data (if s.port.inst.usartWriteWaitStatus = .ok then .write else .enable)
  | .write k taken =>
      (s.dataAt k .write).map fun data =>
        { s.setPhase k data .wait with
          port := s.port.setHw (s.port.inst.hw.writeData ⟨data.toUInt16, .blocking k⟩ taken) }
  | .wait k =>
      (s.dataAt k .wait).bind fun data =>
        if s.port.inst.hw.txc then some (s.setPhase k data .enable) else none
  | .enable k =>
      (s.dataAt k .enable).map fun data =>
        { s.setPhase k data .done with
          port := { s.port with inst := s.port.inst.usartEnableCallback } }
  | .irq => s.port.usartInterruptHandler.map fun u => { s with port := u }
  | .load => s.port.load.map fun u => { s with port := u }
  | .shiftOut => s.port.shiftOut.map fun u => { s with port := u }
  | .setArg arg => some { s with port := { s.port with uFuncArg := arg } }

/-! ## What a run keeps -/

/-- Call `k` has put its byte where it should be by now. -/
def Delivered (hw : Transmitter) (k : Nat) (c : Call) : Prop :=
  match c.phase with
  | .check | .write => True
  | .wait => c.frame k ∈ hw.line
  | .enable | .done => c.frame k ∈ hw.sent

/-- What is to hold in every state. -/
structure Kept (s : Sys σ) : Prop where
  /-- Where `tx_on` is set, a job is in progress. -/
  flight : s.port.txOn = true → s.port.InFlight
  /-- Its end calls `usart_callback_txdone` when no blocking call is going on. -/
  called : (∀ c ∈ s.calls, c.phase = .done) →
    s.port.inst.callbackReg = true ∧ s.port.inst.callbackEnable = true
  /-- The interrupt handler does not jump through NULL. -/
  safe : s.port.usartInterruptHandler.isSome
  /-- Bytes of blocking calls are put on the wire. -/
  delivered : ∀ k c, s.calls[k]? = some c → Delivered s.port.inst.hw k c

/-- A step that goes right: a blocking call finds no bytes of a job remaining, writes DATA while it
is empty or drives out a character of a job, and TXC interrupts find the callback enabled. -/
def Clean (s : Sys σ) : Event σ → Prop
  | .check _ => s.port.inst.remainingTxBufferLength = 0
  | .write _ taken => ∀ f ∈ s.port.inst.hw.data, taken = true ∧ f.origin = .job
  | .irq =>
      s.port.inst.hw.txc = true → s.port.inst.hw.intenTxc = true →
        s.port.inst.callbackEnable = true
  | _ => True

/-- The blocking call that wrote a character. -/
def Origin.call? : Origin → Option Nat
  | .job => none
  | .blocking k => some k

/-- The blocking calls whose characters are in a list. -/
def writers (fs : List Frame) : List Nat := fs.filterMap fun f => Origin.call? f.origin

structure Inv (s : Sys σ) : Prop extends Kept s where
  port : s.port.Inv
  /-- A character in the line is of a call that has written it. -/
  written : ∀ k ∈ writers s.port.inst.hw.line,
    k < s.calls.length ∧ s.dataAt k .check = none ∧ s.dataAt k .write = none
  /-- Each call writes once. -/
  once : (writers s.port.inst.hw.line).Nodup

/-! ## Calls and characters -/

theorem dataAt_eq_some {s : Sys σ} {k : Nat} {data : UInt8} {phase : Phase} :
    s.dataAt k phase = some data ↔ s.calls[k]? = some ⟨data, phase⟩ := by
  simp only [Sys.dataAt]
  cases hk : s.calls[k]? with
  | none => simp
  | some c =>
      obtain ⟨d, p⟩ := c
      by_cases hp : p = phase <;> simp [hp]

/-- A call after call `k` has gone on. -/
theorem getElem?_setPhase {s : Sys σ} {k j : Nat} {data : UInt8} {phase : Phase} {c : Call}
    (h : (s.setPhase k data phase).calls[j]? = some c) :
    (j = k ∧ c = ⟨data, phase⟩) ∨ (j ≠ k ∧ s.calls[j]? = some c) := by
  by_cases hj : j = k
  · subst hj
    obtain ⟨-, hc⟩ := by simpa [Sys.setPhase, List.getElem?_set] using h
    exact .inl ⟨rfl, hc.symm⟩
  · refine .inr ⟨hj, ?_⟩
    simpa [Sys.setPhase, List.getElem?_set, Ne.symm hj] using h

theorem dataAt_setPhase_self {s : Sys σ} {k : Nat} {data : UInt8} {phase other : Phase}
    (hne : phase ≠ other) : (s.setPhase k data phase).dataAt k other = none := by
  refine Option.eq_none_iff_forall_ne_some.mpr fun d hd => ?_
  obtain ⟨-, hc⟩ | ⟨hk, -⟩ := getElem?_setPhase (dataAt_eq_some.mp hd)
  · exact hne (congrArg Call.phase hc).symm
  · exact hk rfl

theorem dataAt_setPhase_of_ne {s : Sys σ} {k j : Nat} {data : UInt8} {phase : Phase} (h : j ≠ k)
    (other : Phase) : (s.setPhase k data phase).dataAt j other = s.dataAt j other := by
  simp only [Sys.dataAt, Sys.setPhase, List.getElem?_set, if_neg (Ne.symm h)]

theorem calls_setPhase_self {s : Sys σ} {k : Nat} {data : UInt8} {old : Phase}
    (hk : s.dataAt k old = some data) (phase : Phase) :
    (s.setPhase k data phase).calls[k]? = some ⟨data, phase⟩ := by
  have hlt := (List.getElem?_eq_some_iff.mp (dataAt_eq_some.mp hk)).1
  simp [Sys.setPhase, hlt]

theorem mem_writers {fs : List Frame} {k : Nat} :
    k ∈ writers fs ↔ ∃ f ∈ fs, f.origin = .blocking k := by
  simp only [writers, List.mem_filterMap]
  constructor
  · rintro ⟨f, hf, horigin⟩
    refine ⟨f, hf, ?_⟩
    cases ho : f.origin with
    | job => rw [ho] at horigin; cases horigin
    | blocking j => rw [ho] at horigin; cases horigin; rfl
  · rintro ⟨f, hf, horigin⟩
    exact ⟨f, hf, by rw [horigin]; rfl⟩

theorem writers_append (fs gs : List Frame) : writers (fs ++ gs) = writers fs ++ writers gs :=
  List.filterMap_append

theorem writers_job {fs : List Frame} (h : ∀ f ∈ fs, f.origin = .job) : writers fs = [] := by
  refine List.eq_nil_iff_forall_not_mem.mpr fun k hk => ?_
  obtain ⟨f, hf, horigin⟩ := mem_writers.mp hk
  rw [h f hf] at horigin
  cases horigin

theorem Call.mem_writers {c : Call} {k : Nat} {fs : List Frame} (h : c.frame k ∈ fs) :
    k ∈ writers fs := Blocking.mem_writers.mpr ⟨_, h, rfl⟩

theorem sent_subset_line (hw : Transmitter) : hw.sent ⊆ hw.line := by
  simp [Transmitter.line]

theorem Extends.line_subset {hw hw' : Transmitter} (h : Extends hw hw') : hw.line ⊆ hw'.line := by
  obtain ⟨fs, hline, -⟩ := h.line
  rw [hline]
  exact List.subset_append_left ..

theorem Extends.writers {hw hw' : Transmitter} (h : Extends hw hw') :
    writers hw'.line = writers hw.line := by
  obtain ⟨fs, hline, hjob⟩ := h.line
  rw [hline, writers_append, writers_job hjob, List.append_nil]

/-- What has been delivered stays delivered. -/
theorem Delivered.mono {hw hw' : Transmitter} {k : Nat} {c : Call} (h : Delivered hw k c)
    (hline : hw.line ⊆ hw'.line) (hsent : hw.sent ⊆ hw'.sent) : Delivered hw' k c := by
  unfold Delivered at h ⊢
  cases hc : c.phase with
  | check | write => trivial
  | wait => rw [hc] at h; exact hline h
  | enable | done => rw [hc] at h; exact hsent h

/-- A call whose character is in no register has not delivered it. -/
theorem not_delivered {hw : Transmitter} {k : Nat} {c : Call} (hline : k ∉ writers hw.line)
    (hcheck : c.phase ≠ .check) (hwrite : c.phase ≠ .write) : ¬ Delivered hw k c := by
  intro h
  unfold Delivered at h
  cases hc : c.phase with
  | check => exact hcheck hc
  | write => exact hwrite hc
  | wait => rw [hc] at h; exact hline (c.mem_writers h)
  | enable | done => rw [hc] at h; exact hline (c.mem_writers (sent_subset_line hw h))

theorem Inv.fresh {s : Sys σ} (hs : Inv s) {k : Nat} {data : UInt8} {phase : Phase}
    (hk : s.dataAt k phase = some data) (hphase : phase = .check ∨ phase = .write) :
    k ∉ writers s.port.inst.hw.line := by
  intro hmem
  obtain ⟨-, hcheck, hwrite⟩ := hs.written k hmem
  rcases hphase with rfl | rfl
  · rw [hcheck] at hk; cases hk
  · rw [hwrite] at hk; cases hk

/-! ## Steps of the port -/

theorem isSome_usartInterruptHandler {u : Port σ} (hu : u.Inv) :
    u.usartInterruptHandler.isSome := by
  obtain ⟨u', hu', -⟩ := usartInterruptHandler_cases hu
  rw [hu']
  rfl

/-- A step of the port that loses nothing and leaves the callback's mask alone. -/
theorem Inv.ofExtends {s : Sys σ} (hs : Inv s) {u : Port σ} (hu : u.Inv)
    (hextends : Extends s.port.inst.hw u.inst.hw)
    (henable : u.inst.callbackEnable = s.port.inst.callbackEnable) :
    Inv { s with port := u } where
  flight := hu.stage.inFlight
  called := fun hdone => ⟨hu.callbackReg, henable.trans (hs.called hdone).2⟩
  safe := isSome_usartInterruptHandler hu
  delivered := fun k c hk =>
    (hs.delivered k c hk).mono (Extends.line_subset hextends) hextends.sent
  port := hu
  written := fun k hk => hs.written k (Extends.writers hextends ▸ hk)
  once := (Extends.writers hextends) ▸ hs.once

/-! ## Steps of a blocking call -/

/-- A call whose character is in a register stays behind its `write` when a call goes on. -/
theorem Inv.written_setPhase {s : Sys σ} (hs : Inv s) {j k : Nat} {data : UInt8} {phase : Phase}
    (hj : j ∈ writers s.port.inst.hw.line)
    (hphase : j = k → phase ≠ .check ∧ phase ≠ .write) :
    j < (s.setPhase k data phase).calls.length ∧ (s.setPhase k data phase).dataAt j .check = none ∧
      (s.setPhase k data phase).dataAt j .write = none := by
  obtain ⟨hlt, hcheck, hwrite⟩ := hs.written j hj
  refine ⟨by simpa [Sys.setPhase] using hlt, ?_⟩
  by_cases hjk : j = k
  · subst hjk
    obtain ⟨hnocheck, hnowrite⟩ := hphase rfl
    exact ⟨dataAt_setPhase_self hnocheck, dataAt_setPhase_self hnowrite⟩
  · rw [dataAt_setPhase_of_ne hjk, dataAt_setPhase_of_ne hjk]
    exact ⟨hcheck, hwrite⟩

/-- A call goes on, with its character where it should be. -/
theorem Inv.setPhase {s : Sys σ} (hs : Inv s) {k : Nat} {data : UInt8} {old phase : Phase}
    (hk : s.dataAt k old = some data) (hdone : phase ≠ .done)
    (hdelivered : Delivered s.port.inst.hw k ⟨data, phase⟩)
    (hback : phase = .check ∨ phase = .write → old = .check ∨ old = .write) :
    Inv (s.setPhase k data phase) where
  flight := hs.flight
  called := by
    intro hall
    exact absurd (hall _ (List.mem_of_getElem? (calls_setPhase_self hk phase))) hdone
  safe := hs.safe
  delivered := by
    intro j c hj
    obtain ⟨rfl, rfl⟩ | ⟨-, hold⟩ := getElem?_setPhase hj
    · exact hdelivered
    · exact hs.delivered j c hold
  port := hs.port
  written := by
    intro j hj
    refine hs.written_setPhase hj ?_
    rintro rfl
    have hphase : ¬ (phase = .check ∨ phase = .write) := fun h => hs.fresh hk (hback h) hj
    exact ⟨fun h => hphase (.inl h), fun h => hphase (.inr h)⟩
  once := hs.once

/-- What is in the transmitter in front of DATA. -/
def ahead (hw : Transmitter) : List Frame := hw.sent ++ hw.shift.toList

theorem line_eq (hw : Transmitter) : hw.line = ahead hw ++ hw.data.toList := rfl

theorem line_writeData_taken {hw : Transmitter} {f : Frame} {taken : Bool}
    (h : ∀ old ∈ hw.data, taken = true) : (hw.writeData f taken).line = ahead hw ++ [f] := by
  simp only [Transmitter.line, Transmitter.writeData, ahead]
  cases hdata : hw.data with
  | none => simp
  | some old => simp [h old hdata]

/-- DATA is written where that drives out nothing of a blocking call. -/
theorem Inv.write {s : Sys σ} (hs : Inv s) {k : Nat} {data : UInt8} {taken : Bool}
    (hk : s.dataAt k .write = some data)
    (hclean : ∀ f ∈ s.port.inst.hw.data, taken = true ∧ f.origin = .job) :
    Inv { s.setPhase k data .wait with
      port := s.port.setHw (s.port.inst.hw.writeData ⟨data.toUInt16, .blocking k⟩ taken) } := by
  have hfresh := hs.fresh hk (.inr rfl)
  have hjob : writers s.port.inst.hw.data.toList = [] :=
    writers_job fun f hf => (hclean f (by simpa using hf)).2
  have hwriters : writers s.port.inst.hw.line = writers (ahead s.port.inst.hw) := by
    rw [line_eq, writers_append, hjob, List.append_nil]
  have hline := line_writeData_taken (f := ⟨data.toUInt16, .blocking k⟩)
    fun old hold => (hclean old hold).1
  have hwriters' : writers (ahead s.port.inst.hw ++ [⟨data.toUInt16, .blocking k⟩])
      = writers s.port.inst.hw.line ++ [k] := by
    rw [writers_append, hwriters]
    rfl
  have hport := writeData_inv hs.port ⟨data.toUInt16, .blocking k⟩ taken
  refine
    { flight := hport.stage.inFlight
      called := ?_
      safe := isSome_usartInterruptHandler hport
      delivered := ?_
      port := hport
      written := ?_
      once := ?_ }
  · intro hall
    cases hall _ (List.mem_of_getElem? (calls_setPhase_self hk .wait))
  · intro j c hj
    obtain ⟨rfl, rfl⟩ | ⟨-, hold⟩ := getElem?_setPhase hj
    · simp [Delivered, Port.setHw, hline, Call.frame]
    · have hdelivered := hs.delivered j c hold
      unfold Delivered at hdelivered ⊢
      cases hc : c.phase with
      | check | write => trivial
      | enable | done => rw [hc] at hdelivered; exact hdelivered
      | wait =>
          rw [hc] at hdelivered
          have hahead : c.frame j ∈ ahead s.port.inst.hw := by
            rw [line_eq, List.mem_append] at hdelivered
            refine hdelivered.resolve_right fun hdata => ?_
            have hmem := c.mem_writers hdata
            rw [hjob] at hmem
            cases hmem
          simp only [Port.setHw, hline]
          exact List.mem_append_left _ hahead
  · simp only [Port.setHw, hline, hwriters']
    intro j hj
    rcases List.mem_append.mp hj with hj | hj
    · exact hs.written_setPhase hj fun hjk => absurd (hjk ▸ hj) hfresh
    · obtain rfl := List.mem_singleton.mp hj
      have hlt := (List.getElem?_eq_some_iff.mp (dataAt_eq_some.mp hk)).1
      exact ⟨by simpa [Sys.setPhase] using hlt, dataAt_setPhase_self (by simp),
        dataAt_setPhase_self (by simp)⟩
  · simp only [Port.setHw, hline, hwriters']
    exact List.nodup_append.mpr ⟨hs.once, List.nodup_singleton k, by
      intro j hj i hi
      obtain rfl := List.mem_singleton.mp hi
      exact fun h => hfresh (h ▸ hj)⟩

/-- A call begins. -/
theorem Inv.blockingTx {s : Sys σ} (hs : Inv s) (data : UInt8) :
    Inv
      { port := { s.port with inst := s.port.inst.usartDisableCallback }
        calls := s.calls ++ [⟨data, .check⟩] } := by
  have hport := setCallback_inv hs.port false
  refine
    { flight := hs.flight
      called := ?_
      safe := isSome_usartInterruptHandler hport
      delivered := ?_
      port := hport
      written := ?_
      once := hs.once }
  · intro hall
    cases hall ⟨data, .check⟩ (by simp)
  · intro k c hk
    by_cases hlt : k < s.calls.length
    · rw [List.getElem?_append_left hlt] at hk
      exact hs.delivered k c hk
    · rw [List.getElem?_append_right (Nat.le_of_not_lt hlt), List.getElem?_singleton] at hk
      split at hk
      · cases hk
        trivial
      · cases hk
  · intro k hk
    obtain ⟨hlt, hcheck, hwrite⟩ := hs.written k hk
    refine ⟨by simp; omega, ?_⟩
    simpa [Sys.dataAt, List.getElem?_append_left hlt] using And.intro hcheck hwrite

/-- A call ends. -/
theorem Inv.enable {s : Sys σ} (hs : Inv s) {k : Nat} {data : UInt8}
    (hk : s.dataAt k .enable = some data) :
    Inv { s.setPhase k data .done with
      port := { s.port with inst := s.port.inst.usartEnableCallback } } := by
  have hport := setCallback_inv hs.port true
  refine
    { flight := hs.flight
      called := fun _ => ⟨hs.port.callbackReg, rfl⟩
      safe := isSome_usartInterruptHandler hport
      delivered := ?_
      port := hport
      written := ?_
      once := hs.once }
  · intro j c hj
    obtain ⟨rfl, rfl⟩ | ⟨-, hold⟩ := getElem?_setPhase hj
    · have hsent : (⟨data.toUInt16, .blocking j⟩ : Frame) ∈ s.port.inst.hw.sent :=
        hs.delivered j _ (dataAt_eq_some.mp hk)
      exact hsent
    · exact hs.delivered j c hold
  · intro j hj
    exact hs.written_setPhase hj fun _ => ⟨nofun, nofun⟩

/-! ## Steps -/

theorem step_inv {s t : Sys σ} {e : Event σ} (hs : Inv s) (hC : Clean s e)
    (h : step s e = some t) : Inv t := by
  cases e with
  | startTx =>
      cases h
      exact hs.ofExtends (halUartStartTx_inv hs.port) (halUartStartTx_extends hs.port)
        (halUartStartTx_callbackEnable hs.port)
  | blockingTx data =>
      rw [step, if_pos hs.port.uOpen] at h
      cases h
      exact hs.blockingTx data
  | check k =>
      obtain ⟨data, hk, rfl⟩ := Option.map_eq_some_iff.mp h
      have hok : s.port.inst.usartWriteWaitStatus = .ok := by
        simp [UsartModule.usartWriteWaitStatus, hs.port.transmitterEnabled,
          show s.port.inst.remainingTxBufferLength = 0 from hC]
      rw [if_pos hok]
      exact hs.setPhase hk (by simp) trivial fun _ => .inl rfl
  | write k taken =>
      obtain ⟨data, hk, rfl⟩ := Option.map_eq_some_iff.mp h
      exact hs.write hk hC
  | wait k =>
      obtain ⟨data, hk, hdone⟩ := Option.bind_eq_some_iff.mp h
      split at hdone
      next htxc =>
        cases hdone
        have hempty := hs.port.empty htxc
        have hline : (⟨data.toUInt16, .blocking k⟩ : Frame) ∈ s.port.inst.hw.line :=
          hs.delivered k _ (dataAt_eq_some.mp hk)
        have hsent : (⟨data.toUInt16, .blocking k⟩ : Frame) ∈ s.port.inst.hw.sent := by
          simpa [Transmitter.line, hempty] using hline
        exact hs.setPhase hk (by simp) hsent (by simp)
      next => cases hdone
  | enable k =>
      obtain ⟨data, hk, rfl⟩ := Option.map_eq_some_iff.mp h
      exact hs.enable hk
  | irq =>
      obtain ⟨u, hu, rfl⟩ := Option.map_eq_some_iff.mp h
      have hirq := irq_of_handler hs.port hu
      exact hs.ofExtends (hirq.inv hs.port hC) hirq.extends hirq.callbackEnable
  | load =>
      obtain ⟨u, hu, rfl⟩ := Option.map_eq_some_iff.mp h
      obtain ⟨hw, hload, rfl⟩ := Option.map_eq_some_iff.mp hu
      exact hs.ofExtends (load_inv hs.port hu) (load_extends hload) rfl
  | shiftOut =>
      obtain ⟨u, hu, rfl⟩ := Option.map_eq_some_iff.mp h
      obtain ⟨hw, hout, rfl⟩ := Option.map_eq_some_iff.mp hu
      exact hs.ofExtends (shiftOut_inv hs.port hu) (shiftOut_extends hout) rfl
  | setArg arg =>
      cases h
      exact hs.ofExtends (setArg_inv hs.port arg) (.refl _) rfl

/-- A call that finds a byte of a job remaining loses its own. -/
theorem not_kept_check {s t : Sys σ} {k : Nat} (hs : Inv s) (hC : ¬ Clean s (.check k))
    (h : step s (.check k) = some t) : ¬ Kept t := by
  obtain ⟨data, hk, rfl⟩ := Option.map_eq_some_iff.mp h
  have hbusy : s.port.inst.usartWriteWaitStatus ≠ .ok := by
    simp [UsartModule.usartWriteWaitStatus, hs.port.transmitterEnabled, Nat.pos_of_ne_zero hC]
  rw [if_neg hbusy]
  intro hkept
  exact not_delivered (hs.fresh hk (.inl rfl)) (by simp) (by simp)
    (hkept.delivered k _ (calls_setPhase_self hk _))

/-- A character that DATA does not take is lost. -/
theorem not_kept_write_refused {s t : Sys σ} {k : Nat} {f : Frame} (hs : Inv s)
    (hf : s.port.inst.hw.data = some f) (h : step s (.write k false) = some t) : ¬ Kept t := by
  obtain ⟨data, hk, rfl⟩ := Option.map_eq_some_iff.mp h
  intro hkept
  have hline : (s.port.inst.hw.writeData ⟨data.toUInt16, .blocking k⟩ false).line
      = s.port.inst.hw.line := by
    simp [Transmitter.line, Transmitter.writeData, hf]
  refine not_delivered (k := k) ?_ (by simp) (by simp)
    (hkept.delivered k _ (calls_setPhase_self hk .wait))
  simp only [Port.setHw, hline]
  exact hs.fresh hk (.inr rfl)

/-- A character that DATA takes drives out the one of another call. -/
theorem not_kept_write_taken {s t : Sys σ} {j k : Nat} {f : Frame} (hs : Inv s)
    (hf : s.port.inst.hw.data = some f) (hj : f.origin = .blocking j)
    (h : step s (.write k true) = some t) : ¬ Kept t := by
  obtain ⟨data, hk, rfl⟩ := Option.map_eq_some_iff.mp h
  intro hkept
  have hwriters : writers s.port.inst.hw.line = writers (ahead s.port.inst.hw) ++ [j] := by
    rw [line_eq, hf, writers_append]
    simp [writers, hj, Origin.call?]
  have honce := hs.once
  have hmem : j ∈ writers s.port.inst.hw.line := by simp [hwriters]
  obtain ⟨hlt, hcheck, hwrite⟩ := hs.written j hmem
  have hjk : j ≠ k := by
    rintro rfl
    rw [hwrite] at hk
    cases hk
  have hcall : s.calls[j]? = some s.calls[j] := List.getElem?_eq_getElem hlt
  have hphase : s.calls[j].phase ≠ .check ∧ s.calls[j].phase ≠ .write := by
    constructor <;> intro hc
    · simp [Sys.dataAt, hcall, hc] at hcheck
    · simp [Sys.dataAt, hcall, hc] at hwrite
  have hcall' : (s.setPhase k data .wait).calls[j]? = some s.calls[j] := by
    simp [Sys.setPhase, Ne.symm hjk]
  refine not_delivered (k := j) ?_ hphase.1 hphase.2 (hkept.delivered j _ hcall')
  simp only [Port.setHw, line_writeData_taken fun _ _ => rfl, writers_append, hwriters,
    List.mem_append, not_or, List.nodup_append] at honce ⊢
  refine ⟨fun hin => honce.2.2 j hin j (List.mem_singleton_self j) rfl, ?_⟩
  simp [writers, Origin.call?, hjk]

/-- The end of a job that comes while the callback is disabled is not noticed. -/
theorem not_kept_irq {s t : Sys σ} (hs : Inv s) (hC : ¬ Clean s .irq) (h : step s .irq = some t) :
    ¬ Kept t := by
  obtain ⟨u, hu, rfl⟩ := Option.map_eq_some_iff.mp h
  have hirq := irq_of_handler hs.port hu
  simp only [Clean, not_forall] at hC
  obtain ⟨hset, htxc, hdisabled⟩ := hC
  obtain ⟨hon, hidle⟩ := hirq.wedged hset htxc (eq_false_of_ne_true hdisabled)
  exact fun hkept => hidle (hkept.flight hon)

/-- A step that is not clean goes wrong. -/
theorem not_kept_of_not_clean {s t : Sys σ} {e : Event σ} (hs : Inv s) (hC : ¬ Clean s e)
    (h : step s e = some t) : ¬ Kept t := by
  cases e with
  | startTx | blockingTx | wait | enable | load | shiftOut | setArg => exact absurd trivial hC
  | check k => exact not_kept_check hs hC h
  | write k taken =>
      simp only [Clean, not_forall] at hC
      obtain ⟨f, hf, hbad⟩ := hC
      cases taken with
      | false => exact not_kept_write_refused hs hf h
      | true =>
          cases ho : f.origin with
          | job => exact absurd ⟨rfl, ho⟩ hbad
          | blocking j => exact not_kept_write_taken hs hf ho h
  | irq => exact not_kept_irq hs hC h

/-! ## Runs -/

/-- A port that `hal_uart_config` has opened. -/
def Opened (u : Port σ) : Prop :=
  ∃ (v : Port σ) (databits : UInt8) (valid init : Bool),
    v.uOpen = false ∧ v.txOn = false ∧ v.halUartConfig databits valid init = (0, u)

theorem Opened.inv {u : Port σ} (hu : Opened u) :
    u.Inv ∧ u.inst.callbackEnable = true ∧ u.inst.hw.line = [] := by
  obtain ⟨v, databits, valid, init, hclosed, hoff, hconfig⟩ := hu
  simp only [halUartConfig, hclosed, Bool.false_eq_true, if_false] at hconfig
  cases hsize : characterSizeOf databits with
  | none => simp [hsize] at hconfig
  | some size =>
      rw [hsize] at hconfig
      dsimp only at hconfig
      split at hconfig
      · cases hconfig
        exact ⟨Resting.inv ⟨rfl, rfl, rfl, rfl, rfl, rfl, nofun⟩ hoff, rfl, rfl⟩
      · cases hconfig

/-- The system behind `hal_uart_config`. -/
def Sys.start (u : Port σ) : Sys σ := ⟨u, []⟩

theorem Inv.start {u : Port σ} (hu : Opened u) : Inv (Sys.start u) := by
  obtain ⟨hinv, henable, hline⟩ := hu.inv
  exact
    { flight := hinv.stage.inFlight
      called := fun _ => ⟨hinv.callbackReg, henable⟩
      safe := isSome_usartInterruptHandler hinv
      delivered := nofun
      port := hinv
      written := by simp [Sys.start, hline, writers]
      once := by simp [Sys.start, hline, writers] }

/-- In every run of an open port, `tx_on` is never set with nothing in
flight and bytes of blocking calls are put on the wire, in every state, exactly when every step is
clean. -/
theorem never_wedges_iff_clean {u : Port σ} (hu : Opened u) {es : List (Event σ)} {t : Sys σ}
    (hrun : Run.run step (Sys.start u) es = some t) :
    Run.Throughout step Kept (Sys.start u) es ↔ Run.Along step Clean (Sys.start u) es :=
  Run.throughout_iff_along (fun _ hs => hs.toKept) (fun _ _ _ => step_inv)
    (fun _ _ _ => not_kept_of_not_clean) (Inv.start hu) hrun

/-! ## A port with bytes to send -/

/-- A `u_tx_func` that gives the bytes of a list. -/
def popByte : List UInt8 → Int × List UInt8
  | [] => (-1, [])
  | b :: bs => (b.toNat, bs)

/-- A port with these bytes to send that is not open yet. -/
def closedPort (bytes : List UInt8) : Port (List UInt8) :=
  ((zero []).halUartInitCbs (some popByte) none bytes).2

/-- The port when it is open. -/
def openPort (bytes : List UInt8) : Port (List UInt8) :=
  ((closedPort bytes).halUartConfig 8 true true).2

theorem openPort_opened (bytes : List UInt8) : Opened (openPort bytes) :=
  ⟨closedPort bytes, 8, true, true, rfl, rfl, rfl⟩

instance (s : Sys σ) (e : Event σ) : Decidable (Clean s e) := by
  cases e <;> unfold Clean <;> infer_instance

/-- A blocking call on the idle port, and then a job. -/
def quietRun : List (Event (List UInt8)) :=
  [.blockingTx 65, .check 0, .write 0 true, .load, .shiftOut, .irq, .wait 0, .enable 0, .startTx,
    .irq, .load, .shiftOut, .irq]

theorem quietRun_run : (Run.run step (Sys.start (openPort [1])) quietRun).isSome := rfl

theorem never_wedges_iff_clean_quietRun :
    Run.Throughout step Kept (Sys.start (openPort [1])) quietRun :=
  (never_wedges_iff_clean (openPort_opened [1]) (Option.some_get quietRun_run).symm).mpr
    (by decide)

/-- The last character of a job goes out while a blocking call has the callback disabled. -/
def wedgingRun : List (Event (List UInt8)) :=
  [.startTx, .irq, .load, .shiftOut, .blockingTx 65, .irq]

/-- A blocking call finds a byte of a job remaining. -/
def droppingRun : List (Event (List UInt8)) := [.startTx, .blockingTx 65, .check 0, .enable 0]

/-- The first run leaves `tx_on` set with nothing in flight, and the second one loses its byte. -/
theorem wedges_and_drops :
    (∃ t, Run.run step (Sys.start (openPort [1])) wedgingRun = some t ∧
      ¬ (t.port.txOn = true → t.port.InFlight)) ∧
    ∃ t, Run.run step (Sys.start (openPort [1])) droppingRun = some t ∧
      ¬ ∀ k c, t.calls[k]? = some c → Delivered t.port.inst.hw k c := by
  refine ⟨⟨_, rfl, fun h => ?_⟩, ⟨_, rfl, fun h => ?_⟩⟩
  · exact absurd (h rfl) (by unfold InFlight Busy; decide)
  · exact absurd (h 0 ⟨65, .done⟩ rfl) (by unfold Delivered; decide)

end HalUart.Blocking
