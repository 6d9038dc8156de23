import MynewtArduinoZero.Uart.HalUart

/-!
# The stages of a write job

An open port is idle, or a job has bytes left and waits for DRE, or its last
byte is in the transmitter and it waits for TXC.  Calls of `hal_uart_start_tx`,
interrupts and the shifting of characters keep to these stages.  The one way out
is a TXC interrupt that finds the callback disabled.
-/

namespace HalUart.Port

open Cells

variable {σ : Type*}

/-! ## The invariant -/

/-- The registers of the transmitter of a port are set. -/
def setHw (u : Port σ) (hw : Transmitter) : Port σ := { u with inst := { u.inst with hw := hw } }

/-- A character is in the transmitter, or TXC tells that the last one is out. -/
def Busy (u : Port σ) : Prop :=
  u.inst.hw.data.isSome ∨ u.inst.hw.shift.isSome ∨ u.inst.hw.txc = true

/-- Where a port is in its job. -/
inductive Stage (u : Port σ) : Prop where
  | idle (txOn : u.txOn = false) (remaining : u.inst.remainingTxBufferLength = 0)
      (dre : u.inst.hw.intenDre = false) (txc : u.inst.hw.intenTxc = false)
  | sending (txOn : u.txOn = true) (remaining : 0 < u.inst.remainingTxBufferLength)
      (dre : u.inst.hw.intenDre = true) (txc : u.inst.hw.intenTxc = false)
  | draining (txOn : u.txOn = true) (remaining : u.inst.remainingTxBufferLength = 0)
      (dre : u.inst.hw.intenDre = false) (txc : u.inst.hw.intenTxc = true) (busy : u.Busy)

/-- An open port with its transmitter in one of the stages. -/
structure Inv (u : Port σ) : Prop where
  uOpen : u.uOpen = true
  transmitterEnabled : u.inst.transmitterEnabled = true
  callbackReg : u.inst.callbackReg = true
  stage : u.Stage
  /-- TXC is set only while the transmitter is empty. -/
  empty : u.inst.hw.txc = true → u.inst.hw.data = none ∧ u.inst.hw.shift = none
  /-- A job comes from `u_tx_func`. -/
  func : u.txOn = true → u.uTxFunc.isSome

/-- A write job is in progress: bytes remain and the DRE interrupt is enabled, or the TXC interrupt
is enabled and TXC is set or will be. -/
def InFlight (u : Port σ) : Prop :=
  (0 < u.inst.remainingTxBufferLength ∧ u.inst.hw.intenDre = true) ∨
    (u.inst.hw.intenTxc = true ∧ u.Busy)

/-- The stage is one of the job and of the transmitter. -/
theorem Stage.congr {u v : Port σ} (h : u.Stage) (htx : v.txOn = u.txOn)
    (hremaining : v.inst.remainingTxBufferLength = u.inst.remainingTxBufferLength)
    (hhw : v.inst.hw = u.inst.hw) : v.Stage := by
  cases h with
  | idle h₁ h₂ h₃ h₄ =>
      exact .idle (htx.trans h₁) (hremaining.trans h₂) (hhw ▸ h₃) (hhw ▸ h₄)
  | sending h₁ h₂ h₃ h₄ =>
      exact .sending (htx.trans h₁) (hremaining ▸ h₂) (hhw ▸ h₃) (hhw ▸ h₄)
  | draining h₁ h₂ h₃ h₄ h₅ =>
      refine .draining (htx.trans h₁) (hremaining.trans h₂) (hhw ▸ h₃) (hhw ▸ h₄) ?_
      rw [Busy, hhw]
      exact h₅

theorem Stage.inFlight {u : Port σ} (h : u.Stage) (hon : u.txOn = true) : u.InFlight := by
  cases h with
  | idle hoff => rw [hoff] at hon; cases hon
  | sending _ hremaining hdre => exact .inl ⟨hremaining, hdre⟩
  | draining _ _ _ htxc hbusy => exact .inr ⟨htxc, hbusy⟩

/-! ## The characters move -/

/-- What the transmitter does to its data does not matter to the stage, as long as it stays busy. -/
theorem Inv.setHw {u : Port σ} (hu : Inv u) {hw : Transmitter}
    (hdre : hw.intenDre = u.inst.hw.intenDre) (htxc : hw.intenTxc = u.inst.hw.intenTxc)
    (hbusy : u.Busy → (u.setHw hw).Busy)
    (hempty : hw.txc = true → hw.data = none ∧ hw.shift = none) : Inv (u.setHw hw) where
  uOpen := hu.uOpen
  transmitterEnabled := hu.transmitterEnabled
  callbackReg := hu.callbackReg
  stage := by
    cases hu.stage with
    | idle h₁ h₂ h₃ h₄ => exact .idle h₁ h₂ (hdre.trans h₃) (htxc.trans h₄)
    | sending h₁ h₂ h₃ h₄ => exact .sending h₁ h₂ (hdre.trans h₃) (htxc.trans h₄)
    | draining h₁ h₂ h₃ h₄ h₅ =>
        exact .draining h₁ h₂ (hdre.trans h₃) (htxc.trans h₄) (hbusy h₅)
  empty := hempty
  func := hu.func

theorem load_eq_some {hw hw' : Transmitter} (h : hw.load = some hw') :
    ∃ f, hw.data = some f ∧ hw.shift = none ∧ hw' = { hw with data := none, shift := some f } := by
  simp only [Transmitter.load] at h
  split at h
  next f hdata hshift =>
    cases h
    exact ⟨f, hdata, hshift, rfl⟩
  next => cases h

theorem shiftOut_eq_some {hw hw' : Transmitter} (h : hw.shiftOut = some hw') :
    ∃ f, hw.shift = some f ∧
      hw' = { hw with
        shift := none, txc := hw.txc || hw.data.isNone, sent := hw.sent ++ [f] } := by
  obtain ⟨f, hshift, rfl⟩ := Option.map_eq_some_iff.mp h
  exact ⟨f, hshift, rfl⟩

/-- DATA moves on. -/
def load (u : Port σ) : Option (Port σ) := u.inst.hw.load.map u.setHw

/-- A character goes out. -/
def shiftOut (u : Port σ) : Option (Port σ) := u.inst.hw.shiftOut.map u.setHw

theorem load_inv {u u' : Port σ} (hu : Inv u) (h : u.load = some u') : Inv u' := by
  obtain ⟨hw, hload, rfl⟩ := Option.map_eq_some_iff.mp h
  obtain ⟨f, hdata, hshift, rfl⟩ := load_eq_some hload
  refine hu.setHw rfl rfl (fun _ => .inr (.inl rfl)) fun htxc => ?_
  rw [(hu.empty htxc).1] at hdata
  cases hdata

theorem shiftOut_inv {u u' : Port σ} (hu : Inv u) (h : u.shiftOut = some u') : Inv u' := by
  obtain ⟨hw, hout, rfl⟩ := Option.map_eq_some_iff.mp h
  obtain ⟨f, hshift, rfl⟩ := shiftOut_eq_some hout
  have htxc : u.inst.hw.txc = false := by
    by_contra hset
    rw [(hu.empty (eq_true_of_ne_false hset)).2] at hshift
    cases hshift
  refine hu.setHw rfl rfl (fun _ => ?_) fun hset => ⟨?_, rfl⟩
  · cases hdata : u.inst.hw.data with
    | none => exact .inr (.inr (by simp [Port.setHw]))
    | some f => exact .inl rfl
  · simpa [htxc] using hset

/-- A write of DATA from outside the job. -/
theorem writeData_inv {u : Port σ} (hu : Inv u) (f : Frame) (taken : Bool) :
    Inv (u.setHw (u.inst.hw.writeData f taken)) :=
  hu.setHw rfl rfl (fun _ => .inl rfl) nofun

/-- The callback is enabled or disabled. -/
theorem setCallback_inv {u : Port σ} (hu : Inv u) (b : Bool) :
    Inv { u with inst := { u.inst with callbackEnable := b } } where
  uOpen := hu.uOpen
  transmitterEnabled := hu.transmitterEnabled
  callbackReg := hu.callbackReg
  stage := hu.stage.congr rfl rfl rfl
  empty := hu.empty
  func := hu.func

/-- The application changes what `u_func_arg` points at. -/
theorem setArg_inv {u : Port σ} (hu : Inv u) (arg : σ) :
    Inv { u with uFuncArg := arg } where
  uOpen := hu.uOpen
  transmitterEnabled := hu.transmitterEnabled
  callbackReg := hu.callbackReg
  stage := hu.stage.congr rfl rfl rfl
  empty := hu.empty
  func := hu.func

/-! ## A job starts -/

/-- A port without a job, where `u_tx_func` may be asked. -/
structure Resting (u : Port σ) : Prop where
  uOpen : u.uOpen = true
  transmitterEnabled : u.inst.transmitterEnabled = true
  callbackReg : u.inst.callbackReg = true
  remaining : u.inst.remainingTxBufferLength = 0
  dre : u.inst.hw.intenDre = false
  txc : u.inst.hw.intenTxc = false
  empty : u.inst.hw.txc = true → u.inst.hw.data = none ∧ u.inst.hw.shift = none

/-- What `writeStaged` leaves: the job is accepted. -/
theorem writeStaged_eq {u : Port σ} (hu : Resting u) {sz : Nat} (hsz : 0 < sz) :
    u.writeStaged sz =
      { u with
        txOn := true
        inst := { u.inst with
          remainingTxBufferLength := sz
          txBufferPtr := 0
          txStatus := .busy
          hw := { u.inst.hw with intenDre := true }
          jobs := u.inst.jobs ++ [bytesAt u.txdata 0 sz] } } := by
  simp [writeStaged, UsartModule.usartWriteBufferJob, UsartModule.usartWriteBuffer,
    Nat.pos_iff_ne_zero.mp hsz, hu.transmitterEnabled, hu.remaining]

theorem writeStaged_inv {u : Port σ} (hu : Resting u) (hfunc : u.uTxFunc.isSome) {sz : Nat}
    (hsz : 0 < sz) : Inv (u.writeStaged sz) := by
  rw [writeStaged_eq hu hsz]
  exact
    { uOpen := hu.uOpen
      transmitterEnabled := hu.transmitterEnabled
      callbackReg := hu.callbackReg
      stage := .sending rfl hsz rfl hu.txc
      empty := hu.empty
      func := fun _ => hfunc }

theorem Resting.filled {u : Port σ} (hu : Resting u) (f : σ → Int × σ) : Resting (u.filled f) where
  uOpen := hu.uOpen
  transmitterEnabled := hu.transmitterEnabled
  callbackReg := hu.callbackReg
  remaining := hu.remaining
  dre := hu.dre
  txc := hu.txc
  empty := hu.empty

/-- A port at rest whose flag is cleared is idle. -/
theorem Resting.inv {u : Port σ} (hu : Resting u) (hoff : u.txOn = false) : Inv u where
  uOpen := hu.uOpen
  transmitterEnabled := hu.transmitterEnabled
  callbackReg := hu.callbackReg
  stage := .idle hoff hu.remaining hu.dre hu.txc
  empty := hu.empty
  func := fun hon => by rw [hoff] at hon; cases hon

theorem Inv.resting {u : Port σ} (hu : Inv u) (hoff : u.txOn = false) : Resting u := by
  cases hu.stage with
  | idle _ h₂ h₃ h₄ =>
      exact ⟨hu.uOpen, hu.transmitterEnabled, hu.callbackReg, h₂, h₃, h₄, hu.empty⟩
  | sending hon | draining hon =>
      rw [hoff] at hon
      cases hon

/-- What `hal_uart_start_tx` does. -/
inductive StartTx (u : Port σ) : Port σ → Prop where
  /-- It is already transmitting, or there is nothing to ask. -/
  | nothing (h : u.txOn = true ∨ u.uTxFunc = none) : StartTx u u
  /-- There is nothing to send. -/
  | dry (f : σ → Int × σ) (hoff : u.txOn = false) (hf : u.uTxFunc = some f)
      (hnil : (pull f txBufferSize u.uFuncArg).1 = []) : StartTx u (u.filled f)
  /-- A job is started. -/
  | job (f : σ → Int × σ) (hoff : u.txOn = false) (hf : u.uTxFunc = some f)
      (hne : (pull f txBufferSize u.uFuncArg).1 ≠ []) :
      StartTx u ((u.filled f).writeStaged (pull f txBufferSize u.uFuncArg).1.length)

theorem halUartStartTx_cases {u : Port σ} (hu : Inv u) : StartTx u u.halUartStartTx := by
  simp only [halUartStartTx, hu.uOpen, Bool.true_and, fillTxBuf_eq]
  cases hon : u.txOn with
  | true => exact .nothing (.inl hon)
  | false =>
      cases hf : u.uTxFunc with
      | none => exact .nothing (.inr hf)
      | some f =>
          by_cases hnil : (pull f txBufferSize u.uFuncArg).1 = []
          · simpa [hnil] using StartTx.dry f hon hf hnil
          · have hpos := List.length_pos_iff.mpr hnil
            simpa [hpos] using StartTx.job f hon hf hnil

theorem halUartStartTx_inv {u : Port σ} (hu : Inv u) : Inv u.halUartStartTx := by
  have hcases := halUartStartTx_cases hu
  generalize u.halUartStartTx = u' at hcases
  cases hcases with
  | nothing => exact hu
  | dry f hoff => exact ((hu.resting hoff).filled f).inv hoff
  | job f hoff hf hne =>
      refine writeStaged_inv ((hu.resting hoff).filled f) ?_ (List.length_pos_iff.mpr hne)
      rw [filled, hf]
      rfl

/-! ## Interrupts -/

/-- The port where the TXC interrupt has been turned off. -/
def txcOff (u : Port σ) : Port σ :=
  { u with inst := { u.inst with hw := { u.inst.hw with intenTxc := false }, txStatus := .ok } }

/-- The port where a job has ended and `u_tx_done` has been called. -/
def txDone (u : Port σ) : Port σ :=
  { u with
    txOn := false
    uFuncArg := (u.uTxDone.map fun uTxDone => uTxDone u.uFuncArg).getD u.uFuncArg }

/-- What `_usart_interrupt_handler` does. -/
inductive Irq (u : Port σ) : Port σ → Prop where
  /-- No interrupt of the transmitter is pending. -/
  | quiet (hdre : u.inst.hw.intenDre = true → u.inst.hw.data.isSome)
      (htxc : u.inst.hw.intenTxc = true → u.inst.hw.txc = false) : Irq u u
  /-- A character of the job is written to DATA. -/
  | data (hon : u.txOn = true) (hremaining : 0 < u.inst.remainingTxBufferLength)
      (hdre : u.inst.hw.intenDre = true) (htxc : u.inst.hw.intenTxc = false)
      (hdata : u.inst.hw.data = none) :
      Irq u { u with inst := u.inst.dataRegisterEmpty u.txdata }
  /-- The job is over, and its callback is not called. -/
  | lost (hon : u.txOn = true) (hset : u.inst.hw.txc = true) (htxc : u.inst.hw.intenTxc = true)
      (hdisabled : u.inst.callbackEnable = false) (hrest : u.txcOff.Resting) : Irq u u.txcOff
  /-- The job is over, and there is nothing more to send. -/
  | dry (f : σ → Int × σ) (hon : u.txOn = true) (hset : u.inst.hw.txc = true)
      (htxc : u.inst.hw.intenTxc = true) (henabled : u.inst.callbackEnable = true)
      (hrest : u.txcOff.Resting) (hf : u.uTxFunc = some f)
      (hnil : (pull f txBufferSize u.uFuncArg).1 = []) : Irq u (u.txcOff.filled f).txDone
  /-- The job is over, and the next one is started. -/
  | job (f : σ → Int × σ) (hon : u.txOn = true) (hset : u.inst.hw.txc = true)
      (htxc : u.inst.hw.intenTxc = true) (henabled : u.inst.callbackEnable = true)
      (hrest : u.txcOff.Resting) (hf : u.uTxFunc = some f)
      (hne : (pull f txBufferSize u.uFuncArg).1 ≠ []) :
      Irq u ((u.txcOff.filled f).writeStaged (pull f txBufferSize u.uFuncArg).1.length)

theorem usartCallbackTxdone_eq {u : Port σ} (hu : Resting u) {f : σ → Int × σ}
    (hf : u.uTxFunc = some f) :
    u.usartCallbackTxdone =
      if 0 < (pull f txBufferSize u.uFuncArg).1.length then
        some ((u.filled f).writeStaged (pull f txBufferSize u.uFuncArg).1.length)
      else some (u.filled f).txDone := by
  simp only [usartCallbackTxdone, fillTxBuf_eq, hu.uOpen, hf, Option.map_some, apply_ite some]
  rfl

/-- The handler where TXC is pending. -/
theorem usartInterruptHandler_txc {u : Port σ} (hdre : u.inst.hw.intenDre = false)
    (hset : u.inst.hw.txc = true) (htxc : u.inst.hw.intenTxc = true) :
    u.usartInterruptHandler =
      if u.inst.callbackReg && u.inst.callbackEnable then u.txcOff.usartCallbackTxdone
      else some u.txcOff := by
  simp only [usartInterruptHandler, hdre, hset, htxc, Bool.and_false, Bool.and_true]
  rfl

theorem usartInterruptHandler_cases {u : Port σ} (hu : Inv u) :
    ∃ u', u.usartInterruptHandler = some u' ∧ Irq u u' := by
  cases hu.stage with
  | idle _ _ hdre htxc =>
      refine ⟨u, ?_, .quiet (by simp [hdre]) (by simp [htxc])⟩
      simp [usartInterruptHandler, hdre, htxc]
  | sending hon hremaining hdre htxc =>
      by_cases hdata : u.inst.hw.data = none
      · refine ⟨_, ?_, .data hon hremaining hdre htxc hdata⟩
        simp [usartInterruptHandler, Transmitter.dre, hdata, hdre, htxc]
      · have hfull := Option.isSome_iff_ne_none.mpr hdata
        refine ⟨u, ?_, .quiet (fun _ => hfull) (by simp [htxc])⟩
        simp [usartInterruptHandler, Transmitter.dre, Option.isNone_eq_false_iff.mpr hfull, htxc]
  | draining hon hremaining hdre htxc =>
      cases hset : u.inst.hw.txc with
      | false =>
          refine ⟨u, ?_, .quiet (by simp [hdre]) (fun _ => hset)⟩
          simp [usartInterruptHandler, hdre, hset]
      | true =>
          have hrest : u.txcOff.Resting :=
            { uOpen := hu.uOpen
              transmitterEnabled := hu.transmitterEnabled
              callbackReg := hu.callbackReg
              remaining := hremaining
              dre := hdre
              txc := rfl
              empty := hu.empty }
          have hhandler := usartInterruptHandler_txc hdre hset htxc
          rw [hu.callbackReg, Bool.true_and] at hhandler
          cases henabled : u.inst.callbackEnable with
          | false =>
              rw [henabled] at hhandler
              exact ⟨u.txcOff, hhandler, .lost hon hset htxc henabled hrest⟩
          | true =>
              obtain ⟨f, hf⟩ := Option.isSome_iff_exists.mp (hu.func hon)
              rw [henabled, if_pos rfl, usartCallbackTxdone_eq hrest hf] at hhandler
              by_cases hnil : (pull f txBufferSize u.uFuncArg).1 = []
              · refine ⟨_, hhandler.trans (if_neg ?_), .dry f hon hset htxc henabled hrest hf hnil⟩
                simp [txcOff, hnil]
              · exact ⟨_, hhandler.trans (if_pos (List.length_pos_iff.mpr hnil)),
                  .job f hon hset htxc henabled hrest hf hnil⟩

theorem irq_of_handler {u u' : Port σ} (hu : Inv u) (h : u.usartInterruptHandler = some u') :
    Irq u u' := by
  obtain ⟨v, hv, hirq⟩ := usartInterruptHandler_cases hu
  obtain rfl := Option.some.inj (h.symm.trans hv)
  exact hirq

theorem dataRegisterEmpty_inv {u : Port σ} (hu : Inv u) (hon : u.txOn = true)
    (hremaining : 0 < u.inst.remainingTxBufferLength) (hdre : u.inst.hw.intenDre = true)
    (htxc : u.inst.hw.intenTxc = false) :
    Inv { u with inst := u.inst.dataRegisterEmpty u.txdata } := by
  simp only [UsartModule.dataRegisterEmpty, if_pos hremaining]
  by_cases hlast : u.inst.remainingTxBufferLength = 1
  · exact
      { uOpen := hu.uOpen
        transmitterEnabled := hu.transmitterEnabled
        callbackReg := hu.callbackReg
        stage := by
          refine .draining hon ?_ ?_ ?_ (.inl ?_) <;> simp [hlast]
        empty := by simp [hlast]
        func := hu.func }
  · exact
      { uOpen := hu.uOpen
        transmitterEnabled := hu.transmitterEnabled
        callbackReg := hu.callbackReg
        stage := .sending hon (by simp only; omega) (by simpa [hlast] using hdre)
          (by simpa [hlast] using htxc)
        empty := by simp [hlast]
        func := hu.func }

theorem Resting.txDone_inv {u : Port σ} (hu : Resting u) : Inv u.txDone where
  uOpen := hu.uOpen
  transmitterEnabled := hu.transmitterEnabled
  callbackReg := hu.callbackReg
  stage := .idle rfl hu.remaining hu.dre hu.txc
  empty := hu.empty
  func := nofun

/-- The stages are kept by an interrupt that does not lose the end of a job. -/
theorem Irq.inv {u u' : Port σ} (hu : Inv u) (h : Irq u u')
    (hcalled : u.inst.hw.txc = true → u.inst.hw.intenTxc = true → u.inst.callbackEnable = true) :
    Inv u' := by
  cases h with
  | quiet => exact hu
  | data hon hremaining hdre htxc => exact dataRegisterEmpty_inv hu hon hremaining hdre htxc
  | lost _ hset htxc hdisabled =>
      rw [hcalled hset htxc] at hdisabled
      cases hdisabled
  | dry f _ _ _ _ hrest => exact (hrest.filled f).txDone_inv
  | job f hon _ _ _ hrest _ hne =>
      exact writeStaged_inv (hrest.filled f) (hu.func hon) (List.length_pos_iff.mpr hne)

/-- Where the end of a job is lost, `tx_on` stays set with nothing in flight. -/
theorem Irq.wedged {u u' : Port σ} (h : Irq u u') (hset : u.inst.hw.txc = true)
    (htxc : u.inst.hw.intenTxc = true) (hdisabled : u.inst.callbackEnable = false) :
    u'.txOn = true ∧ ¬ u'.InFlight := by
  cases h with
  | quiet _ hclear =>
      rw [hclear htxc] at hset
      cases hset
  | data _ _ _ hoff =>
      rw [hoff] at htxc
      cases htxc
  | dry _ _ _ _ henabled | job _ _ _ _ henabled =>
      rw [hdisabled] at henabled
      cases henabled
  | lost hon _ _ _ hrest =>
      refine ⟨hon, ?_⟩
      rintro (⟨hremaining, -⟩ | ⟨henabled, -⟩)
      · rw [hrest.remaining] at hremaining
        cases hremaining
      · rw [hrest.txc] at henabled
        cases henabled

/-! ## What reaches the wire -/

/-- What happens to a transmitter when nobody but the job writes to it: nothing is lost. -/
structure Extends (hw hw' : Transmitter) : Prop where
  line : ∃ fs, hw'.line = hw.line ++ fs ∧ ∀ f ∈ fs, f.origin = .job
  sent : hw.sent ⊆ hw'.sent

theorem Extends.of_eq {hw hw' : Transmitter} (hline : hw'.line = hw.line)
    (hsent : hw.sent ⊆ hw'.sent) : Extends hw hw' :=
  ⟨⟨[], by rw [hline, List.append_nil], nofun⟩, hsent⟩

theorem Extends.refl (hw : Transmitter) : Extends hw hw := .of_eq rfl (List.Subset.refl _)

theorem line_writeData {hw : Transmitter} (hdata : hw.data = none) (f : Frame) (taken : Bool) :
    (hw.writeData f taken).line = hw.line ++ [f] := by
  simp [Transmitter.line, Transmitter.writeData, hdata]

theorem load_extends {hw hw' : Transmitter} (h : hw.load = some hw') : Extends hw hw' := by
  obtain ⟨f, hdata, hshift, rfl⟩ := load_eq_some h
  exact .of_eq (by simp [Transmitter.line, hdata, hshift]) (List.Subset.refl _)

theorem shiftOut_extends {hw hw' : Transmitter} (h : hw.shiftOut = some hw') :
    Extends hw hw' := by
  obtain ⟨f, hshift, rfl⟩ := shiftOut_eq_some h
  exact .of_eq (by simp [Transmitter.line, hshift]) (List.subset_append_left ..)

theorem halUartStartTx_extends {u : Port σ} (hu : Inv u) :
    Extends u.inst.hw u.halUartStartTx.inst.hw := by
  have hcases := halUartStartTx_cases hu
  generalize u.halUartStartTx = u' at hcases
  cases hcases with
  | nothing => exact .refl _
  | dry => exact .refl _
  | job f hoff _ hne =>
      rw [writeStaged_eq ((hu.resting hoff).filled f) (List.length_pos_iff.mpr hne)]
      exact .of_eq rfl (List.Subset.refl _)

theorem Irq.extends {u u' : Port σ} (h : Irq u u') : Extends u.inst.hw u'.inst.hw := by
  cases h with
  | quiet => exact .refl _
  | data _ hremaining _ _ hdata =>
      refine ⟨⟨[⟨u.inst.dataToSend u.txdata, .job⟩], ?_, by simp⟩, ?_⟩
      · rw [← line_writeData hdata _ true, UsartModule.dataRegisterEmpty, if_pos hremaining]
        dsimp only
        split <;> rfl
      · rw [UsartModule.dataRegisterEmpty, if_pos hremaining]
        dsimp only
        split <;> exact List.Subset.refl _
  | lost => exact .of_eq rfl (List.Subset.refl _)
  | dry => exact .of_eq rfl (List.Subset.refl _)
  | job f _ _ _ _ hrest _ hne =>
      rw [writeStaged_eq (hrest.filled f) (List.length_pos_iff.mpr hne)]
      exact .of_eq rfl (List.Subset.refl _)

/-- The callback's mask is left alone by a call of `hal_uart_start_tx`. -/
theorem halUartStartTx_callbackEnable {u : Port σ} (hu : Inv u) :
    u.halUartStartTx.inst.callbackEnable = u.inst.callbackEnable := by
  have hcases := halUartStartTx_cases hu
  generalize u.halUartStartTx = u' at hcases
  cases hcases with
  | nothing => rfl
  | dry => rfl
  | job f hoff _ hne =>
      rw [writeStaged_eq ((hu.resting hoff).filled f) (List.length_pos_iff.mpr hne)]
      rfl

theorem Irq.callbackEnable {u u' : Port σ} (h : Irq u u') :
    u'.inst.callbackEnable = u.inst.callbackEnable := by
  cases h with
  | quiet | lost | dry => rfl
  | data _ hremaining =>
      rw [UsartModule.dataRegisterEmpty, if_pos hremaining]
  | job f _ _ _ _ hrest _ hne =>
      rw [writeStaged_eq (hrest.filled f) (List.length_pos_iff.mpr hne)]
      rfl

end HalUart.Port
