import MynewtArduinoZero.Lib.Run
import MynewtArduinoZero.Spi.Atomicity

/-!
# Callback wiring

Whether a port has a callback is stored twice: as `txrx_cb` in the HAL, and as
the masks of the registered and enabled callbacks in the driver.  `Wired` says
that the two agree.

The system runs calls and interrupts in any order.  A handler stops where it
calls the application, whose calls are steps like any other, and goes on at
`cbReturn`.
-/

namespace HalSpi

/-! ## Calls and interrupts -/

/-- The ports, and where their handlers are. -/
structure Sys where
  spis : Spis
  phase : Fin spiMax → Phase

/-- After reset. -/
def Sys.reset (present : Fin spiMax → Bool) : Sys where
  spis := .reset present
  phase := fun _ => .idle

/-- What happens to the ports. -/
inductive Event where
  | call (spiNum : Int) (c : Call)
  /-- The handler of a port runs, up to a callback of the application. -/
  | irq (i : Fin spiMax) (irq : Irq)
  /-- A callback of the application returns to the handler. -/
  | cbReturn (i : Fin spiMax)
deriving DecidableEq

/-- The state with a port and the phase of its handler changed. -/
def Sys.setPort (s : Sys) (i : Fin spiMax) (r : Port × Phase) : Sys where
  spis := Function.update s.spis i (some r.1)
  phase := Function.update s.phase i r.2

/-- The rest of a handler behind a callback. -/
def resume (p : Port) : Phase → Option (Except Fault (Port × Phase))
  | .idle => none
  | .rxCallback txc => some (interruptTxc p txc)
  | .txCallback => some (.ok (p, .idle))

/-- One step; `none` is a step that cannot happen, or a read in front of the table. -/
def stepFault (s : Sys) : Event → Option (Except Fault Sys)
  | .call spiNum c => (call s.spis spiNum c).map fun r => r.map fun x => { s with spis := x.2 }
  | .irq i irq =>
      (s.spis i).bind fun p =>
        if s.phase i = .idle ∧ p.driver.hw.handler = true then
          some ((interrupt p irq).map (s.setPort i))
        else none
  | .cbReturn i =>
      (s.spis i).bind fun p => (resume p (s.phase i)).map fun r => r.map (s.setPort i)

/-- A step that goes well. -/
def step (s : Sys) (e : Event) : Option Sys := (stepFault s e).bind Except.toOption

/-! ## The property -/

/-- A callback type is registered and enabled. -/
def Connected (d : Driver) (type : SpiCallback) : Prop :=
  d.module.registeredCallback type = true ∧ d.module.enabledCallback type = true

/-- The types that the end of a transfer is reported with. -/
def completions : List SpiCallback := [.bufferTransceived, .error, .slaveTransmissionComplete]

/-- A configured port with a callback can report the end of a transfer, and without a callback
nothing is enabled. -/
structure Wired (p : Port) : Prop where
  connected : p.driver.module.receiverEnabled = true → p.hal.txrxCb ≠ none →
    ∀ type ∈ completions, Connected p.driver type
  quiet : p.hal.txrxCb = none → ∀ type, p.driver.module.enabledCallback type = false

/-- Every port is wired, and no step fails the assertion of `samd21_hal_spi_cb`. -/
def Consistent (s : Sys) : Prop :=
  (∀ i p, s.spis i = some p → Wired p) ∧ ∀ e, stepFault s e ≠ some (.error .assertion)

/-- `hal_spi_config` gets as far as resetting the module. -/
structure Resets (settings : Option HalSpiSettings) (p : Port) : Prop where
  disabled : p.hal.enabled = false
  pconfig : p.hal.pconfig ≠ none
  valid : ∃ x ∈ settings, x.wordSize ≠ none ∧ x.dataOrder ≠ none ∧ x.dataMode ≠ none
  stopped : p.driver.hw.enable = false
  ready : p.driver.hw.swrst = false

/-- `hal_spi_config` does not reset the module of a port that has a callback. -/
def NotRewired (s : Sys) : Event → Prop
  | .call spiNum (.config settings) => ∀ i p, Names s.spis spiNum i p →
      Resets settings p → p.hal.txrxCb = none
  | _ => True

/-! ## What keeps the wiring -/

/-- What every step keeps that is not a rewiring. -/
structure WiredInv (p : Port) : Prop where
  connected : p.hal.txrxCb ≠ none → ∀ type, Connected p.driver type
  quiet : p.hal.txrxCb = none → ∀ type, p.driver.module.enabledCallback type = false

theorem WiredInv.wired {p : Port} (h : WiredInv p) : Wired p :=
  ⟨fun _ hcb type _ => h.connected hcb type, h.quiet⟩

theorem WiredInv.of_setup {p p' : Port} (h : WiredInv p) (hsetup : SameSetup p.driver p'.driver)
    (hcb : p'.hal.txrxCb = p.hal.txrxCb) : WiredInv p' where
  connected := fun hsome type => by
    rw [Connected, hsetup.registeredCallback, hsetup.enabledCallback]
    exact h.connected (hcb ▸ hsome) type
  quiet := fun hnone type => by
    rw [hsetup.enabledCallback]
    exact h.quiet (hcb ▸ hnone) type

theorem WiredInv.handled {p p' : Port} (h : WiredInv p) (hp : Handled p p') : WiredInv p' :=
  h.of_setup hp.setup hp.txrxCb

theorem WiredInv.blank {p : Port} (hcb : p.hal.txrxCb = none)
    (henabled : p.driver.module.enabledCallback = fun _ => false) : WiredInv p where
  connected := fun h => absurd hcb h
  quiet := fun _ type => by rw [henabled]

theorem setCallbacks_connected (cb : Nat) (d : Driver) (type : SpiCallback) :
    Connected (setCallbacks (some cb) d) type := by
  cases type <;> exact ⟨rfl, rfl⟩

theorem setCallbacks_quiet (d : Driver) (type : SpiCallback) :
    (setCallbacks none d).module.enabledCallback type = false := by
  cases type <;> rfl

/-- What `hal_spi_config` can do to a port. -/
inductive ConfigPort (settings : Option HalSpiSettings) (p p' : Port) : Prop
  | refused (h : p' = p) (hnot : ¬ Resets settings p)
  | reset (h : Resets settings p) (hal : p'.hal = p.hal)
      (receiver : p'.driver.module.receiverEnabled = true)
      (enabled : p'.driver.module.enabledCallback = fun _ => false)
      (registered : p'.driver.module.registeredCallback = fun _ => false)

theorem spiSetConfig_module {d d' : Driver} {cfg : SpiConfig} {rc : Status}
    (h : spiSetConfig d cfg = .ok (rc, d')) :
    d'.module.receiverEnabled = cfg.receiverEnable ∧
      d'.module.enabledCallback = d.module.enabledCallback ∧
      d'.module.registeredCallback = d.module.registeredCallback := by
  unfold spiSetConfig at h
  dsimp only at h
  split at h
  · cases h
    exact ⟨rfl, rfl, rfl⟩
  · split at h
    · cases h
    · cases h
      exact ⟨rfl, rfl, rfl⟩
    · cases h
      exact ⟨rfl, rfl, rfl⟩

theorem configPort_cases {settings : Option HalSpiSettings} {p p' : Port} {rc : Int}
    (h : configPort settings p = .ok (rc, p')) : ConfigPort settings p p' := by
  unfold configPort at h
  split at h
  · rename_i henabled
    cases h
    exact .refused rfl fun hr => by simp [hr.disabled] at henabled
  rename_i henabled
  unfold samd21SpiConfig at h
  split at h
  · cases h
  rename_i hpconfig
  split at h
  · cases h
  rename_i x
  split at h
  · rename_i hword
    cases h
    refine .refused rfl fun hr => ?_
    obtain ⟨y, hy, hw, -⟩ := hr.valid
    cases hy
    exact hw hword
  rename_i size hword
  split at h
  · rename_i hformat
    cases h
    refine .refused rfl fun hr => ?_
    obtain ⟨y, hy, -, ho, hm⟩ := hr.valid
    cases hy
    exact hformat.elim ho hm
  rename_i hformat
  rw [not_or] at hformat
  dsimp only at h
  split at h
  · cases h
  rename_i hinit
  cases h
  unfold spiInit at hinit
  split at hinit
  · cases hinit
  split at hinit
  · rename_i hen
    cases hinit
    exact .refused rfl fun hr => by simp [hr.stopped] at hen
  rename_i hen
  split at hinit
  · rename_i hrst
    cases hinit
    exact .refused rfl fun hr => by simp [hr.ready] at hrst
  rename_i hrst
  obtain ⟨hrx, hmask, hreg⟩ := spiSetConfig_module hinit
  refine .reset ⟨by simpa using henabled, hpconfig, ⟨x, rfl, by simp [hword], hformat.1, hformat.2⟩,
    by simpa using hen, by simpa using hrst⟩ rfl hrx hmask hreg

theorem WiredInv.setXfer {p : Port} (h : WiredInv p) (xfer : Bool) : WiredInv (p.setXfer xfer) :=
  h.of_setup (.refl _) rfl

theorem blocking_wired {x : Txrx} {p p' : Port} {rc : Int} (h : WiredInv p)
    (hcall : samd21HalSpiTxrxBlocking x p = .ok (rc, p')) : WiredInv p' := by
  unfold samd21HalSpiTxrxBlocking at hcall
  dsimp only at hcall
  split at hcall
  · cases hcall
    exact (h.setXfer true).setXfer false
  · split at hcall
    · cases hcall
    · cases hcall
    · rename_i hirqs _
      cases hcall
      exact ((h.setXfer true).handled (interrupts_handled hirqs)).setXfer false

theorem spiTransceiveBufferJob_sameSetup (d : Driver) (txData : Option (List UInt8))
    (rxData : Bool) (length : UInt16) :
    SameSetup d (spiTransceiveBufferJob d txData rxData length).2 := by
  unfold spiTransceiveBufferJob
  repeat' split
  all_goals exact ⟨rfl, rfl, rfl, rfl⟩

theorem txrxPort_wired {x : Txrx} {p p' : Port} {rc : Int} (h : WiredInv p)
    (hcall : txrxPort x p = .ok (rc, p')) : WiredInv p' := by
  unfold txrxPort at hcall
  split at hcall
  · cases hcall
    exact h
  split at hcall
  · cases hcall
    exact h
  split at hcall
  · cases hcall
    exact h
  split at hcall
  · cases hcall
    exact h
  split at hcall
  · exact blocking_wired h hcall
  · cases hcall
    exact h.of_setup (spiTransceiveBufferJob_sameSetup _ _ _ _) rfl

/-- A call keeps the wiring of the port it finds, unless it rewires it. -/
theorem callPort_wired {p p' : Port} {c : Call} {rc : Int} (h : WiredInv p)
    (hclean : ∀ settings, c = .config settings → Resets settings p → p.hal.txrxCb = none)
    (hcall : callPort c p = .ok (rc, p')) : WiredInv p' := by
  cases c with
  | init cfg spiType =>
      cases cfg with
      | none =>
          cases hcall
          exact h
      | some cfg =>
          cases spiType with
          | master | slave | other =>
              cases hcall
              exact .blank rfl rfl
  | config settings =>
      cases configPort_cases hcall with
      | refused heq =>
          rw [heq]
          exact h
      | reset hr hal _ enabled => exact .blank (by rw [hal]; exact hclean settings rfl hr) enabled
  | enable =>
      simp only [callPort, enablePort, spiEnable] at hcall
      split at hcall
      · cases hcall
      · cases hcall
        exact h.of_setup ⟨rfl, rfl, rfl, rfl⟩ rfl
  | disable =>
      simp only [callPort, disablePort, spiDisable] at hcall
      split at hcall
      · cases hcall
      · cases hcall
        exact h.of_setup ⟨rfl, rfl, rfl, rfl⟩ rfl
  | setTxrxCb txrxCb arg =>
      simp only [callPort, setTxrxCbPort] at hcall
      split at hcall
      · cases hcall
        exact h
      · cases txrxCb with
        | none =>
            cases hcall
            exact ⟨fun hsome => absurd rfl hsome, fun _ => setCallbacks_quiet p.driver⟩
        | some cb =>
            cases hcall
            exact ⟨fun _ => setCallbacks_connected cb p.driver, fun hnone => by cases hnone⟩
  | txrx x => exact txrxPort_wired h hcall
  | abort =>
      simp only [callPort, abortPort, spiAbortJob] at hcall
      split at hcall
      · cases hcall
      · cases hcall
        exact h.of_setup ⟨rfl, rfl, rfl, rfl⟩ rfl

/-! ## The assertion -/

theorem samd21HalSpiCb_assertion {p : Port} {fault : Fault}
    (h : samd21HalSpiCb p = .error fault) : p.hal.txrxCb = none := by
  unfold samd21HalSpiCb at h
  split at h
  · split at h
    · assumption
    · cases h
  · cases h

theorem spiCallCb_some {d : Driver} {type type' : SpiCallback} (h : spiCallCb d type = some type') :
    d.module.enabledCallback type = true := by
  unfold spiCallCb at h
  split at h
  · rename_i hcalls
    rw [SpiModule.callsCb, Bool.and_eq_true] at hcalls
    exact hcalls.1
  · cases h

/-- A part of the handler calls a callback only where one is enabled. -/
theorem spiReceiveComplete_some {d : Driver} {bufovf : Bool} {data : UInt16} {type : SpiCallback}
    (h : (spiReceiveComplete d bufovf data).1 = some type) :
    ∃ type', d.module.enabledCallback type' = true := by
  have hread := spiRead_sameSetup d data
  unfold spiReceiveComplete at h
  split at h
  · split at h
    · exact ⟨_, spiCallCb_some h⟩
    · cases h
  · dsimp only at h
    split at h
    · split at h
      · exact ⟨_, hread.enabledCallback ▸ spiCallCb_some h⟩
      · split at h
        · exact ⟨_, hread.enabledCallback ▸ spiCallCb_some h⟩
        · exact ⟨_, hread.enabledCallback ▸ spiCallCb_some h⟩
        · cases h
    · cases h

theorem spiTransmitComplete_some {d : Driver} {type : SpiCallback}
    (h : (spiTransmitComplete d).1 = some type) : ∃ type', d.module.enabledCallback type' = true := by
  unfold spiTransmitComplete at h
  split at h
  · exact ⟨_, spiCallCb_some h⟩
  · dsimp only at h
    split at h
    · exact ⟨_, spiCallCb_some h⟩
    · cases h

theorem spiDataRegisterEmpty_error {d : Driver} {fault : Fault}
    (h : spiDataRegisterEmpty d = .error fault) : fault = .outOfBounds := by
  unfold spiDataRegisterEmpty spiWrite at h
  split at h
  · cases h
  · split at h
    · rename_i hwrite
      dsimp only at hwrite
      split at hwrite <;> cases hwrite
      cases h
      rfl
    · split at h
      · dsimp only at h
        split at h <;> cases h
      · cases h

/-- Where no callback is set, none is enabled. -/
def Quiet (p : Port) : Prop :=
  p.hal.txrxCb = none → ∀ type, p.driver.module.enabledCallback type = false

theorem Quiet.not_none {p : Port} (h : Quiet p)
    (hsome : ∃ type, p.driver.module.enabledCallback type = true) : p.hal.txrxCb ≠ none := by
  intro hnone
  obtain ⟨type, htype⟩ := hsome
  rw [h hnone type] at htype
  cases htype

theorem Quiet.handled {p p' : Port} (h : Quiet p) (hp : Handled p p') : Quiet p' := by
  intro hnone type
  rw [hp.setup.enabledCallback]
  exact h (hp.txrxCb ▸ hnone) type

theorem interruptTxc_no_assertion {p : Port} {txc : Bool} {fault : Fault} (h : Quiet p)
    (herr : interruptTxc p txc = .error fault) : fault ≠ .assertion := by
  unfold interruptTxc at herr
  split at herr
  · split at herr
    · cases herr
    · rename_i hd
      have hcb := h.not_none (spiTransmitComplete_some (congrArg Prod.fst hd))
      split at herr
      · rename_i hcall
        exact absurd (samd21HalSpiCb_assertion hcall) hcb
      · cases herr
      · cases herr
  · cases herr

theorem interruptRxc_no_assertion {p : Port} {rxc txc : Bool} {irq : Irq} {fault : Fault}
    (h : Quiet p) (herr : interruptRxc p rxc txc irq = .error fault) : fault ≠ .assertion := by
  have hsetup := spiReceiveComplete_sameSetup p.driver irq.bufovf irq.data
  unfold interruptRxc at herr
  split at herr
  · split at herr
    · rename_i hd
      rw [hd] at hsetup
      exact interruptTxc_no_assertion (h.handled (.of_setup hsetup)) herr
    · rename_i hd
      have hcb := h.not_none (spiReceiveComplete_some (congrArg Prod.fst hd))
      rw [hd] at hsetup
      split at herr
      · rename_i hcall
        exact absurd (samd21HalSpiCb_assertion hcall) hcb
      · rename_i hcall
        exact interruptTxc_no_assertion
          ((h.handled (.of_setup hsetup)).handled (samd21HalSpiCb_handled hcall)) herr
      · cases herr
  · exact interruptTxc_no_assertion h herr

theorem interrupt_no_assertion {p : Port} {irq : Irq} {fault : Fault} (h : Quiet p)
    (herr : interrupt p irq = .error fault) : fault ≠ .assertion := by
  unfold interrupt at herr
  dsimp only at herr
  split at herr
  · split at herr
    · rename_i hd
      cases herr
      rw [spiDataRegisterEmpty_error hd]
      nofun
    · rename_i hd
      exact interruptRxc_no_assertion
        (h.handled (.of_setup (spiDataRegisterEmpty_sameSetup hd))) herr
  · exact interruptRxc_no_assertion h herr

theorem interrupts_no_assertion : ∀ {irqs : List Irq} {p : Port} {fault : Fault}, Quiet p →
    interrupts p irqs = .error fault → fault ≠ .assertion
  | [], p, fault, _, herr => by cases herr
  | irq :: irqs, p, fault, h, herr => by
      unfold interrupts at herr
      split at herr
      · rename_i hirq
        cases herr
        exact interrupt_no_assertion h hirq
      · rename_i hirq
        exact interrupts_no_assertion (h.handled (interrupt_handled hirq)) herr

theorem map_error {α β : Type} {f : α → β} {x : Except Fault α} {fault : Fault}
    (h : x.map f = .error fault) : x = .error fault := by
  cases x with
  | error f' =>
      cases h
      rfl
  | ok a => cases h

theorem spiSetConfig_no_assertion {d : Driver} {cfg : SpiConfig} {fault : Fault}
    (h : spiSetConfig d cfg = .error fault) : fault ≠ .assertion := by
  unfold spiSetConfig at h
  dsimp only at h
  split at h
  · cases h
  · split at h
    · rename_i hbaud
      cases h
      unfold sercomGetSyncBaudVal at hbaud
      repeat' split at hbaud
      all_goals cases hbaud
      nofun
    · cases h
    · cases h

theorem spiInit_no_assertion {d : Driver} {cfg : SpiConfig} {fault : Fault}
    (h : spiInit d cfg = .error fault) : fault ≠ .assertion := by
  unfold spiInit at h
  split at h
  · cases h
    nofun
  split at h
  · cases h
  split at h
  · cases h
  exact spiSetConfig_no_assertion h

theorem configPort_no_assertion {settings : Option HalSpiSettings} {p : Port} {fault : Fault}
    (h : configPort settings p = .error fault) : fault ≠ .assertion := by
  unfold configPort at h
  split at h
  · cases h
  unfold samd21SpiConfig at h
  split at h
  · cases h
    nofun
  split at h
  · cases h
    nofun
  split at h
  · cases h
  split at h
  · cases h
  dsimp only at h
  split at h
  · rename_i hinit
    cases h
    exact spiInit_no_assertion hinit
  · cases h

theorem blocking_no_assertion {x : Txrx} {p : Port} {fault : Fault} (h : Quiet p)
    (herr : samd21HalSpiTxrxBlocking x p = .error fault) : fault ≠ .assertion := by
  unfold samd21HalSpiTxrxBlocking at herr
  dsimp only at herr
  split at herr
  · cases herr
  · split at herr
    · rename_i hirqs
      cases herr
      exact interrupts_no_assertion (p := p.setXfer true) h hirqs
    · cases herr
      nofun
    · cases herr

theorem txrxPort_no_assertion {x : Txrx} {p : Port} {fault : Fault} (h : Quiet p)
    (herr : txrxPort x p = .error fault) : fault ≠ .assertion := by
  unfold txrxPort at herr
  repeat' split at herr
  all_goals first
    | exact blocking_no_assertion h herr
    | cases herr

/-- The driver calls that need the SERCOM fail through NULL only. -/
theorem null_no_assertion {α β : Type} {b : Bool} {d : α} {g : α → β} {fault : Fault}
    (h : (if b = false then Except.error Fault.null else .ok d).map g = .error fault) :
    fault ≠ .assertion := by
  cases b with
  | false =>
      cases h
      nofun
  | true => cases h

theorem callPort_no_assertion {p : Port} {c : Call} {fault : Fault} (h : Quiet p)
    (herr : callPort c p = .error fault) : fault ≠ .assertion := by
  cases c with
  | init cfg spiType =>
      cases cfg with
      | none => cases herr
      | some cfg => cases spiType <;> cases herr
  | config settings => exact configPort_no_assertion herr
  | enable => exact null_no_assertion herr
  | disable => exact null_no_assertion herr
  | setTxrxCb txrxCb arg =>
      simp only [callPort, setTxrxCbPort] at herr
      split at herr <;> cases herr
  | txrx x => exact txrxPort_no_assertion h herr
  | abort => exact null_no_assertion herr

/-! ## Runs -/

/-- What every step keeps that is not a rewiring. -/
def SysInv (s : Sys) : Prop := ∀ i p, s.spis i = some p → WiredInv p

theorem SysInv.reset (present : Fin spiMax → Bool) : SysInv (.reset present) := by
  intro i p hp
  simp only [Sys.reset, Spis.reset] at hp
  split at hp
  · cases hp
    exact .blank rfl rfl
  · cases hp

theorem SysInv.update {s : Sys} (h : SysInv s) {i : Fin spiMax} {p : Port} (hp : WiredInv p)
    {t : Sys} (ht : t.spis = Function.update s.spis i (some p)) : SysInv t := by
  intro j q hq
  rw [ht] at hq
  by_cases hj : j = i
  · rw [hj, Function.update_self] at hq
    cases hq
    exact hp
  · rw [Function.update_of_ne hj] at hq
    exact h j q hq

/-- What a call that returns has done to the table. -/
inductive CallOn (s : Spis) (spiNum : Int) (c : Call) : Spis → Prop
  | same (h : ∀ i p, Names s spiNum i p → ∃ t, c = .init none t) : CallOn s spiNum c s
  | port {i : Fin spiMax} {p p' : Port} {rc : Int} (hi : Names s spiNum i p)
      (h : callPort c p = .ok (rc, p')) : CallOn s spiNum c (Function.update s i (some p'))

theorem onPort_cases {s s' : Spis} {spiNum rc : Int} {c : Call}
    (h : onPort s spiNum (callPort c) = some (.ok (rc, s'))) : CallOn s spiNum c s' := by
  by_cases hnum : 0 ≤ spiNum
  · by_cases hname : ∃ i p, Names s spiNum i p
    · obtain ⟨i, p, hi⟩ := hname
      rw [onPort_names _ hi] at h
      cases hp : callPort c p with
      | error fault =>
          rw [hp] at h
          cases h
      | ok r =>
          rw [hp] at h
          cases h
          exact .port hi hp
    · rw [onPort_unnamed _ hnum fun i p h => hname ⟨i, p, h⟩] at h
      cases h
      exact .same fun i p h => absurd ⟨i, p, h⟩ hname
  · rw [onPort_neg _ _ hnum] at h
    cases h

theorem call_cases {s s' : Spis} {spiNum rc : Int} {c : Call}
    (h : call s spiNum c = some (.ok (rc, s'))) : CallOn s spiNum c s' := by
  unfold call at h
  split at h
  · cases h
    exact .same fun _ _ _ => ⟨_, rfl⟩
  · exact onPort_cases h

theorem call_no_assertion {s : Spis} {spiNum : Int} {c : Call} {fault : Fault}
    (hs : ∀ i p, s i = some p → Quiet p) (h : call s spiNum c = some (.error fault)) :
    fault ≠ .assertion := by
  unfold call at h
  split at h
  · cases h
  · by_cases hnum : 0 ≤ spiNum
    · by_cases hname : ∃ i p, Names s spiNum i p
      · obtain ⟨i, p, hi⟩ := hname
        rw [onPort_names _ hi, Option.some.injEq] at h
        exact callPort_no_assertion (hs i p hi.2) (map_error h)
      · rw [onPort_unnamed _ hnum fun i p h => hname ⟨i, p, h⟩] at h
        cases h
    · rw [onPort_neg _ _ hnum] at h
      cases h

/-- What a step has done. -/
inductive Step (s : Sys) : Event → Sys → Prop
  | call {spiNum : Int} {c : Call} {s' : Spis} (h : CallOn s.spis spiNum c s') :
      Step s (.call spiNum c) { s with spis := s' }
  | irq {i : Fin spiMax} {irq : Irq} {p : Port} {r : Port × Phase} (hp : s.spis i = some p)
      (h : Handled p r.1) : Step s (.irq i irq) (s.setPort i r)
  | cbReturn {i : Fin spiMax} {p : Port} {r : Port × Phase} (hp : s.spis i = some p)
      (h : Handled p r.1) : Step s (.cbReturn i) (s.setPort i r)

theorem resume_handled {p : Port} {phase : Phase} {r : Port × Phase}
    (h : resume p phase = some (.ok r)) : Handled p r.1 := by
  cases phase with
  | idle => cases h
  | rxCallback txc =>
      rw [resume, Option.some.injEq] at h
      exact interruptTxc_handled h
  | txCallback =>
      cases h
      exact .refl p

theorem step_cases {s t : Sys} {e : Event} (h : step s e = some t) : Step s e t := by
  obtain ⟨x, hx, ht⟩ := Option.bind_eq_some_iff.mp h
  cases x with
  | error fault => cases ht
  | ok u =>
      cases ht
      cases e with
      | call spiNum c =>
          obtain ⟨r, hr, hu⟩ := Option.map_eq_some_iff.mp hx
          cases r with
          | error fault => cases hu
          | ok r =>
              cases hu
              exact .call (call_cases hr)
      | irq i irq =>
          obtain ⟨p, hp, hirq⟩ := Option.bind_eq_some_iff.mp hx
          rw [Option.ite_none_right_eq_some, Option.some.injEq] at hirq
          obtain ⟨-, hirq⟩ := hirq
          cases hr : interrupt p irq with
          | error fault =>
              rw [hr] at hirq
              cases hirq
          | ok r =>
              rw [hr] at hirq
              cases hirq
              exact .irq hp (interrupt_handled hr)
      | cbReturn i =>
          obtain ⟨p, hp, hret⟩ := Option.bind_eq_some_iff.mp hx
          obtain ⟨r, hr, hu⟩ := Option.map_eq_some_iff.mp hret
          cases r with
          | error fault => cases hu
          | ok r =>
              cases hu
              exact .cbReturn hp (resume_handled hr)

theorem step_inv {s t : Sys} {e : Event} (hs : SysInv s) (hC : NotRewired s e)
    (h : step s e = some t) : SysInv t := by
  cases step_cases h with
  | call hcall =>
      cases hcall with
      | same => exact hs
      | port hi hport =>
          refine hs.update (callPort_wired (hs _ _ hi.2) ?_ hport) rfl
          rintro settings rfl
          exact hC _ _ hi
  | irq hp hr => exact hs.update ((hs _ _ hp).handled hr) rfl
  | cbReturn hp hr => exact hs.update ((hs _ _ hp).handled hr) rfl

theorem stepFault_no_assertion {s : Sys} (hs : SysInv s) (e : Event) :
    stepFault s e ≠ some (.error .assertion) := by
  intro h
  cases e with
  | call spiNum c =>
      obtain ⟨r, hr, hu⟩ := Option.map_eq_some_iff.mp h
      rw [map_error hu] at hr
      exact call_no_assertion (fun i p hp => (hs i p hp).quiet) hr rfl
  | irq i irq =>
      obtain ⟨p, hp, hirq⟩ := Option.bind_eq_some_iff.mp h
      rw [Option.ite_none_right_eq_some, Option.some.injEq] at hirq
      exact interrupt_no_assertion (hs i p hp).quiet (map_error hirq.2) rfl
  | cbReturn i =>
      obtain ⟨p, hp, hret⟩ := Option.bind_eq_some_iff.mp h
      obtain ⟨r, hr, hu⟩ := Option.map_eq_some_iff.mp hret
      rw [map_error hu] at hr
      cases hphase : s.phase i with
      | idle =>
          rw [hphase] at hr
          cases hr
      | rxCallback txc =>
          rw [hphase, resume, Option.some.injEq] at hr
          exact interruptTxc_no_assertion (hs i p hp).quiet hr rfl
      | txCallback =>
          rw [hphase] at hr
          cases hr

theorem SysInv.consistent {s : Sys} (hs : SysInv s) : Consistent s :=
  ⟨fun i p hp => (hs i p hp).wired, stepFault_no_assertion hs⟩

/-- Resetting the module of a port that has a callback disconnects it. -/
theorem step_break {s t : Sys} {e : Event} (hC : ¬ NotRewired s e)
    (h : step s e = some t) : ¬ Consistent t := by
  rintro ⟨hwired, -⟩
  cases step_cases h with
  | call hcall =>
      rename_i spiNum c s'
      cases c with
      | config settings =>
          simp only [NotRewired, not_forall] at hC
          obtain ⟨i, p, hi, hreset, hcb⟩ := hC
          cases hcall with
          | same hsame =>
              obtain ⟨t, ht⟩ := hsame i p hi
              cases ht
          | @port j q q' rc hj hport =>
              obtain rfl := hi.unique hj
              have hw := hwired j q' (Function.update_self ..)
              cases configPort_cases hport with
              | refused _ hnot => exact hnot hreset
              | reset _ hal hrx _ registered =>
                  have hcon := hw.connected hrx (by rw [hal]; exact hcb) .bufferTransceived (.head _)
                  rw [Connected, registered] at hcon
                  exact Bool.false_ne_true hcon.1
      | init | enable | disable | setTxrxCb | txrx | abort => exact hC trivial
  | irq => exact hC trivial
  | cbReturn => exact hC trivial

/-- In every run, every state is consistent (a configured port
with a callback can report the end of a transfer, without a callback nothing is enabled, and the
assertion of `samd21_hal_spi_cb` does not fail) exactly when no `hal_spi_config` of the run resets
the module of a port that has a callback. -/
theorem consistent_iff_not_rewired {present : Fin spiMax → Bool} {es : List Event} {t : Sys}
    (hrun : Run.run step (.reset present) es = some t) :
    Run.Throughout step Consistent (.reset present) es ↔
      Run.Along step NotRewired (.reset present) es :=
  Run.throughout_iff_along (fun _ => SysInv.consistent) (fun _ _ _ => step_inv)
    (fun _ _ _ _ => step_break) (SysInv.reset present) hrun

/-- Settings of a port: bytes, most significant bit first, mode 0, 1 MHz. -/
def plainSettings : HalSpiSettings :=
  { wordSize := some .bits8, dataOrder := some true, dataMode := some 0, baudrate := 1000000 }

/-- Port 0 is configured, and then given its callback. -/
def wiredCalls : List Event :=
  [.call 0 (.init (some 0) .master), .call 0 (.config (some plainSettings)),
    .call 0 (.setTxrxCb (some 1) none), .call 0 .enable]

theorem wiredCalls_run : (Run.run step (.reset fun i => i = 0) wiredCalls).isSome := rfl

/-- The callback comes behind the configuration, so every state is consistent. -/
theorem consistent_iff_not_rewired_wired :
    Run.Throughout step Consistent (.reset fun i => i = 0) wiredCalls := by
  refine (consistent_iff_not_rewired (Option.some_get wiredCalls_run).symm).mpr
    ⟨trivial, fun t ht => ⟨fun i p hi _ => ?_, fun _ _ => ⟨trivial, fun _ _ => ⟨trivial, fun _ _ => trivial⟩⟩⟩⟩
  obtain ⟨hnum, hp⟩ := hi
  obtain rfl : i = 0 := Fin.ext (Int.ofNat_inj.mp hnum.symm)
  cases ht
  cases hp
  rfl

/-- Port 0 is given its callback, and then configured. -/
def rewiredCalls : List Event :=
  [.call 0 (.init (some 0) .master), .call 0 (.setTxrxCb (some 1) none),
    .call 0 (.config (some plainSettings))]

/-- Configured behind its callback, the port is not consistent any more. -/
theorem rewired_disconnects :
    ∃ t, Run.run step (.reset fun i => i = 0) rewiredCalls = some t ∧ ¬ Consistent t := by
  refine ⟨_, rfl, fun h => ?_⟩
  have hcon := (h.1 0 _ rfl).connected rfl (Option.some_ne_none _) .bufferTransceived (.head _)
  exact Bool.false_ne_true hcon.1

end HalSpi
