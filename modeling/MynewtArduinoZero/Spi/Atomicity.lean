import MynewtArduinoZero.Lib.Run
import MynewtArduinoZero.Spi.HalSpi

/-!
# Failing calls

What a call of `hal_spi.c` that returns an error leaves of the HAL state of the
ports.  `Kept` is the promise (an error changes nothing), `Clean` the condition
under which a call keeps it, and `kept_iff_clean_call` says that this condition is
exact in every state whatever.

Two calls break the promise: `hal_spi_init` clears the port before it looks at
the type, and a non-blocking `hal_spi_txrx` sets XFER before the driver refuses
the job.
-/

namespace HalSpi

/-- `spiNum` is the number of a port. -/
def Names (s : Spis) (spiNum : Int) (i : Fin spiMax) (p : Port) : Prop :=
  spiNum = i.val ∧ s i = some p

/-- The HAL state of every port is as it was. -/
def Unchanged (s s' : Spis) : Prop := ∀ i, (s' i).map Port.hal = (s i).map Port.hal

/-- Where the call returns an error, the HAL state is as it was. -/
def Kept (s : Spis) (spiNum : Int) (c : Call) : Prop :=
  ∃ r, call s spiNum c = some r ∧ ∀ rc s', r = .ok (rc, s') → rc ≠ 0 → Unchanged s s'

/-- The arguments of `hal_spi_txrx` that a port with a callback hands to the driver. -/
structure HandsOver (x : Txrx) (p : Port) : Prop where
  positive : 0 < x.len
  bounded : x.len ≤ 65535
  notBusy : p.hal.xfer = false
  master : p.hal.master = true → x.txbuf ≠ none
  slave : p.hal.master = false → x.txbuf ≠ none ∨ x.rxbuf = true
  callback : p.hal.txrxCb ≠ none

/-- The condition under which a call keeps the promise on the port it finds. -/
def CleanPort (p : Port) : Call → Prop
  | .init (some _) spiType => spiType = .other → p.hal = .zero
  | .txrx x => HandsOver x p →
      p.driver.module.receiverEnabled = true ∧ p.driver.module.status ≠ .busy
  | _ => True

/-- The condition under which a call keeps the promise. -/
def Clean (s : Spis) (spiNum : Int) : Call → Prop
  | .init none _ => True
  | c => 0 ≤ spiNum ∧ ∀ i p, Names s spiNum i p → CleanPort p c

/-! ## The calls on a port -/

/-- The promise on the port that a call finds. -/
def KeptPort (p : Port) (c : Call) : Prop :=
  ∀ rc p', callPort c p = .ok (rc, p') → rc ≠ 0 → p'.hal = p.hal

theorem keptPort_init_iff (p : Port) (cfg : Nat) (spiType : SpiType) :
    KeptPort p (.init (some cfg) spiType) ↔ CleanPort p (.init (some cfg) spiType) := by
  cases spiType with
  | master => exact iff_of_true (fun rc p' h hrc => by cases h; exact absurd rfl hrc) nofun
  | slave => exact iff_of_true (fun rc p' h hrc => by cases h; exact absurd rfl hrc) nofun
  | other =>
      constructor
      · exact fun h _ => (h _ _ rfl (by decide)).symm
      · intro h rc p' heq _
        cases heq
        exact (h rfl).symm

theorem keptPort_config (p : Port) (settings : Option HalSpiSettings) :
    KeptPort p (.config settings) := by
  intro rc p' h _
  simp only [callPort, configPort, samd21SpiConfig] at h
  repeat' split at h
  all_goals cases h
  all_goals rfl

theorem keptPort_setTxrxCb (p : Port) (txrxCb arg : Option Nat) :
    KeptPort p (.setTxrxCb txrxCb arg) := by
  intro rc p' h hrc
  simp only [callPort, setTxrxCbPort] at h
  split at h
  · cases h
    rfl
  · cases h
    exact absurd rfl hrc

theorem rc_ok {α : Type} {f : Except Fault α} {g : α → Port} {rc : Int} {p' : Port}
    (h : (f.map fun d => ((0 : Int), g d)) = .ok (rc, p')) : rc = 0 := by
  cases f with
  | error => cases h
  | ok d =>
      cases h
      rfl

/-- A blocking transfer sets XFER and clears it again. -/
theorem blocking_hal {x : Txrx} {p p' : Port} {rc : Int} (hcb : p.hal.txrxCb = none)
    (hxfer : p.hal.xfer = false) (h : samd21HalSpiTxrxBlocking x p = .ok (rc, p')) :
    p'.hal = p.hal := by
  have hclear : ∀ q : Port, q.hal = (p.setXfer true).hal → (q.setXfer false).hal = p.hal := by
    intro q hq
    simp only [Port.setXfer] at hq ⊢
    rw [hq]
    exact (congrArg (fun b => { p.hal with xfer := b }) hxfer).symm
  unfold samd21HalSpiTxrxBlocking at h
  dsimp only at h
  split at h
  · cases h
    exact hclear _ rfl
  · split at h
    · cases h
    · cases h
    · rename_i hirqs _
      cases h
      exact hclear _ ((interrupts_handled hirqs).hal.resolve_right fun h => h.1 hcb)

theorem rcFromStatus_eq_zero {status : Status} : samd21HalSpiRcFromStatus status = 0 ↔ status = .ok := by
  cases status <;> decide

/-- The driver takes a job on a configured module that is not busy. -/
theorem job_ok_iff {d : Driver} {txData : Option (List UInt8)} {rxData : Bool} {length : UInt16}
    (hlen : length ≠ 0) : (spiTransceiveBufferJob d txData rxData length).1 = .ok ↔
      d.module.receiverEnabled = true ∧ d.module.status ≠ .busy := by
  unfold spiTransceiveBufferJob
  rw [if_neg hlen]
  by_cases hrx : d.module.receiverEnabled = false
  · simp [hrx]
  · by_cases hbusy : d.module.status = .busy
    · simp [hrx, hbusy]
    · simp [hrx, hbusy]

theorem nonblocking_iff {x : Txrx} {p : Port} (hpos : 0 < x.len) (hle : x.len ≤ 65535) :
    (samd21HalSpiTxrxNonblocking x p).1 = 0 ↔
      p.driver.module.receiverEnabled = true ∧ p.driver.module.status ≠ .busy := by
  have hsize : UInt16.size = 65536 := rfl
  have hlen : UInt16.ofNat x.len.toNat ≠ 0 := by
    intro h
    have hzero := congrArg UInt16.toNat h
    rw [UInt16.toNat_ofNat_of_lt' (by omega)] at hzero
    have : x.len.toNat = 0 := hzero
    omega
  exact rcFromStatus_eq_zero.trans (job_ok_iff hlen)

theorem nonblocking_xfer (x : Txrx) (p : Port) :
    (samd21HalSpiTxrxNonblocking x p).2.hal.xfer = true := rfl

theorem callPort_handsOver {x : Txrx} {p : Port} (hover : HandsOver x p) :
    callPort (.txrx x) p = .ok (samd21HalSpiTxrxNonblocking x p) := by
  have hpos := hover.positive
  have hle := hover.bounded
  simp only [callPort, txrxPort]
  rw [if_neg (by omega), if_neg (by simp [hover.notBusy]),
    if_neg fun h => hover.master h.1 h.2, if_neg, if_neg hover.callback]
  rintro ⟨hslave, htx, hrx⟩
  rcases hover.slave hslave with h | h
  · exact h htx
  · rw [hrx] at h
    cases h

/-- A transfer that is not handed over is refused, or is over when the call returns. -/
theorem hal_of_not_handsOver {x : Txrx} {p p' : Port} {rc : Int} (hover : ¬ HandsOver x p)
    (h : callPort (.txrx x) p = .ok (rc, p')) : p'.hal = p.hal := by
  simp only [callPort, txrxPort] at h
  split at h
  · cases h
    rfl
  rename_i hlen
  split at h
  · cases h
    rfl
  rename_i hxfer
  split at h
  · cases h
    rfl
  rename_i hmaster
  split at h
  · cases h
    rfl
  rename_i hslave
  split at h
  · rename_i hcb
    exact blocking_hal hcb (by simpa using hxfer) h
  rename_i hcb
  refine absurd ⟨by omega, by omega, by simpa using hxfer, fun hm htx => hmaster ⟨hm, htx⟩,
    fun hm => ?_, hcb⟩ hover
  by_contra hnone
  rw [not_or, not_not, Bool.not_eq_true] at hnone
  exact hslave ⟨hm, hnone⟩

theorem keptPort_txrx_iff (p : Port) (x : Txrx) :
    KeptPort p (.txrx x) ↔ CleanPort p (.txrx x) := by
  by_cases hover : HandsOver x p
  · have hiff := nonblocking_iff (p := p) hover.positive hover.bounded
    constructor
    · intro hkept _
      by_contra hbad
      have hsame := hkept _ _ (callPort_handsOver hover) (fun h => hbad (hiff.mp h))
      have hxfer := (congrArg Hal.xfer hsame).symm.trans (nonblocking_xfer x p)
      rw [hover.notBusy] at hxfer
      cases hxfer
    · intro hclean rc p' h hrc
      rw [callPort_handsOver hover] at h
      cases h
      exact absurd (hiff.mpr (hclean hover)) hrc
  · refine iff_of_true ?_ fun h => absurd h hover
    intro rc p' h _
    exact hal_of_not_handsOver hover h

theorem keptPort_iff (p : Port) (c : Call) (hinit : ∀ t, c ≠ .init none t) :
    KeptPort p c ↔ CleanPort p c := by
  cases c with
  | init cfg spiType =>
      cases cfg with
      | none => exact absurd rfl (hinit spiType)
      | some cfg => exact keptPort_init_iff p cfg spiType
  | config settings => exact iff_of_true (keptPort_config p settings) trivial
  | enable => exact iff_of_true (fun _ _ h hrc => absurd (rc_ok h) hrc) trivial
  | disable => exact iff_of_true (fun _ _ h hrc => absurd (rc_ok h) hrc) trivial
  | setTxrxCb txrxCb arg => exact iff_of_true (keptPort_setTxrxCb p txrxCb arg) trivial
  | txrx x => exact keptPort_txrx_iff p x
  | abort => exact iff_of_true (fun _ _ h hrc => absurd (rc_ok h) hrc) trivial

/-! ## The calls on the table -/

theorem onPort_neg (s : Spis) {spiNum : Int} (f : Port → Except Fault (Int × Port))
    (h : ¬ 0 ≤ spiNum) : onPort s spiNum f = none := by
  unfold onPort
  rw [if_neg (by omega), dif_neg fun h' => h h'.1]

theorem onPort_names {s : Spis} {spiNum : Int} {i : Fin spiMax} {p : Port}
    (f : Port → Except Fault (Int × Port)) (h : Names s spiNum i p) :
    onPort s spiNum f = some ((f p).map fun r => (r.1, Function.update s i (some r.2))) := by
  obtain ⟨rfl, hp⟩ := h
  have hlt := i.isLt
  unfold onPort
  rw [if_neg (by omega), dif_pos (by omega)]
  simp only [Int.toNat_natCast, Fin.eta, hp]

theorem onPort_unnamed {s : Spis} {spiNum : Int} (f : Port → Except Fault (Int × Port))
    (hnum : 0 ≤ spiNum) (h : ∀ i p, ¬ Names s spiNum i p) :
    onPort s spiNum f = some (.ok (einval, s)) := by
  unfold onPort
  by_cases hmax : spiNum ≥ spiMax
  · rw [if_pos hmax]
  · rw [if_neg hmax, dif_pos (by omega)]
    split
    · rfl
    · rename_i p hp
      exact absurd ⟨by simp [hnum], hp⟩ (h ⟨spiNum.toNat, by omega⟩ p)

theorem Names.unique {s : Spis} {spiNum : Int} {i j : Fin spiMax} {p q : Port}
    (h : Names s spiNum i p) (h' : Names s spiNum j q) : q = p := by
  have hij : j = i := Fin.ext (Int.ofNat_inj.mp (h'.1.symm.trans h.1))
  have hq := h'.2
  rw [hij, h.2] at hq
  exact (Option.some.inj hq).symm

/-- On the port that is found, the promise is about that port. -/
theorem kept_names_iff {s : Spis} {spiNum : Int} {c : Call} {i : Fin spiMax} {p : Port}
    (hi : Names s spiNum i p)
    (hcall : call s spiNum c = onPort s spiNum (callPort c)) : Kept s spiNum c ↔ KeptPort p c := by
  unfold Kept
  rw [hcall, onPort_names _ hi]
  constructor
  · rintro ⟨r, hr, hkept⟩ rc p' h hrc
    cases hr
    rw [h] at hkept
    have hsame := hkept _ _ rfl hrc i
    rw [Function.update_self, hi.2] at hsame
    exact Option.some.inj hsame
  · intro hkept
    refine ⟨_, rfl, fun rc s' h hrc j => ?_⟩
    cases hp : callPort c p with
    | error fault =>
        rw [hp] at h
        cases h
    | ok r =>
        rw [hp] at h
        cases h
        by_cases hj : j = i
        · rw [hj, Function.update_self, hi.2]
          exact congrArg some (hkept r.1 r.2 hp hrc)
        · rw [Function.update_of_ne hj]

/-- In every state and for every call, a returned error leaves
the HAL state of the ports alone exactly when the call is clean: the port number is not negative,
`hal_spi_init` is given a type or finds the port blank, and a non-blocking transfer that passes
the checks of `hal_spi_txrx` meets a configured module that is not busy. -/
theorem kept_iff_clean_call (s : Spis) (spiNum : Int) (c : Call) :
    Kept s spiNum c ↔ Clean s spiNum c := by
  by_cases hinit : ∃ t, c = .init none t
  · obtain ⟨t, rfl⟩ := hinit
    refine iff_of_true ⟨_, rfl, fun rc s' h _ i => ?_⟩ trivial
    cases h
    rfl
  · rw [not_exists] at hinit
    have hcall : call s spiNum c = onPort s spiNum (callPort c) := by
      unfold call
      split
      · exact absurd rfl (hinit _)
      · rfl
    have hclean : Clean s spiNum c ↔ 0 ≤ spiNum ∧ ∀ i p, Names s spiNum i p → CleanPort p c := by
      unfold Clean
      split
      · exact absurd rfl (hinit _)
      · rfl
    rw [hclean]
    by_cases hnum : 0 ≤ spiNum
    · by_cases hname : ∃ i p, Names s spiNum i p
      · obtain ⟨i, p, hi⟩ := hname
        rw [kept_names_iff hi hcall, keptPort_iff p c hinit]
        refine ⟨fun h => ⟨hnum, fun j q hj => ?_⟩, fun h => h.2 i p hi⟩
        rw [hi.unique hj]
        exact h
      · have hnone : ∀ i p, ¬ Names s spiNum i p := fun i p h => hname ⟨i, p, h⟩
        refine iff_of_true ⟨_, hcall.trans (onPort_unnamed _ hnum hnone), fun rc s' h _ i => ?_⟩
          ⟨hnum, fun i p h => absurd h (hnone i p)⟩
        cases h
        rfl
    · refine iff_of_false ?_ fun h => hnum h.1
      rintro ⟨r, hr, -⟩
      rw [hcall, onPort_neg s _ hnum] at hr
      cases hr

/-! ## A refused transfer -/

/-- A call as a step. -/
def callStep (s : Spis) (e : Int × Call) : Option Spis :=
  (call s e.1 e.2).bind fun r => r.toOption.map Prod.snd

/-- A transfer of one byte. -/
def oneByte : Txrx :=
  { txbuf := some [0x55], rxbuf := true, len := 1, irqs := [], wait := some .ok }

/-- A port that has a callback but was not configured: the driver refuses the transfer, and XFER
stays set. -/
theorem refused_transfer :
    ∃ s, Run.run callStep (Spis.reset fun i => i = 0)
        [(0, .init (some 0) .master), (0, .setTxrxCb (some 1) none)] = some s ∧
      ¬ Kept s 0 (.txrx oneByte) := by
  refine ⟨_, rfl, ?_⟩
  rintro ⟨r, hr, hkept⟩
  cases hr
  have hsame := hkept _ _ rfl (by decide) 0
  cases hsame

end HalSpi
