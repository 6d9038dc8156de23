import MynewtArduinoZero.Timer.Clock
import MynewtArduinoZero.Timer.Queue

/-!
# Late timers

`samd21_timer_set_ocmp` pends the interrupt for a timer that is late: its epoch
is before `tmr_cntr`, or the counter has reached its expiry.  The interrupt runs
`hal_timer_chk_queue`, which compares the clock with the whole expiry.  Both go
by the sign of a wrapping difference.  The epoch of a timer that is late may be
up to `2 ^ 31` behind `tmr_cntr`, and by the time of the second look the clock
may be further from the expiry than that; the timer is in the future then.
-/

namespace HalTimer

open Run Serial TailQueue

/-! ## Epochs -/

/-- The epoch of an expiry and its place there. -/
theorem epochOf_toNat (expiry : UInt32) :
    (epochOf expiry).toNat = period * (expiry.toNat / period) := by
  have hmask : (0xffff0000 : UInt32).toNat = (2 ^ 16 - 1) <<< 16 := by decide
  have hperiod : period * (expiry.toNat / period) = (expiry.toNat >>> 16) <<< 16 := by
    rw [Nat.shiftLeft_eq, Nat.shiftRight_eq_div_pow, Nat.mul_comm]
    rfl
  rw [epochOf, UInt32.toNat_and, hmask, hperiod]
  refine Nat.eq_of_testBit_eq fun i => ?_
  rw [Nat.testBit_and, Nat.testBit_shiftLeft, Nat.testBit_shiftLeft, Nat.testBit_shiftRight,
    Nat.testBit_two_pow_sub_one]
  rcases Nat.lt_or_ge i 16 with hlow | hhigh
  · simp [Nat.not_le.mpr hlow]
  · rw [Nat.add_sub_cancel' hhigh]
    rcases Nat.lt_or_ge i 32 with hword | hbeyond
    · have hlt : i - 16 < 16 := by omega
      simp [hhigh, hlt]
    · have hzero : expiry.toNat.testBit i = false := by
        refine Nat.testBit_lt_two_pow (Nat.lt_of_lt_of_le expiry.toNat_lt ?_)
        exact Nat.pow_le_pow_right (by decide) hbeyond
      simp [hzero]

theorem epochOf_add_expiry16 (expiry : UInt32) :
    (epochOf expiry).toNat + expiry16 expiry = expiry.toNat := by
  rw [epochOf_toNat]
  exact Nat.div_add_mod expiry.toNat period

/-! ## The late branch -/

/-- The counter where `samd21_timer_set_ocmp` reads COUNT. -/
def ocmpTc (d : List Nat) (tc : Tc) (expiry : UInt32) : Tc :=
  let tc := ((tc.elapse (delay d 0)).intenclrMc0.elapse (delay d 1)).setCompareValue
    (expiry16 expiry)
  ((tc.elapse (delay d 2)).clearMc0.elapse (delay d 3)).intensetMc0.elapse (delay d 4)

/-- `samd21_timer_set_ocmp` goes to `set_ocmp_late`. -/
def Late (d : List Nat) (b : Bsp) (expiry : UInt32) : Prop :=
  int32 (epochOf expiry - b.tmrCntr) < 0 ∨
    (int32 (epochOf expiry - b.tmrCntr) = 0 ∧ expiry16 expiry ≤ (ocmpTc d b.tc expiry).count)

instance (d : List Nat) (b : Bsp) (expiry : UInt32) : Decidable (Late d b expiry) :=
  inferInstanceAs (Decidable (_ ∨ _))

/-- That branch pends the interrupt, and no other one does. -/
theorem pending_samd21TimerSetOcmp (d : List Nat) (b : Bsp) (expiry : UInt32) :
    (samd21TimerSetOcmp d b expiry).tc.pending = (b.tc.pending || decide (Late d b expiry)) := by
  unfold samd21TimerSetOcmp Late
  dsimp only
  split
  next hlate => simp [hlate, Tc.setPendingIrq]
  next hlate =>
    split
    next hzero =>
      split
      next hcount =>
        have hcount' : expiry16 expiry ≤ (ocmpTc d b.tc expiry).count := hcount
        simp [hzero, hcount', Tc.setPendingIrq]
      next hcount =>
        have hcount' : ¬ expiry16 expiry ≤ (ocmpTc d b.tc expiry).count := hcount
        simp [hzero, hcount']
        rfl
    next hzero =>
      simp [hlate, hzero]
      rfl

/-! ## Until the second look -/

/-- The counter has reached `c`, or wrapped. -/
def Ahead (c : Nat) (tc : Tc) : Prop := tc.ovf = true ∨ c ≤ tc.count

theorem Ahead.elapse {c : Nat} {tc : Tc} (h : Ahead c tc) (n : Nat) : Ahead c (tc.elapse n) := by
  rcases h with hovf | hcount
  · exact .inl (by rw [Tc.elapse, hovf, Bool.true_or])
  · rcases Nat.lt_or_ge (tc.count + n) period with hbelow | hwrap
    · refine .inr ?_
      simp only [Tc.elapse, Nat.mod_eq_of_lt hbelow]
      omega
    · exact .inl (by simp [Tc.elapse, hwrap])

/-- How far `tmr_cntr` is behind the epoch of an expiry, and what the counter has reached besides,
where the timer is late. -/
theorem late_ahead {d : List Nat} {b : Bsp} {expiry : UInt32} (haligned : b.Aligned)
    (h : Late d b expiry) :
    (b.tmrCntr - epochOf expiry).toNat ≤ 2 ^ 31 ∧
      ∃ c, expiry16 expiry ≤ (b.tmrCntr - epochOf expiry).toNat + c ∧
        Ahead c (samd21TimerSetOcmp d b expiry).tc := by
  have hepoch := epochOf_toNat expiry
  have hlow : expiry16 expiry < period := Nat.mod_lt _ (by decide)
  have hcntr := b.tmrCntr.toNat_lt
  have hlt := (epochOf expiry).toNat_lt
  have hmod : (b.tmrCntr - epochOf expiry).toNat % period = 0 := by
    rw [UInt32.toNat_sub]
    unfold Bsp.Aligned period at *
    omega
  rcases h with hlate | ⟨hzero, hcount⟩
  · have hback := hlate
    rw [int32_neg_iff] at hback
    have hne : (b.tmrCntr - epochOf expiry).toNat ≠ 0 := by
      rw [UInt32.toNat_sub] at hback ⊢
      omega
    refine ⟨?_, 0, ?_, ?_⟩
    · rw [UInt32.toNat_sub] at hback ⊢
      omega
    · unfold period at *
      omega
    · exact .inr (Nat.zero_le _)
  · have heq := eq_of_int32_sub_eq_zero hzero
    have hback : (b.tmrCntr - epochOf expiry).toNat = 0 := by rw [heq, UInt32.sub_self]; rfl
    refine ⟨by omega, expiry16 expiry, by omega, ?_⟩
    have hnot : ¬ int32 (epochOf expiry - b.tmrCntr) < 0 := by omega
    have hreached : (samd21TimerSetOcmp d b expiry).tc
        = ((ocmpTc d b.tc expiry).elapse (delay d 5)).setPendingIrq := by
      unfold samd21TimerSetOcmp
      dsimp only
      rw [if_neg hnot, if_pos hzero]
      exact congrArg Bsp.tc (if_pos hcount)
    rw [hreached]
    exact (Ahead.elapse (.inr hcount) (delay d 5) : Ahead _ ((ocmpTc d b.tc expiry).elapse _))

/-- Nothing but the interrupt and its handler. -/
def Event.Quiet : Event → Prop
  | .elapse _ | .latch | .irq | .handler => True
  | _ => False

instance (e : Event) : Decidable e.Quiet :=
  match e with
  | .elapse _ | .latch | .irq | .handler => instDecidableTrue
  | .read _ | .startAt _ _ _ | .start _ _ _ _ | .startTest _ _ | .startStore _ | .startEnter _ _
  | .stop _ _ | .setCb _ _ | .storeFunc _ _ | .clearLink _ | .chk _ | .cbReturn =>
      instDecidableFalse

/-- Between the two looks: `tmr_cntr` is as it was, and the counter ahead of `c`, or an overflow
has been added, or the handler is at it. -/
def Served (cntr : UInt32) (c : Nat) (s : System) : Prop :=
  match s.phase with
  | .idle | .readMc0 | .clearMc0 | .readOvf => s.bsp.tmrCntr = cntr ∧ Ahead c s.bsp.tc
  | .clearOvf | .loadCntr => s.bsp.tmrCntr = cntr
  | .storeCntr loaded => loaded = cntr
  | .countIsr | .chk =>
      (s.bsp.tmrCntr = cntr ∧ Ahead c s.bsp.tc) ∨ s.bsp.tmrCntr = cntr + 65536
  | .callback => False

theorem Served.mono {cntr : UInt32} {c : Nat} {s : System} (h : Served cntr c s) {tc : Tc}
    (htc : Ahead c s.bsp.tc → Ahead c tc) : Served cntr c { s with bsp := { s.bsp with tc := tc } } := by
  unfold Served at h ⊢
  cases hphase : s.phase with
  | idle | readMc0 | clearMc0 | readOvf =>
      rw [hphase] at h
      exact ⟨h.1, htc h.2⟩
  | clearOvf | loadCntr | storeCntr _ =>
      rw [hphase] at h
      exact h
  | countIsr | chk =>
      rw [hphase] at h
      exact h.imp (fun h => ⟨h.1, htc h.2⟩) id
  | callback =>
      rw [hphase] at h
      exact h

theorem Served.handler {cntr : UInt32} {c : Nat} {s s' : System} (h : Served cntr c s)
    (hstep : halTimerIrqHandler s = some s') : Served cntr c s' := by
  unfold Served at h
  cases hphase : s.phase with
  | idle | chk | callback =>
      rw [halTimerIrqHandler, hphase] at hstep
      cases hstep
  | readMc0 =>
      rw [hphase] at h
      rw [halTimerIrqHandler, hphase, Option.some.injEq] at hstep
      subst hstep
      cases hmc0 : s.bsp.tc.mc0 <;> simpa [Served, hmc0] using h
  | clearMc0 | clearOvf | loadCntr | countIsr =>
      rw [hphase] at h
      rw [halTimerIrqHandler, hphase, Option.some.injEq] at hstep
      subst hstep
      exact h
  | readOvf =>
      rw [hphase] at h
      rw [halTimerIrqHandler, hphase, Option.some.injEq] at hstep
      subst hstep
      cases hovf : s.bsp.tc.ovf with
      | true => simpa [Served, hovf] using h.1
      | false => simpa [Served, hovf] using Or.inl h
  | storeCntr loaded =>
      rw [hphase] at h
      rw [halTimerIrqHandler, hphase, Option.some.injEq] at hstep
      subst hstep
      exact .inr (by rw [h])

/-- The interrupt is served with the queue as it was. -/
theorem served_step {cntr : UInt32} {c : Nat} {s s' : System} {e : Event} (h : Served cntr c s)
    (hquiet : e.Quiet) (hstep : step s e = some s') :
    Served cntr c s' ∧ SameQueue s.bsp s'.bsp := by
  cases step_cases hstep with
  | elapse n => exact ⟨h.mono fun h => h.elapse n, rfl, rfl⟩
  | latch => exact ⟨h.mono id, rfl, rfl⟩
  | irq hidle =>
      unfold Served at h
      rw [hidle] at h
      exact ⟨h, rfl, rfl⟩
  | handler hhandler => exact ⟨h.handler hhandler, (halTimerIrqHandler_frame hhandler).same⟩
  | read | startAt | start | startRefused | startTest | startStore | startEnter => cases hquiet
  | stop | setCb | storeFunc | clearLink | chk | cbReturn => cases hquiet

theorem served_run {cntr : UInt32} {c : Nat} {s s' : System} {es : List Event}
    (h : Served cntr c s) (hquiet : ∀ e ∈ es, e.Quiet) (hrun : run step s es = some s') :
    Served cntr c s' ∧ SameQueue s.bsp s'.bsp := by
  induction es generalizing s with
  | nil =>
      cases hrun
      exact ⟨h, .refl _⟩
  | cons e es ih =>
      obtain ⟨u, hu, hrest⟩ := run_cons_eq_some.mp hrun
      obtain ⟨hserved, hsame⟩ := served_step h (hquiet e List.mem_cons_self) hu
      obtain ⟨hlast, hsame'⟩ := ih hserved (fun e he => hquiet e (List.mem_cons_of_mem _ he)) hrest
      exact ⟨hlast, hsame.trans hsame'⟩

/-! ## The second look -/

/-- `hal_timer_read_bsptimer` finds OVF set. -/
def seenOvf (d : List Nat) (tc : Tc) : Bool := ((tc.elapse (delay d 0)).elapse (delay d 1)).ovf

/-- COUNT as `hal_timer_read_bsptimer` uses it. -/
def seenCount (d : List Nat) (tc : Tc) : Nat :=
  let read := tc.elapse (delay d 0)
  if seenOvf d tc then ((read.elapse (delay d 1)).elapse (delay d 2)).count else read.count

theorem seenCount_lt (d : List Nat) (tc : Tc) : seenCount d tc < period := by
  unfold seenCount
  dsimp only
  split <;> exact Tc.count_lt _

theorem read_toNat (d : List Nat) {b : Bsp} (haligned : b.Aligned) :
    (halTimerReadBsptimer d b).1.toNat
      = (b.tmrCntr.toNat + period * (seenOvf d b.tc).toNat) % 2 ^ 32 + seenCount d b.tc := by
  have hlt := b.tmrCntr.toNat_lt
  cases hovf : ((b.tc.elapse (delay d 0)).elapse (delay d 1)).ovf with
  | false =>
      have hseen : seenOvf d b.tc = false := hovf
      simp only [halTimerReadBsptimer, hovf, Bool.false_eq_true, if_false]
      rw [or_low_toNat haligned (Tc.count_lt _), seenCount, hseen, Bool.toNat_false, Nat.mul_zero,
        Nat.add_zero, Nat.mod_eq_of_lt hlt]
      rfl
  | true =>
      have hseen : seenOvf d b.tc = true := hovf
      have hnext : (b.tmrCntr + 65536).toNat % period = 0 := by
        rw [add_period_toNat]
        unfold Bsp.Aligned period at *
        omega
      simp only [halTimerReadBsptimer, hovf, if_true]
      rw [or_low_toNat hnext (Tc.count_lt _), add_period_toNat, seenCount, hseen, Bool.toNat_true,
        Nat.mul_one]
      rfl

/-- What is ahead of a count is so for the read. -/
theorem Ahead.read {c : Nat} {tc : Tc} (h : Ahead c tc) (d : List Nat) :
    seenOvf d tc = true ∨ c ≤ seenCount d tc := by
  cases hseen : seenOvf d tc with
  | true => exact .inl rfl
  | false =>
      refine .inr ?_
      have hread := h.elapse (delay d 0)
      have hovf : (tc.elapse (delay d 0)).ovf = false := Tc.ovf_eq_false_of_elapse hseen
      rcases hread with hset | hcount
      · rw [hovf] at hset
        cases hset
      · rw [seenCount, hseen]
        exact hcount

/-- The clock that `hal_timer_chk_queue` reads is less than `2 ^ 31` behind the expiry. -/
def Timely (d : List Nat) (b : Bsp) (expiry : UInt32) : Prop :=
  (b.tmrCntr - epochOf expiry).toNat + period * (seenOvf d b.tc).toNat + seenCount d b.tc
    < 2 ^ 31 + expiry16 expiry

instance (d : List Nat) (b : Bsp) (expiry : UInt32) : Decidable (Timely d b expiry) :=
  inferInstanceAs (Decidable (_ < _))

/-- How far the clock is behind an expiry that it has reached. -/
theorem read_sub_toNat (d : List Nat) {b : Bsp} {expiry : UInt32} (haligned : b.Aligned)
    (hreached : expiry16 expiry ≤ (b.tmrCntr - epochOf expiry).toNat
      + period * (seenOvf d b.tc).toNat + seenCount d b.tc)
    (hback : (b.tmrCntr - epochOf expiry).toNat ≤ 2 ^ 31 + period) :
    ((halTimerReadBsptimer d b).1 - expiry).toNat + expiry16 expiry
      = (b.tmrCntr - epochOf expiry).toNat + period * (seenOvf d b.tc).toNat
        + seenCount d b.tc := by
  have hread := read_toNat d haligned
  have hexpiry := epochOf_add_expiry16 expiry
  have hcount := seenCount_lt d b.tc
  have hcntr := b.tmrCntr.toNat_lt
  have hlt := expiry.toNat_lt
  have hovf : (seenOvf d b.tc).toNat ≤ 1 := Bool.toNat_le _
  rw [UInt32.toNat_sub] at hback hreached ⊢
  rw [UInt32.toNat_sub, hread, ← hexpiry]
  unfold period at *
  omega

/-- The handler has put `tmr_cntr` a period further. -/
theorem next_sub_toNat {tmrCntr epoch : UInt32} (hback : (tmrCntr - epoch).toNat ≤ 2 ^ 31) :
    (tmrCntr + 65536 - epoch).toNat = (tmrCntr - epoch).toNat + period := by
  have hswap : tmrCntr + 65536 - epoch = tmrCntr - epoch + 65536 := by
    rw [UInt32.sub_eq_add_neg, UInt32.sub_eq_add_neg, UInt32.add_assoc, UInt32.add_assoc,
      UInt32.add_comm 65536]
  rw [hswap, add_period_toNat, Nat.mod_eq_of_lt]
  unfold period
  omega

/-- The comparison of `hal_timer_chk_queue` with an expiry that has been late. -/
theorem not_before_iff_timely {d' : List Nat} {b b' : Bsp} {expiry : UInt32} {c : Nat}
    (haligned : b.Aligned) (hback : (b.tmrCntr - epochOf expiry).toNat ≤ 2 ^ 31)
    (hc : expiry16 expiry ≤ (b.tmrCntr - epochOf expiry).toNat + c)
    (hserved : (b'.tmrCntr = b.tmrCntr ∧ Ahead c b'.tc) ∨ b'.tmrCntr = b.tmrCntr + 65536) :
    ¬ Before (halTimerReadBsptimer d' b').1 expiry ↔ Timely d' b' expiry := by
  have hlow : expiry16 expiry < period := Nat.mod_lt _ (by decide)
  have hfacts : b'.Aligned ∧ (b'.tmrCntr - epochOf expiry).toNat ≤ 2 ^ 31 + period ∧
      expiry16 expiry ≤ (b'.tmrCntr - epochOf expiry).toNat
        + period * (seenOvf d' b'.tc).toNat + seenCount d' b'.tc := by
    rcases hserved with ⟨hcntr, hahead⟩ | hcntr
    · refine ⟨?_, ?_, ?_⟩
      · rw [Bsp.Aligned, hcntr]
        exact haligned
      · rw [hcntr]
        omega
      · rw [hcntr]
        rcases hahead.read d' with hovf | hcount
        · rw [hovf, Bool.toNat_true]
          omega
        · omega
    · have hnext := next_sub_toNat hback
      refine ⟨?_, ?_, ?_⟩
      · rw [Bsp.Aligned, hcntr, add_period_toNat]
        unfold Bsp.Aligned period at *
        omega
      · rw [hcntr, hnext]
        omega
      · rw [hcntr, hnext]
        omega
  obtain ⟨haligned', hback', hreached⟩ := hfacts
  have hsub := read_sub_toNat d' haligned' hreached hback'
  rw [Before, int32_neg_iff, Timely]
  omega

/-- `hal_timer_chk_queue` takes the head out and calls it. -/
def Called (i : Nat) (s : System) : Prop := s.phase = .callback ∧ i ∉ s.bsp.halTimerQ.chain

instance (i : Nat) (s : System) : Decidable (Called i s) := inferInstanceAs (Decidable (_ ∧ _))

theorem turn_called_iff {s : System} {d : List Nat} {i c : Nat} (hwf : s.bsp.halTimerQ.WF)
    (hfirst : s.bsp.halTimerQ.first = some i) (hcb : (s.bsp.timers i).cb = some c) :
    (∃ t, s.turn d = some t ∧ Called i t) ↔
      ¬ Before (halTimerReadBsptimer d s.bsp).1 (s.bsp.expiry i) := by
  have hread := halTimerReadBsptimer_sameQueue d s.bsp
  have hwf' : (halTimerReadBsptimer d s.bsp).2.halTimerQ.WF := by
    rw [hread.halTimerQ]
    exact hwf
  have hmem : i ∈ (halTimerReadBsptimer d s.bsp).2.halTimerQ.chain := by
    rw [hread.halTimerQ]
    obtain ⟨l, hl⟩ := first_eq_some_iff.mp hfirst
    rw [hl]
    exact List.mem_cons_self
  constructor
  · rintro ⟨t, ht, hphase, -⟩
    cases System.turn_cases ht with
    | empty | later => cases hphase
    | call hhead _ hexpired _ =>
        rw [hfirst, Option.some.injEq] at hhead
        subst hhead
        exact hexpired
  · intro hexpired
    have hge : int32 ((halTimerReadBsptimer d s.bsp).1 - s.bsp.expiry i) ≥ 0 :=
      Int.not_lt.mp hexpired
    have hturn : s.turn d = some
        { s with
          bsp := (halTimerReadBsptimer d s.bsp).2.without i, phase := .callback,
          log := .ran i c (halTimerReadBsptimer d s.bsp).1 (s.bsp.expiry i) :: (s.read d).log } := by
      rw [System.turn, halTimerChkQueueTurn, hfirst]
      dsimp only
      rw [hread.expiry, if_pos hge, unlinkTimer_eq hwf' hmem, Option.bind_some, hread.timers, hcb]
      rfl
    exact ⟨_, hturn, rfl, hwf'.nodup.not_mem_erase⟩

/-! ## Reachable states -/

/-- `tmr_cntr` counts whole periods, and so does what the handler has loaded of it. -/
structure WholePeriods (s : System) : Prop where
  aligned : s.bsp.Aligned
  loaded : ∀ v, s.phase = .storeCntr v → v.toNat % period = 0

theorem WholePeriods.coasts {s s' : System} (h : WholePeriods s) (hb : Coasts s.bsp s'.bsp)
    (hphase : ∀ v, s'.phase = .storeCntr v → s.phase = .storeCntr v) : WholePeriods s' where
  aligned := by
    rw [Bsp.Aligned, hb.tmrCntr]
    exact h.aligned
  loaded := fun v hv => h.loaded v (hphase v hv)

theorem WholePeriods.read {s : System} (h : WholePeriods s) (d : List Nat) :
    WholePeriods (s.read d) where
  aligned := (halTimerReadBsptimer_reads d s.bsp).aligned h.aligned
  loaded := h.loaded

theorem WholePeriods.handler {s s' : System} (h : WholePeriods s)
    (hstep : halTimerIrqHandler s = some s') : WholePeriods s' := by
  cases hphase : s.phase with
  | idle | chk | callback =>
      rw [halTimerIrqHandler, hphase] at hstep
      cases hstep
  | readMc0 | readOvf =>
      rw [halTimerIrqHandler, hphase, Option.some.injEq] at hstep
      subst hstep
      refine ⟨h.aligned, fun v hv => ?_⟩
      dsimp only at hv
      split at hv <;> cases hv
  | clearMc0 | clearOvf | countIsr =>
      rw [halTimerIrqHandler, hphase, Option.some.injEq] at hstep
      subst hstep
      exact ⟨h.aligned, fun v hv => by cases hv⟩
  | loadCntr =>
      rw [halTimerIrqHandler, hphase, Option.some.injEq] at hstep
      subst hstep
      refine ⟨h.aligned, fun v hv => ?_⟩
      cases hv
      exact h.aligned
  | storeCntr loaded =>
      have hloaded := h.loaded loaded hphase
      rw [halTimerIrqHandler, hphase, Option.some.injEq] at hstep
      subst hstep
      refine ⟨?_, fun v hv => by cases hv⟩
      rw [Bsp.Aligned, add_period_toNat]
      unfold period at *
      omega

theorem WholePeriods.turn {s s' : System} (h : WholePeriods s) {d : List Nat}
    (hstep : s.turn d = some s') : WholePeriods s' := by
  cases System.turn_cases hstep with
  | empty hfirst => exact h.coasts (rearm_coasts d s.bsp none) fun v hv => by cases hv
  | call hfirst hcb hexpired hunlink =>
      exact (h.read d).coasts (unlinkTimer_coasts hunlink) fun v hv => by cases hv
  | @later t _ hfirst hexpired hb =>
      subst hb
      have hb := rearm_coasts (d.drop 5) (halTimerReadBsptimer d s.bsp).2 (some t)
      exact (h.read d).coasts hb fun v hv => by cases hv

theorem step_wholePeriods (s : System) (e : Event) (s' : System) (h : WholePeriods s)
    (hstep : step s e = some s') : WholePeriods s' := by
  cases step_cases hstep with
  | elapse n => exact h.coasts ⟨rfl, (Tc.Flows.refl s.bsp.tc).elapse n⟩ fun v hv => hv
  | latch => exact h.coasts ⟨rfl, (Tc.Flows.refl s.bsp.tc).setPendingIrq⟩ fun v hv => hv
  | read d => exact h.read d
  | startAt hcall =>
      obtain ⟨⟨rc, b⟩, hstart, heq⟩ := Option.map_eq_some_iff.mp hcall
      subst heq
      exact h.coasts (halTimerStartAt_coasts hstart) fun v hv => hv
  | @start _ _ dRead _ _ hcall =>
      obtain ⟨⟨rc, b⟩, hstart, heq⟩ := Option.map_eq_some_iff.mp hcall
      subst heq
      exact (h.read dRead).coasts (halTimerStartAt_coasts hstart) fun v hv => hv
  | startRefused => exact h
  | startTest => exact ⟨h.aligned, h.loaded⟩
  | @startStore _ p => exact h.coasts (storeExpiry_coasts s.bsp p.t p.tick) fun v hv => hv
  | startEnter _ _ hsection => exact h.coasts (startSection_coasts hsection) fun v hv => hv
  | stop hstop => exact h.coasts (halTimerStop_coasts hstop) fun v hv => hv
  | setCb | storeFunc | clearLink => exact h.coasts ⟨rfl, .refl s.bsp.tc⟩ fun v hv => hv
  | irq hidle => exact ⟨h.aligned, fun v hv => by cases hv⟩
  | handler hhandler => exact h.handler hhandler
  | chk _ hturn => exact h.turn hturn
  | cbReturn hcallback => exact ⟨h.aligned, fun v hv => by cases hv⟩

theorem run_aligned {cb : Nat → Option Nat} {es : List Event} {s : System}
    (hrun : run step (System.init cb) es = some s) : s.bsp.Aligned := by
  have hinit : WholePeriods (System.init cb) := ⟨rfl, fun v hv => by cases hv⟩
  exact (run_invariant step_wholePeriods hinit hrun).aligned

/-! ## Both looks -/

/-- `samd21_timer_set_ocmp` is called for the head, which is late, with any `tmr_cntr` of a run,
counter and flags.  The interrupt is pended, and the turn of `hal_timer_chk_queue` that serves it
calls the head exactly where the clock that it reads is less than `2 ^ 31` behind the expiry.  It
is so where the epoch of the expiry was three periods short of `2 ^ 31` behind. -/
theorem late_called_iff {cb : Nat → Option Nat} {es es' : List Event} {s₀ s : System} {b : Bsp}
    {d d' : List Nat} {i c : Nat} {log : List Obs} {starts : List Start}
    (hrun : run step (System.init cb) es = some s₀) (hcntr : b.tmrCntr = s₀.bsp.tmrCntr)
    (hwf : b.halTimerQ.WF) (hfirst : b.halTimerQ.first = some i)
    (hcb : (b.timers i).cb = some c) (hlate : Late d b (b.expiry i))
    (hquiet : ∀ e ∈ es', e.Quiet)
    (hserve : run step ⟨samd21TimerSetOcmp d b (b.expiry i), .idle, log, starts⟩ es' = some s)
    (hchk : s.phase = .chk) :
    (samd21TimerSetOcmp d b (b.expiry i)).tc.pending = true ∧
      ((∃ t, s.turn d' = some t ∧ Called i t) ↔ Timely d' s.bsp (b.expiry i)) ∧
      ((b.tmrCntr - epochOf (b.expiry i)).toNat + 3 * period ≤ 2 ^ 31 →
        ∃ t, s.turn d' = some t ∧ Called i t) := by
  have haligned : b.Aligned := by
    rw [Bsp.Aligned, hcntr]
    exact run_aligned hrun
  obtain ⟨hback, k, hk, hahead⟩ := late_ahead haligned hlate
  have hocmp := samd21TimerSetOcmp_coasts d b (b.expiry i)
  have hserved : Served b.tmrCntr k ⟨samd21TimerSetOcmp d b (b.expiry i), .idle, log, starts⟩ :=
    ⟨hocmp.tmrCntr, hahead⟩
  obtain ⟨hlast, hsame⟩ := served_run hserved hquiet hserve
  rw [Served, hchk] at hlast
  have hqueue := (samd21TimerSetOcmp_sameQueue d b (b.expiry i)).trans hsame
  have hturn := turn_called_iff (s := s) (d := d') (i := i) (c := c)
    (by rw [hqueue.halTimerQ]; exact hwf) (by rw [hqueue.halTimerQ]; exact hfirst)
    (by rw [hqueue.timers]; exact hcb)
  rw [hqueue.expiry, not_before_iff_timely haligned hback hk hlast] at hturn
  refine ⟨?_, hturn, fun hshort => hturn.mpr ?_⟩
  · rw [pending_samd21TimerSetOcmp, decide_eq_true hlate, Bool.or_true]
  · have hcount := seenCount_lt d' s.bsp.tc
    have hovf : (seenOvf d' s.bsp.tc).toNat ≤ 1 := Bool.toNat_le _
    have hnext : (s.bsp.tmrCntr - epochOf (b.expiry i)).toNat
        ≤ (b.tmrCntr - epochOf (b.expiry i)).toNat + period := by
      rcases hlast with ⟨hsame, -⟩ | hadded
      · rw [hsame]
        exact Nat.le_add_right _ _
      · rw [hadded, next_sub_toNat hback]
    rw [Timely]
    unfold period at *
    omega

/-- The interrupt is taken and gets to `hal_timer_chk_queue`, without an overflow. -/
def serve : List Event := [.irq, .handler, .handler, .handler]

/-- The counter wraps, and the overflow is added. -/
def wrapRun : List Event :=
  [.elapse 65636, .irq, .handler, .handler, .handler, .handler, .handler, .handler, .handler,
    .chk []]

/-- Then a timer of the period before is put into the queue. -/
def lateBlock : Bsp :=
  { Bsp.init some with
    tmrCntr := 65536
    halTimerQ := (Bsp.init some).halTimerQ.insertHead 0
    timers := fun t => { cb := some t, expiry := 65535 } }

theorem lateBlock_wf : lateBlock.halTimerQ.WF where
  nodup := by decide
  prev_iff := fun a => by simp [lateBlock, TailQueue.insertHead, Bsp.init, setPrev]

theorem late_called_iff_lateBlock :
    ∃ s, run step ⟨samd21TimerSetOcmp [2] lateBlock 65535, .idle, [], []⟩ (.elapse 9 :: serve) = some s ∧
      ∃ t, s.turn [] = some t ∧ Called 0 t := by
  have hreach : ∃ s₀, run step (System.init some) wrapRun = some s₀ ∧ s₀.bsp.tmrCntr = 65536 :=
    ⟨_, rfl, by decide +kernel⟩
  obtain ⟨s₀, hrun, hcntr⟩ := hreach
  have hlate : Late [2] lateBlock 65535 := by decide +kernel
  have hserve : ∃ s, run step ⟨samd21TimerSetOcmp [2] lateBlock 65535, .idle, [], []⟩
      (.elapse 9 :: serve) = some s ∧ s.phase = .chk ∧ Timely [] s.bsp 65535 :=
    ⟨_, rfl, rfl, by decide +kernel⟩
  obtain ⟨s, hserve, hchk, htimely⟩ := hserve
  exact ⟨s, hserve, (late_called_iff (b := lateBlock) (i := 0) hrun hcntr.symm lateBlock_wf rfl rfl
    hlate (by decide) hserve hchk).2.1.mpr htimely⟩

/-- A timer is started `2 ^ 31` ticks ahead.  It is late for `samd21_timer_set_ocmp`, which pends
the interrupt, and in the future for `hal_timer_chk_queue`, which calls `samd21_timer_set_ocmp`:
the interrupt is pended again, and again. -/
theorem late_not_called_half :
    ∃ s₀ s t s' t', run step (System.init some) [.startAt 0 0x80000000 []] = some s₀ ∧
      s₀.bsp.halTimerQ.first = some 0 ∧ (System.init some).bsp.tc.pending = false ∧
      s₀.bsp.tc.pending = true ∧
      run step s₀ serve = some s ∧ s.phase = .chk ∧ s.turn [] = some t ∧ ¬ Called 0 t ∧
      t.bsp.halTimerQ.chain = [0] ∧ t.bsp.tc.pending = true ∧
      run step t serve = some s' ∧ s'.turn [] = some t' ∧ ¬ Called 0 t' ∧
      t'.bsp.halTimerQ.chain = [0] ∧ t'.bsp.tc.pending = true := by
  refine ⟨_, _, _, _, _, rfl, rfl, rfl, ?_, rfl, rfl, rfl, ?_, ?_, ?_, rfl, rfl, ?_, ?_, ?_⟩ <;>
    decide +kernel

end HalTimer
