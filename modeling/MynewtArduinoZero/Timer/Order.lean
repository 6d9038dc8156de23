import MynewtArduinoZero.Timer.Callbacks

/-!
# The order of the queue

The queue holds no timer twice, `tqe_prev` tells what is queued, the expiries
are sorted, and timers with one expiry stand in the order of their starts.  This
needs the queued expiries in a window (`InWindow`) and nothing of the clock.

A start that another start of its timer interrupts behind the test breaks all of
this: it stores its expiry into a queued timer (`unsorted_interruptedHeadRun`)
and goes on to put the timer into the queue once more.
-/

namespace HalTimer

open Run Serial TailQueue

/-! ## The order of starts -/

/-- In a log, the latest observation first: timer `y` was last started after `x` was. -/
def StartedBefore (x y : Nat) : List Obs → Prop
  | [] => False
  | .started t _ :: log => t = y ∨ (t ≠ x ∧ StartedBefore x y log)
  | .read _ :: log | .stopped _ :: log | .ran _ _ _ _ :: log | .chkDone _ _ :: log =>
      StartedBefore x y log

theorem startedBefore_cons {o : Obs} (ho : ∀ t expiry, o ≠ .started t expiry) {x y : Nat}
    {log : List Obs} : StartedBefore x y (o :: log) ↔ StartedBefore x y log := by
  cases o with
  | started t expiry => exact absurd rfl (ho t expiry)
  | read | stopped | ran | chkDone => rfl

/-- A start makes the timer the last started. -/
theorem startedBefore_started_self (x y : Nat) (expiry : UInt32) (log : List Obs) :
    StartedBefore x y (.started y expiry :: log) :=
  .inl rfl

theorem StartedBefore.started {x y t : Nat} {log : List Obs} (h : StartedBefore x y log)
    (hx : t ≠ x) (expiry : UInt32) : StartedBefore x y (.started t expiry :: log) :=
  .inr ⟨hx, h⟩

/-- The queue is in the order of the starts where expiries are equal. -/
def InStartOrder (b : Bsp) (log : List Obs) : Prop :=
  b.halTimerQ.chain.Pairwise fun x y => b.expiry x = b.expiry y → StartedBefore x y log

/-! ## The invariant -/

structure Ordered (b : Bsp) (log : List Obs) : Prop where
  wf : b.halTimerQ.WF
  sorted : Sorted b.expiries
  inStartOrder : InStartOrder b log
  callback : ∀ t ∈ b.halTimerQ.chain, (b.timers t).cb ≠ none

namespace Ordered

variable {b : Bsp} {log : List Obs}

theorem init (cb : Nat → Option Nat) : Ordered (Bsp.init cb) [] where
  wf := ⟨List.nodup_nil, fun t => by simp [Bsp.init]⟩
  sorted := List.Pairwise.nil
  inStartOrder := List.Pairwise.nil
  callback := fun t ht => by cases ht

theorem same (h : Ordered b log) {b' : Bsp} (hb : SameQueue b b') : Ordered b' log where
  wf := hb.halTimerQ ▸ h.wf
  sorted := hb.expiries ▸ h.sorted
  inStartOrder := by
    rw [InStartOrder, hb.halTimerQ, hb.expiry]
    exact h.inStartOrder
  callback := by
    rw [hb.halTimerQ, hb.timers]
    exact h.callback

/-- An observation that is no start. -/
theorem observe (h : Ordered b log) {o : Obs} (ho : ∀ t expiry, o ≠ .started t expiry) :
    Ordered b (o :: log) where
  wf := h.wf
  sorted := h.sorted
  inStartOrder := h.inStartOrder.imp fun hxy heq => (startedBefore_cons ho).mpr (hxy heq)
  callback := h.callback

/-- The expiry of a timer that is not queued. -/
theorem storeExpiry (h : Ordered b log) {t : Nat} (ht : t ∉ b.halTimerQ.chain) (tick : UInt32) :
    Ordered (storeExpiry b t tick) log where
  wf := h.wf
  sorted := expiries_storeExpiry ht tick ▸ h.sorted
  inStartOrder := by
    refine h.inStartOrder.imp_of_mem ?_
    intro x y hx hy hxy heq
    rw [expiry_storeExpiry_of_ne (ne_of_mem_of_not_mem hx ht),
      expiry_storeExpiry_of_ne (ne_of_mem_of_not_mem hy ht)] at heq
    exact hxy heq
  callback := by
    intro x hx
    rw [cb_storeExpiry]
    exact h.callback x hx

/-- A started timer stands behind those with its expiry, and all of these were started before. -/
theorem inStartOrder_insert (h : Ordered b log) {l r : List Nat} {t : Nat}
    (hplace : Place b (b.expiry t) l r) (ht : t ∉ b.halTimerQ.chain)
    (hwindow : InWindow (l.map b.expiry ++ b.expiry t :: r.map b.expiry)) :
    InStartOrder (b.inserted l r t) (.started t (b.expiry t) :: log) := by
  have hne : ∀ z ∈ l ++ r, t ≠ z := fun z hz => (ne_of_mem_of_not_mem (hplace.chain ▸ hz) ht).symm
  have hpairs := h.inStartOrder
  rw [InStartOrder, ← hplace.chain] at hpairs
  obtain ⟨hl, hr, hlr⟩ := List.pairwise_append.mp hpairs
  refine List.pairwise_append.mpr ⟨?_, List.pairwise_cons.mpr ⟨?_, ?_⟩, ?_⟩
  · exact hl.imp_of_mem fun hx _ hxy heq =>
      (hxy heq).started (hne _ (List.mem_append_left r hx)) _
  · intro y hy heq
    have hlater : Before (b.expiry t) (b.expiry y) := hplace.later h.sorted hwindow y hy
    have hexpiry : b.expiry t = b.expiry y := heq
    rw [← hexpiry] at hlater
    exact absurd hlater (not_before_self _)
  · exact hr.imp_of_mem fun hx _ hxy heq =>
      (hxy heq).started (hne _ (List.mem_append_right l hx)) _
  · intro x hx y hy
    rcases List.mem_cons.mp hy with rfl | hy
    · exact fun _ => startedBefore_started_self x y _ log
    · exact fun heq => (hlr x hx y hy heq).started (hne x (List.mem_append_left r hx)) _

/-- A timer is put into its place. -/
theorem insert (h : Ordered b log) {l r : List Nat} {t : Nat}
    (hplace : Place b (b.expiry t) l r) (ht : t ∉ b.halTimerQ.chain)
    (hcb : (b.timers t).cb ≠ none) (hwindow : InWindow (b.inserted l r t).expiries) :
    Ordered (b.inserted l r t) (.started t (b.expiry t) :: log) where
  wf := h.wf.insert hplace.chain ht
  sorted := by
    rw [expiries_inserted] at hwindow ⊢
    exact hplace.sorted h.sorted hwindow
  inStartOrder := h.inStartOrder_insert hplace ht (expiries_inserted l r t ▸ hwindow)
  callback := QueueInv.callback_inserted hplace hcb h.callback

/-- A timer is taken out. -/
theorem without (h : Ordered b log) (t : Nat) : Ordered (b.without t) log where
  wf := h.wf.erase t
  sorted := h.sorted.sublist (QueueInv.expiries_without_sublist t)
  inStartOrder := h.inStartOrder.sublist List.erase_sublist
  callback := fun x hx => h.callback x (QueueInv.mem_without h.wf hx).2

/-- The callback of a timer that is not queued is set. -/
theorem storeFunc (h : Ordered b log) {t : Nat} (ht : t ∉ b.halTimerQ.chain)
    (cb : Option Nat) : Ordered (storeFunc b t cb) log where
  wf := h.wf
  sorted := expiries_storeFunc ht cb ▸ h.sorted
  inStartOrder := by
    refine h.inStartOrder.imp_of_mem ?_
    intro x y hx hy hxy heq
    rw [Bsp.expiry, Bsp.expiry, timers_storeFunc ht cb x hx, timers_storeFunc ht cb y hy] at heq
    exact hxy heq
  callback := by
    intro x hx
    rw [timers_storeFunc ht cb x hx]
    exact h.callback x hx

theorem clearLink (h : Ordered b log) {t : Nat} (ht : t ∉ b.halTimerQ.chain) :
    Ordered (clearLink b t) log := by
  rw [clearLink_unqueued h.wf ht]
  exact h

end Ordered

/-! ## The system -/

/-- The invariant of a state. -/
def System.Ordered (s : System) : Prop := HalTimer.Ordered s.bsp s.log

theorem startSection_ordered {b b' : Bsp} {log : List Obs} (h : HalTimer.Ordered b log) {t : Nat}
    {d : List Nat} (hsection : startSection d b t = some b') (ht : t ∉ b.halTimerQ.chain)
    (hcb : (b.timers t).cb ≠ none) (hwindow : InWindow b'.expiries) :
    HalTimer.Ordered b' (.started t (b.expiry t) :: log) := by
  obtain ⟨l, r, b₁, hb, hplace, hsame⟩ := startSection_spec h.wf d ht
  obtain rfl := Option.some.inj (hsection.symm.trans hb)
  rw [hsame.expiries] at hwindow
  exact (h.insert hplace ht hcb hwindow).same hsame

theorem startAt_ordered {s s' : System} (h : s.Ordered) {t : Nat} {tick : UInt32} {d : List Nat}
    (hstart : s.startAt t tick d = some s') (hwindow : InWindow s'.bsp.expiries) : s'.Ordered := by
  obtain ⟨rc, b, hstep, rfl⟩ := System.startAt_step h.wf hstart
  cases hstep with
  | rejected => exact h
  | queued ht hcb hplace hsame =>
      have hset := Ordered.storeExpiry h ht tick
      rw [hsame.expiries] at hwindow
      have hinsert := hset.insert hplace ht (by rwa [cb_storeExpiry]) hwindow
      rw [expiry_storeExpiry_self] at hinsert
      exact hinsert.same hsame

theorem read_ordered {s : System} (h : s.Ordered) (d : List Nat) : (s.read d).Ordered :=
  (h.observe (o := .read _) (by simp)).same (halTimerReadBsptimer_sameQueue d s.bsp)

theorem turn_ordered {s s' : System} (h : s.Ordered) {d : List Nat} (hturn : s.turn d = some s') :
    s'.Ordered := by
  have hread := halTimerReadBsptimer_sameQueue d s.bsp
  have hr := read_ordered h d
  cases System.turn_cases hturn with
  | empty hfirst =>
      exact (h.observe (o := .chkDone none _) (by simp)).same (rearm_sameQueue d s.bsp none)
  | @call t cb b hfirst hcb hexpired hunlink =>
      obtain ⟨l, hl⟩ := first_eq_some_iff.mp hfirst
      have ht : t ∈ (halTimerReadBsptimer d s.bsp).2.halTimerQ.chain := by
        rw [hread.halTimerQ, hl]
        exact List.mem_cons_self
      have hb : (halTimerReadBsptimer d s.bsp).2.without t = b := by
        rwa [unlinkTimer_eq (b := (halTimerReadBsptimer d s.bsp).2) hr.wf ht,
          Option.some.injEq] at hunlink
      rw [← hb]
      exact (hr.without t).observe (o := .ran t cb _ _) (by simp)
  | @later t b hfirst hlater hb =>
      have hsame : SameQueue (s.read d).bsp b := hb ▸ rearm_sameQueue _ _ _
      exact (hr.observe (o := .chkDone (some _) _) (by simp)).same hsame

/-- One event keeps the order. -/
theorem step_ordered (s : System) (e : Event) (s' : System) (h : s.Ordered)
    (hcond : (∀ t, step s e = some t → InWindow t.bsp.expiries) ∧
      SetsUnqueued s e ∧ StartsApart s e ∧ StartsCallable s e)
    (hstep : step s e = some s') : s'.Ordered := by
  obtain ⟨hwindow, hset, hapart, hcallable⟩ := hcond
  have hexpiries := hwindow s' hstep
  cases step_cases hstep with
  | elapse | latch | irq => exact h.same ⟨rfl, rfl⟩
  | read d => exact read_ordered h d
  | startAt hstart => exact startAt_ordered h hstart hexpiries
  | @start _ _ dRead _ _ hstart => exact startAt_ordered (read_ordered h dRead) hstart hexpiries
  | startRefused | startTest => exact h
  | @startStore i p hp => exact Ordered.storeExpiry h (hapart p hp) p.tick
  | @startEnter i d p b hp _ hsection =>
      exact startSection_ordered h hsection (hapart p hp) (hcallable p hp) hexpiries
  | @stop t d b hstop =>
      obtain ⟨b', hb, hsame⟩ := halTimerStop_spec h.wf d t
      obtain rfl := Option.some.inj (hstop.symm.trans hb)
      exact ((h.without t).observe (o := .stopped t) (by simp)).same hsame
  | setCb t cb => exact (Ordered.storeFunc h hset cb).clearLink hset
  | storeFunc t cb => exact Ordered.storeFunc h hset cb
  | clearLink t => exact Ordered.clearLink h hset
  | handler hhandler =>
      have hframe := halTimerIrqHandler_frame hhandler
      rw [System.Ordered, hframe.log]
      exact h.same hframe.same
  | chk _ hturn => exact turn_ordered h hturn
  | cbReturn => exact h

/-- A start of a queued timer is refused. -/
theorem halTimerStartAt_queued {b : Bsp} (h : b.halTimerQ.WF) {t : Nat}
    (ht : t ∈ b.halTimerQ.chain) (tick : UInt32) (d : List Nat) :
    halTimerStartAt d b t tick = some (einval, b) :=
  if_pos (.inl ((h.prev_iff t).mpr ht))

/-- `hal_timer_start` of a queued timer does no more than read the clock. -/
theorem start_queued {s : System} (h : s.bsp.halTimerQ.WF) {t : Nat}
    (ht : t ∈ s.bsp.halTimerQ.chain) (ticks : UInt32) (dRead d : List Nat) :
    s.start t ticks dRead d = some (s.read dRead) := by
  have hread := halTimerReadBsptimer_sameQueue dRead s.bsp
  have hrefused := halTimerStartAt_queued (b := (s.read dRead).bsp) (t := t)
    (hread.halTimerQ ▸ h) (hread.halTimerQ ▸ ht)
    ((halTimerReadBsptimer dRead s.bsp).1 + ticks) d
  rw [System.start, System.startAt, hrefused]
  rfl

/-- The test of a start of a queued timer refuses it. -/
theorem startTest_queued {s : System} (h : s.bsp.halTimerQ.WF) {t : Nat}
    (ht : t ∈ s.bsp.halTimerQ.chain) (tick : UInt32) : s.startTest t tick = s :=
  if_pos (.inl ((h.prev_iff t).mpr ht))

/-- In a run with the queued expiries in a window, of timers whose callbacks are set while they are
not queued, in which what a start has tested still holds when it goes on: the queue has no timer
twice, `tqe_prev` is set for the queued timers, the expiries are sorted, and equal ones are in the
order of their starts.  A start of a queued timer is refused and changes neither the queue nor a
timer.  No call or turn stores or calls through NULL. -/
theorem queue_ordered {cb : Nat → Option Nat} {es : List Event} {s : System}
    (hwindow : Throughout step (fun s => InWindow s.bsp.expiries) (System.init cb) es)
    (hcond : Along step (fun s e => SetsUnqueued s e ∧ StartsApart s e ∧ StartsCallable s e)
      (System.init cb) es)
    (hrun : run step (System.init cb) es = some s) :
    s.bsp.halTimerQ.chain.Nodup ∧
      (∀ t, s.bsp.halTimerQ.prev t = true ↔ t ∈ s.bsp.halTimerQ.chain) ∧
      Sorted s.bsp.expiries ∧
      InStartOrder s.bsp s.log ∧
      (∀ t ∈ s.bsp.halTimerQ.chain, ∀ tick,
        s.startTest t tick = s ∧ ∀ d, halTimerStartAt d s.bsp t tick = some (einval, s.bsp)) ∧
      (∀ t ∈ s.bsp.halTimerQ.chain, ∀ ticks dRead d,
        s.start t ticks dRead d = some (s.read dRead) ∧ SameQueue s.bsp (s.read dRead).bsp) ∧
      (∀ d, (s.turn d).isSome) ∧
      (∀ t tick d, (s.startAt t tick d).isSome) ∧
      (∀ t d, t ∉ s.bsp.halTimerQ.chain → (startSection d s.bsp t).isSome) ∧
      ∀ t d, (s.stop t d).isSome := by
  have hinit : (System.init cb).Ordered := Ordered.init cb
  have h : s.Ordered := run_invariant_along step_ordered hinit (hwindow.along.and hcond) hrun
  refine ⟨h.wf.nodup, h.wf.prev_iff, h.sorted, h.inStartOrder, ?_, ?_, ?_, ?_, ?_, ?_⟩
  · exact fun t ht tick =>
      ⟨startTest_queued h.wf ht tick, halTimerStartAt_queued h.wf ht tick⟩
  · exact fun t ht ticks dRead d =>
      ⟨start_queued h.wf ht ticks dRead d, halTimerReadBsptimer_sameQueue dRead s.bsp⟩
  · exact turn_isSome h.wf h.callback
  · intro t tick d
    obtain ⟨rc, b, hb, -⟩ := halTimerStartAt_spec h.wf d t tick
    rw [System.startAt, hb]
    rfl
  · intro t d ht
    obtain ⟨l, r, b, hb, -⟩ := startSection_spec h.wf d ht
    rw [hb]
    rfl
  · intro t d
    obtain ⟨b, hb, -⟩ := halTimerStop_spec h.wf d t
    rw [System.stop, hb]
    rfl

/-- Timers of one expiry, one of them stopped and started again; the callback of another one
starts it again, between the steps of a start of a timer of its own. -/
def equalRun : List Event :=
  [.startAt 2 100 [], .startAt 0 50 [], .startAt 1 100 [], .startAt 3 100 [], .stop 2 [],
    .startAt 2 100 [], .startAt 2 40 [], .startTest 4 100, .elapse 60] ++ chkEntry ++
    [.chk [], .startAt 0 100 [], .cbReturn, .chk [], .startStore 0, .startEnter 0 []]

theorem queue_ordered_equalRun :
    ∃ s, run step (System.init some) equalRun = some s ∧
      s.bsp.halTimerQ.chain = [1, 3, 2, 0, 4] ∧ InStartOrder s.bsp s.log :=
  ⟨_, rfl, by decide +kernel,
    (@queue_ordered some equalRun _ (by decide +kernel) (by decide +kernel) rfl).2.2.2.1⟩

/-- The interrupted start of timer 0 has stored its expiry into the head of the queue.  It takes
one more step, and the timer would be in the queue twice. -/
theorem unsorted_interruptedHeadRun :
    ∃ s, run step (System.init some) interruptedHeadRun = some s ∧
      Throughout step (fun s => InWindow s.bsp.expiries) (System.init some) interruptedHeadRun ∧
      s.phase = .idle ∧ s.bsp.halTimerQ.chain = [0, 2] ∧ s.bsp.expiries = [300, 150] ∧
      ¬ Sorted s.bsp.expiries ∧ s.starts = [⟨0, 300, false, true⟩] := by
  refine ⟨_, rfl, by decide +kernel, rfl, rfl, rfl, fun h => ?_, rfl⟩
  have hlate : ¬ Before 150 300 := (List.pairwise_cons.mp h).1 150 List.mem_cons_self
  exact hlate (by decide)

end HalTimer
