import MynewtArduinoZero.Timer.System

/-!
# No lost expiry

Outside the handler, the head of the queue is taken care of (`Armed`): the
interrupt is requested, or MC0 will request it in this epoch, or the expiry is
in a later epoch and an overflow comes first.

Whatever the counter does, `samd21_timer_set_ocmp` ends in such a state
(`armed_samd21TimerSetOcmp`), ticks keep it, and a read that consumes the
overflow pends the interrupt in its place.  What changes the head calls
`samd21_timer_set_ocmp` for the new one.
-/

namespace HalTimer

open Run Serial

/-- The expiry will not be lost. -/
def Armed (b : Bsp) (expiry : UInt32) : Prop :=
  b.tc.Requested ∨
    (b.tc.Watching (expiry16 expiry) ∧ epochOf expiry = b.tmrCntr) ∨
    0 < int32 (epochOf expiry - b.tmrCntr)

/-- The head of the queue is armed. -/
def HeadArmed (b : Bsp) : Prop := ∀ t, b.halTimerQ.first = some t → Armed b (b.expiry t)

/-! ## Arming -/

/-- Setting the output compare arms the expiry, however the counter moves meanwhile. -/
theorem armed_samd21TimerSetOcmp (d : List Nat) (b : Bsp) (expiry : UInt32) :
    Armed (samd21TimerSetOcmp d b expiry) expiry := by
  unfold samd21TimerSetOcmp
  dsimp only
  split
  · exact .inl (.of_pending rfl)
  · rename_i hlate
    split
    · rename_i hzero
      split
      · exact .inl (.of_pending rfl)
      · rename_i hbelow
        have hepoch : epochOf expiry = b.tmrCntr := eq_of_int32_sub_eq_zero hzero
        have hcc0 : expiry16 expiry % period = expiry16 expiry := Nat.mod_mod ..
        refine .inr (.inl ⟨?_, hepoch⟩)
        exact
          { enabled := rfl
            cc0 := hcc0
            below := Nat.lt_of_lt_of_eq (Nat.not_le.mp hbelow) hcc0.symm }
    · rename_i hzero
      exact .inr (.inr (lt_of_le_of_ne (Int.not_lt.mp hlate) (Ne.symm hzero)))

/-- Ticks keep an expiry armed. -/
theorem Armed.elapse {b : Bsp} {expiry : UInt32} (h : Armed b expiry) (n : Nat) :
    Armed { b with tc := b.tc.elapse n } expiry := by
  rcases h with hrequested | ⟨hwatching, hepoch⟩ | hlater
  · exact .inl (hrequested.elapse n)
  · exact (hwatching.elapse n).imp id fun h => .inl ⟨h, hepoch⟩
  · exact .inr (.inr hlater)

/-- A read keeps an expiry armed: where it takes the overflow away it pends the interrupt. -/
theorem Armed.read {b : Bsp} {expiry : UInt32} (h : Armed b expiry) (d : List Nat) :
    Armed (halTimerReadBsptimer d b).2 expiry := by
  unfold halTimerReadBsptimer
  dsimp only
  split
  · exact .inl (.of_pending rfl)
  · exact (h.elapse (delay d 0)).elapse (delay d 1)

theorem headArmed_rearm {d : List Nat} {b : Bsp} {timer : Option Nat}
    (htimer : b.halTimerQ.first = timer) : HeadArmed (rearm d b timer) := by
  intro t ht
  have hsame := rearm_sameQueue d b timer
  rw [hsame.halTimerQ, htimer] at ht
  subst ht
  rw [hsame.expiry]
  exact armed_samd21TimerSetOcmp d b _

/-! ## The calls -/

theorem HeadArmed.elapse {b : Bsp} (h : HeadArmed b) (n : Nat) :
    HeadArmed { b with tc := b.tc.elapse n } :=
  fun t ht => (h t ht).elapse n

theorem HeadArmed.latch {b : Bsp} (_ : HeadArmed b) :
    HeadArmed { b with tc := b.tc.setPendingIrq } :=
  fun _ _ => .inl (.of_pending rfl)

theorem HeadArmed.read {b : Bsp} (h : HeadArmed b) (d : List Nat) :
    HeadArmed (halTimerReadBsptimer d b).2 := by
  intro t ht
  have hsame := halTimerReadBsptimer_sameQueue d b
  rw [hsame.halTimerQ] at ht
  rw [hsame.expiry]
  exact (h t ht).read d

/-- An insertion makes the timer the head or leaves the head. -/
theorem first_insertTimer {b : Bsp} {t : Nat} {q : TailQueue Nat}
    (h : insertTimer b t = some q) {c : Nat} (hc : q.first = some c) :
    c = t ∨ b.halTimerQ.first = some c := by
  unfold insertTimer at h
  dsimp only at h
  split at h
  · cases h
  · split at h
    · cases h
      rw [TailQueue.first, TailQueue.insertHead, List.head?_cons, Option.some.injEq] at hc
      exact .inl hc.symm
    · split at h
      · rw [TailQueue.insertBefore, Option.ite_none_right_eq_some] at h
        cases h.2
        exact TailQueue.head?_putBefore hc
      · cases h
        exact TailQueue.first_insertTail hc

/-- The expiry of a timer that is not queued is not the head's. -/
theorem HeadArmed.storeExpiry {b : Bsp} (h : HeadArmed b) {t : Nat} (ht : t ∉ b.halTimerQ.chain)
    (tick : UInt32) : HeadArmed (storeExpiry b t tick) := by
  intro c hc
  have hne : c ≠ t := ne_of_mem_of_not_mem (List.mem_of_mem_head? hc) ht
  have hexpiry : (HalTimer.storeExpiry b t tick).expiry c = b.expiry c :=
    congrArg Timer.expiry (if_neg hne)
  have harmed := h c hc
  rw [← hexpiry] at harmed
  exact harmed

/-- The critical section of a start is stuck where the timer is in the chain. -/
theorem not_mem_of_startSection {d : List Nat} {b b' : Bsp} {t : Nat}
    (h : startSection d b t = some b') : t ∉ b.halTimerQ.chain := by
  intro ht
  rw [startSection, insertTimer, if_pos ht] at h
  cases h

theorem HeadArmed.startSection {d : List Nat} {b b' : Bsp} {t : Nat} (h : HeadArmed b)
    (hsection : startSection d b t = some b') : HeadArmed b' := by
  obtain ⟨q, hq, rfl⟩ := Option.map_eq_some_iff.mp hsection
  split
  · rename_i hfirst
    have harmed : HeadArmed (rearm d { b with halTimerQ := q } (some t)) := headArmed_rearm hfirst
    exact harmed
  · rename_i hfirst
    intro c hc
    have hne : c ≠ t := by
      rintro rfl
      exact hfirst hc
    exact h c ((first_insertTimer hq hc).resolve_left hne)

theorem HeadArmed.startAt {d : List Nat} {b b' : Bsp} {t : Nat} {tick : UInt32} {rc : Int}
    (h : HeadArmed b) (hstart : halTimerStartAt d b t tick = some (rc, b')) : HeadArmed b' := by
  unfold halTimerStartAt at hstart
  split at hstart
  · cases hstart
    exact h
  · obtain ⟨b₁, hsection, heq⟩ := Option.map_eq_some_iff.mp hstart
    cases heq
    have ht : t ∉ (HalTimer.storeExpiry b t tick).halTimerQ.chain :=
      not_mem_of_startSection hsection
    exact (h.storeExpiry ht tick).startSection hsection

/-- The head behind an `unlinkTimer`. -/
theorem first_unlinkTimer {b b' : Bsp} {t : Nat} (h : unlinkTimer b t = some b') :
    b'.halTimerQ.first = (b.halTimerQ.chain.erase t).head? ∧ b'.tc = b.tc ∧
      b'.tmrCntr = b.tmrCntr ∧ b'.timers = b.timers := by
  obtain ⟨q, hq, rfl⟩ := Option.map_eq_some_iff.mp h
  rw [TailQueue.remove, Option.ite_none_right_eq_some] at hq
  cases hq.2
  exact ⟨rfl, rfl, rfl, rfl⟩

theorem HeadArmed.stop {d : List Nat} {b b' : Bsp} {t : Nat} (h : HeadArmed b)
    (hstop : halTimerStop d b t = some b') : HeadArmed b' := by
  unfold halTimerStop at hstop
  split at hstop
  · obtain ⟨u, hu, heq⟩ := Option.map_eq_some_iff.mp hstop
    obtain ⟨hfirst, htc, hcntr, htimers⟩ := first_unlinkTimer hu
    split at heq
    · rename_i hhead
      cases heq
      exact headArmed_rearm (hfirst.trans (TailQueue.head?_erase_first hhead))
    · rename_i hhead
      cases heq
      rw [TailQueue.head?_erase_of_ne hhead] at hfirst
      intro c hc
      have harmed := h c (hfirst.symm.trans hc)
      rwa [Armed, Bsp.expiry, ← htc, ← hcntr, ← htimers] at harmed
  · cases hstop
    exact h

/-- `hal_timer_set_cb` leaves the expiries. -/
theorem HeadArmed.storeFunc {b : Bsp} (h : HeadArmed b) (i : Nat) (cb : Option Nat) :
    HeadArmed (storeFunc b i cb) := by
  intro c hc
  have hexpiry : (HalTimer.storeFunc b i cb).expiry c = b.expiry c := by
    rw [HalTimer.storeFunc, Bsp.expiry, Bsp.expiry, Bsp.setTimer]
    dsimp only
    split
    · rename_i hci
      rw [hci]
    · rfl
  have harmed := h c hc
  rw [← hexpiry] at harmed
  exact harmed

/-! ## The system -/

/-- Outside the handler the head is armed. -/
def IdleArmed (s : System) : Prop := s.phase = .idle → HeadArmed s.bsp

theorem step_idleArmed (s : System) (e : Event) (t : System) (h : IdleArmed s)
    (hapart : StartsApart s e) (hstep : step s e = some t) : IdleArmed t := by
  intro hidle
  cases step_cases hstep with
  | elapse n => exact (h hidle).elapse n
  | latch => exact (h hidle).latch
  | read d => exact (h hidle).read d
  | startAt hcall =>
      obtain ⟨⟨rc, b⟩, hstart, heq⟩ := Option.map_eq_some_iff.mp hcall
      subst heq
      exact (h hidle).startAt hstart
  | @start _ _ dRead _ _ hcall =>
      obtain ⟨⟨rc, b⟩, hstart, heq⟩ := Option.map_eq_some_iff.mp hcall
      subst heq
      exact ((h hidle).read dRead).startAt hstart
  | startRefused | startTest => exact h hidle
  | @startStore i p hp => exact (h hidle).storeExpiry (hapart p hp) p.tick
  | startEnter _ _ hsection => exact (h hidle).startSection hsection
  | stop hstop => exact (h hidle).stop hstop
  | setCb i cb => exact (h hidle).storeFunc i cb
  | storeFunc i cb => exact (h hidle).storeFunc i cb
  | clearLink i => exact h hidle
  | irq => cases hidle
  | handler hhandler => exact absurd hidle (halTimerIrqHandler_phase hhandler)
  | @chk d _ _ hturn =>
      have hsame := halTimerReadBsptimer_sameQueue d s.bsp
      cases System.turn_cases hturn with
      | empty hfirst => exact headArmed_rearm hfirst
      | call => cases hidle
      | later hfirst hexpired hb =>
          subst hb
          exact headArmed_rearm (by rw [hsame.halTimerQ]; exact hfirst)
  | cbReturn => cases hidle

/-- In a run in which no other start of a timer queues it between the test and the critical
section of a start: when neither the handler nor a critical section is in progress, the head of
the queue is armed. -/
theorem idle_head_armed {cb : Nat → Option Nat} {es : List Event} {s : System}
    (hapart : Along step StartsApart (System.init cb) es)
    (hrun : run step (System.init cb) es = some s) (hidle : s.phase = .idle) {t : Nat}
    (ht : s.bsp.halTimerQ.first = some t) :
    s.bsp.tc.Requested ∨
      (s.bsp.tc.Watching (expiry16 (s.bsp.expiry t)) ∧
        epochOf (s.bsp.expiry t) = s.bsp.tmrCntr) ∨
      0 < int32 (epochOf (s.bsp.expiry t) - s.bsp.tmrCntr) := by
  have hinit : IdleArmed (System.init cb) := fun _ t ht => by cases ht
  exact run_invariant_along step_idleArmed hinit hapart hrun hidle t ht

/-- A timer of the next period is queued behind one of this period, which is then stopped.
Another start of the first comes behind the test of one that has not gone on. -/
def expiryRun : List Event :=
  [.startTest 2 70001, .startAt 0 100 [2, 3], .startAt 1 70000 [1], .startStore 0, .elapse 50,
    .stop 0 [], .startEnter 0 [], .elapse 65536]

theorem idle_head_armed_expiryRun :
    ∃ s, run step (System.init fun t => some t) expiryRun = some s ∧
      s.bsp.halTimerQ.chain = [1, 2] ∧ Armed s.bsp 70000 :=
  ⟨_, rfl, rfl, @idle_head_armed (fun t => some t) expiryRun _ (by decide +kernel) rfl rfl 1 rfl⟩

/-- The callback of timer 1 starts timer 0 between the test and the store of another start of
timer 0. -/
def interruptedStartRun : List Event :=
  [.startAt 1 10 [], .elapse 20, .startTest 0 200, .irq, .handler, .handler, .handler, .handler,
    .chk [], .startAt 0 100 [], .cbReturn, .chk [], .startStore 0]

/-- CC0 is left at the expiry of the second start, and the first has stored its own. -/
theorem head_not_armed_interruptedStartRun :
    ∃ s, run step (System.init some) interruptedStartRun = some s ∧ s.phase = .idle ∧
      s.bsp.halTimerQ.first = some 0 ∧ s.bsp.expiry 0 = 200 ∧ s.bsp.tc.cc0 = 100 ∧
      ¬ Armed s.bsp (s.bsp.expiry 0) := by
  refine ⟨_, rfl, rfl, rfl, rfl, rfl, ?_⟩
  rintro (hrequested | ⟨hwatching, -⟩ | hlater)
  · exact absurd hrequested (by decide +kernel)
  · exact absurd hwatching.cc0 (by decide +kernel)
  · exact absurd hlater (by decide +kernel)

end HalTimer
