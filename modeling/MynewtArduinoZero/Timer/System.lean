import MynewtArduinoZero.Lib.Run
import MynewtArduinoZero.Timer.HalTimer

/-!
# A timer block at work

The counter, the program and the interrupt handler together.  The handler has
the lowest priority and masks nothing before `hal_timer_chk_queue`, so its
accesses up to there are steps of their own, and calls from other interrupts may
come between them.  `hal_timer_chk_queue` is one critical section; its turns are
steps, with the calls a callback makes between them.

Calls come from the program or another interrupt, or from a callback.
`hal_timer_start` reads the clock and starts the timer; a start that is
interrupted between the two is a read followed by a start at a tick.

Where `hal_timer_start_at` can be interrupted, it is three steps, and the calls
behind their test are part of the state (`Start`).  Any of them may be the next
to go on: there may be several tasks.  A call that nothing comes between is one
step as well, and so for `hal_timer_set_cb`.
-/

namespace HalTimer

open Run Serial

/-- What runs. -/
inductive Phase where
  /-- Neither the handler nor a critical section. -/
  | idle
  /-- The handler, before it reads INTFLAG for MC0. -/
  | readMc0
  /-- Before it clears MC0. -/
  | clearMc0
  /-- Before it reads INTFLAG for OVF. -/
  | readOvf
  /-- OVF was set; before it clears OVF. -/
  | clearOvf
  /-- Before it loads `tmr_cntr`. -/
  | loadCntr
  /-- Before it stores `tmr_cntr + 65536`. -/
  | storeCntr (loaded : UInt32)
  /-- Before it counts itself and enters `hal_timer_chk_queue`. -/
  | countIsr
  /-- The loop of `hal_timer_chk_queue`. -/
  | chk
  /-- A callback. -/
  | callback
deriving DecidableEq, Repr

/-- A call can be made: no critical section is in progress but the one a callback is in. -/
def Phase.callable : Phase → Bool
  | .chk => false
  | _ => true

/-- A read of the clock, with the ticks elapsed when it began and ended. -/
structure Read where
  value : UInt32
  t0 : Nat
  t1 : Nat
deriving DecidableEq, Repr

/-- What is observed. -/
inductive Obs where
  | read (r : Read)
  /-- A successful start. -/
  | started (t : Nat) (expiry : UInt32)
  | stopped (t : Nat)
  /-- A callback, with the clock read for it. -/
  | ran (t : Nat) (cb : Nat) (tcntr expiry : UInt32)
  /-- `hal_timer_chk_queue` ends, with its last clock read and the expiries queued. -/
  | chkDone (tcntr : Option UInt32) (queued : List UInt32)
deriving DecidableEq, Repr

/-- The read that is observed, if it is one. -/
def Obs.read? : Obs → Option Read
  | .read r => some r
  | _ => none

/-- A call of `hal_timer_start_at` that has passed its test. -/
structure Start where
  t : Nat
  tick : UInt32
  /-- The call is made by a callback. -/
  inCallback : Bool
  /-- The expiry is stored, and the critical section is next. -/
  stored : Bool
deriving DecidableEq, Repr

/-- A timer block at work; `log` has the latest observation first. -/
structure System where
  bsp : Bsp
  phase : Phase
  log : List Obs
  /-- The starts in progress. -/
  starts : List Start

/-- The reads, the latest first. -/
def System.reads (s : System) : List Read := s.log.filterMap Obs.read?

/-- After `hal_timer_config`, with the callbacks that `hal_timer_set_cb` has set. -/
def System.init (cb : Nat → Option Nat) : System := ⟨Bsp.init cb, .idle, [], []⟩

/-- What can happen next.  The lists are the delays before register accesses. -/
inductive Event where
  /-- Ticks pass. -/
  | elapse (n : Nat)
  /-- The NVIC latches a request. -/
  | latch
  | read (d : List Nat)
  | startAt (t : Nat) (tick : UInt32) (d : List Nat)
  | start (t : Nat) (ticks : UInt32) (dRead d : List Nat)
  /-- The test at the front of `hal_timer_start_at`. -/
  | startTest (t : Nat) (tick : UInt32)
  /-- The start with number `i` in progress stores its expiry. -/
  | startStore (i : Nat)
  /-- The start with number `i` runs its critical section. -/
  | startEnter (i : Nat) (d : List Nat)
  | stop (t : Nat) (d : List Nat)
  | setCb (t : Nat) (cb : Option Nat)
  | storeFunc (t : Nat) (cb : Option Nat)
  | clearLink (t : Nat)
  /-- The handler is entered. -/
  | irq
  /-- The next access of the handler. -/
  | handler
  /-- The next turn of `hal_timer_chk_queue`. -/
  | chk (d : List Nat)
  /-- The callback returns. -/
  | cbReturn

/-- The observation of a read from `b` to `b'`. -/
def readObs (value : UInt32) (b b' : Bsp) : Obs :=
  .read { value := value, t0 := b.tc.elapsed, t1 := b'.tc.elapsed }

/-- `hal_timer_read`. -/
def System.read (d : List Nat) (s : System) : System :=
  let value := (halTimerReadBsptimer d s.bsp).1
  let b := (halTimerReadBsptimer d s.bsp).2
  { s with bsp := b, log := readObs value s.bsp b :: s.log }

/-- `hal_timer_start_at`. -/
def System.startAt (t : Nat) (tick : UInt32) (d : List Nat) (s : System) : Option System :=
  (halTimerStartAt d s.bsp t tick).map fun (rc, b) =>
    { s with bsp := b, log := if rc = 0 then .started t tick :: s.log else s.log }

/-- `hal_timer_start`. -/
def System.start (t : Nat) (ticks : UInt32) (dRead d : List Nat) (s : System) : Option System :=
  let tick := (halTimerReadBsptimer dRead s.bsp).1 + ticks
  (s.read dRead).startAt t tick d

/-- The test of `hal_timer_start_at`, which a call passes to go on later. -/
def System.startTest (t : Nat) (tick : UInt32) (s : System) : System :=
  if StartRefused s.bsp t then s
  else { s with starts := s.starts ++ [⟨t, tick, s.phase = .callback, false⟩] }

/-- A start in progress can go on: no critical section is in progress but the one its callback
is in. -/
def System.goesOn (s : System) (p : Start) : Bool :=
  s.phase.callable && p.inCallback == decide (s.phase = .callback)

/-- A start in progress stores its expiry. -/
def System.startStore (i : Nat) (s : System) : Option System :=
  s.starts[i]?.bind fun p =>
    if s.goesOn p ∧ p.stored = false then
      some { s with
        bsp := storeExpiry s.bsp p.t p.tick
        starts := s.starts.set i { p with stored := true } }
    else none

/-- A start in progress runs its critical section and returns 0. -/
def System.startEnter (i : Nat) (d : List Nat) (s : System) : Option System :=
  s.starts[i]?.bind fun p =>
    if s.goesOn p ∧ p.stored = true then
      (startSection d s.bsp p.t).map fun b =>
        { s with
          bsp := b
          starts := s.starts.eraseIdx i
          log := .started p.t (s.bsp.expiry p.t) :: s.log }
    else none

/-- `hal_timer_stop`. -/
def System.stop (t : Nat) (d : List Nat) (s : System) : Option System :=
  (halTimerStop d s.bsp t).map fun b => { s with bsp := b, log := .stopped t :: s.log }

/-- The next access of `hal_timer_irq_handler`. -/
def halTimerIrqHandler (s : System) : Option System :=
  let b := s.bsp
  match s.phase with
  | .readMc0 => some { s with phase := if b.tc.mc0 then .clearMc0 else .readOvf }
  | .clearMc0 => some { s with bsp := { b with tc := b.tc.clearMc0 }, phase := .readOvf }
  | .readOvf => some { s with phase := if b.tc.ovf then .clearOvf else .countIsr }
  | .clearOvf => some { s with bsp := { b with tc := b.tc.clearOvf }, phase := .loadCntr }
  | .loadCntr => some { s with phase := .storeCntr b.tmrCntr }
  | .storeCntr loaded =>
      some { s with bsp := { b with tmrCntr := loaded + 65536 }, phase := .countIsr }
  | .countIsr => some { s with bsp := { b with timerIsrs := b.timerIsrs + 1 }, phase := .chk }
  | _ => none

/-- What the handler leaves alone up to `hal_timer_chk_queue`. -/
structure HandlerFrame (s s' : System) : Prop where
  same : SameQueue s.bsp s'.bsp
  log : s'.log = s.log
  missed : s'.bsp.tc.missed = s.bsp.tc.missed

theorem HandlerFrame.store (s : System) (tmrCntr : UInt32) (phase : Phase) :
    HandlerFrame s { s with bsp := { s.bsp with tmrCntr := tmrCntr }, phase := phase } :=
  ⟨⟨rfl, rfl⟩, rfl, rfl⟩

theorem halTimerIrqHandler_frame {s s' : System} (h : halTimerIrqHandler s = some s') :
    HandlerFrame s s' := by
  cases hphase : s.phase with
  | idle | chk | callback =>
      rw [halTimerIrqHandler, hphase] at h
      cases h
  | readMc0 | clearMc0 | readOvf | clearOvf | loadCntr | countIsr =>
      rw [halTimerIrqHandler, hphase] at h
      cases h
      exact ⟨⟨rfl, rfl⟩, rfl, rfl⟩
  | storeCntr loaded =>
      rw [halTimerIrqHandler, hphase, Option.some.injEq] at h
      subst h
      exact .store s _ _

/-- The handler ends with `hal_timer_chk_queue`. -/
theorem halTimerIrqHandler_phase {s s' : System} (h : halTimerIrqHandler s = some s') :
    s'.phase ≠ .idle := by
  cases hphase : s.phase with
  | idle | chk | callback =>
      rw [halTimerIrqHandler, hphase] at h
      cases h
  | clearMc0 | clearOvf | loadCntr | countIsr | storeCntr loaded =>
      rw [halTimerIrqHandler, hphase, Option.some.injEq] at h
      rw [← h]
      exact Phase.noConfusion
  | readMc0 | readOvf =>
      rw [halTimerIrqHandler, hphase, Option.some.injEq] at h
      rw [← h]
      dsimp only
      split <;> exact Phase.noConfusion

/-- The next turn of `hal_timer_chk_queue`.  A turn that reads the clock is observed as a read
as well. -/
def System.turn (d : List Nat) (s : System) : Option System :=
  (halTimerChkQueueTurn d s.bsp).map fun
    | .call t cb tcntr expiry b =>
        { s with bsp := b, phase := .callback, log := .ran t cb tcntr expiry :: (s.read d).log }
    | .done (some tcntr) b =>
        { s with
          bsp := b, phase := .idle, log := .chkDone (some tcntr) b.expiries :: (s.read d).log }
    | .done none b =>
        { s with bsp := b, phase := .idle, log := .chkDone none b.expiries :: s.log }

/-- What a turn of `hal_timer_chk_queue` can do. -/
inductive TurnStep (d : List Nat) (s : System) : System → Prop where
  /-- The queue is empty. -/
  | empty : s.bsp.halTimerQ.first = none →
      TurnStep d s
        { s with
          bsp := rearm d s.bsp none, phase := .idle,
          log := .chkDone none (rearm d s.bsp none).expiries :: s.log }
  /-- The head is expired. -/
  | call {t : Nat} {cb : Nat} {b : Bsp} :
      s.bsp.halTimerQ.first = some t → (s.bsp.timers t).cb = some cb →
      ¬ Before (halTimerReadBsptimer d s.bsp).1 (s.bsp.expiry t) →
      unlinkTimer (halTimerReadBsptimer d s.bsp).2 t = some b →
      TurnStep d s
        { s with
          bsp := b, phase := .callback,
          log := .ran t cb (halTimerReadBsptimer d s.bsp).1 (s.bsp.expiry t) :: (s.read d).log }
  /-- The head is not expired. -/
  | later {t : Nat} {b : Bsp} :
      s.bsp.halTimerQ.first = some t →
      Before (halTimerReadBsptimer d s.bsp).1 (s.bsp.expiry t) →
      b = rearm (d.drop 5) (halTimerReadBsptimer d s.bsp).2 (some t) →
      TurnStep d s
        { s with
          bsp := b, phase := .idle,
          log := .chkDone (some (halTimerReadBsptimer d s.bsp).1) b.expiries :: (s.read d).log }

theorem System.turn_cases {d : List Nat} {s s' : System} (h : s.turn d = some s') :
    TurnStep d s s' := by
  have hread := halTimerReadBsptimer_sameQueue d s.bsp
  obtain ⟨turn, hturn, heq⟩ := Option.map_eq_some_iff.mp h
  unfold halTimerChkQueueTurn at hturn
  split at hturn
  · rename_i hfirst
    cases hturn
    subst heq
    exact .empty hfirst
  · rename_i t hfirst
    dsimp only at hturn
    rw [hread.expiry, hread.timers, hread.halTimerQ] at hturn
    split at hturn
    · rename_i hexpired
      obtain ⟨b, hb, hcall⟩ := Option.bind_eq_some_iff.mp hturn
      obtain ⟨cb, hcb, rfl⟩ := Option.map_eq_some_iff.mp hcall
      subst heq
      exact .call hfirst hcb (Int.not_lt.mpr hexpired) hb
    · rename_i hexpired
      cases hturn
      subst heq
      exact .later hfirst (Int.not_le.mp hexpired) (by rw [hfirst])

/-- One event. -/
def step (s : System) : Event → Option System
  | .elapse n => some { s with bsp := { s.bsp with tc := s.bsp.tc.elapse n } }
  | .latch =>
      if s.bsp.tc.line then some { s with bsp := { s.bsp with tc := s.bsp.tc.setPendingIrq } }
      else none
  | .read d => if s.phase.callable then some (s.read d) else none
  | .startAt t tick d => if s.phase.callable then s.startAt t tick d else none
  | .start t ticks dRead d => if s.phase.callable then s.start t ticks dRead d else none
  | .startTest t tick => if s.phase.callable then some (s.startTest t tick) else none
  | .startStore i => s.startStore i
  | .startEnter i d => s.startEnter i d
  | .stop t d => if s.phase.callable then s.stop t d else none
  | .setCb t cb =>
      if s.phase.callable then some { s with bsp := halTimerSetCb s.bsp t cb } else none
  | .storeFunc t cb =>
      if s.phase.callable then some { s with bsp := storeFunc s.bsp t cb } else none
  | .clearLink t =>
      if s.phase.callable then some { s with bsp := clearLink s.bsp t } else none
  | .irq =>
      if s.phase = .idle ∧ s.bsp.tc.Requested then
        some { s with
          bsp := { s.bsp with tc := { s.bsp.tc with pending := false } }
          phase := .readMc0 }
      else none
  | .handler => halTimerIrqHandler s
  | .chk d => if s.phase = .chk then s.turn d else none
  | .cbReturn =>
      if s.phase = .callback ∧ ∀ p ∈ s.starts, p.inCallback = false then
        some { s with phase := .chk }
      else none

/-- What an event can do. -/
inductive EventStep (s : System) : Event → System → Prop where
  | elapse (n : Nat) :
      EventStep s (.elapse n) { s with bsp := { s.bsp with tc := s.bsp.tc.elapse n } }
  | latch : s.bsp.tc.line →
      EventStep s .latch { s with bsp := { s.bsp with tc := s.bsp.tc.setPendingIrq } }
  | read (d : List Nat) : EventStep s (.read d) (s.read d)
  | startAt {t : Nat} {tick : UInt32} {d : List Nat} {s' : System} :
      s.startAt t tick d = some s' → EventStep s (.startAt t tick d) s'
  | start {t : Nat} {ticks : UInt32} {dRead d : List Nat} {s' : System} :
      (s.read dRead).startAt t ((halTimerReadBsptimer dRead s.bsp).1 + ticks) d = some s' →
      EventStep s (.start t ticks dRead d) s'
  | startRefused {t : Nat} (tick : UInt32) : StartRefused s.bsp t →
      EventStep s (.startTest t tick) s
  | startTest {t : Nat} (tick : UInt32) : ¬ StartRefused s.bsp t →
      EventStep s (.startTest t tick)
        { s with starts := s.starts ++ [⟨t, tick, s.phase = .callback, false⟩] }
  | startStore {i : Nat} {p : Start} : s.starts[i]? = some p → p.stored = false →
      EventStep s (.startStore i)
        { s with
          bsp := storeExpiry s.bsp p.t p.tick
          starts := s.starts.set i { p with stored := true } }
  | startEnter {i : Nat} {d : List Nat} {p : Start} {b : Bsp} : s.starts[i]? = some p →
      p.stored = true → startSection d s.bsp p.t = some b →
      EventStep s (.startEnter i d)
        { s with
          bsp := b
          starts := s.starts.eraseIdx i
          log := .started p.t (s.bsp.expiry p.t) :: s.log }
  | stop {t : Nat} {d : List Nat} {b : Bsp} : halTimerStop d s.bsp t = some b →
      EventStep s (.stop t d) { s with bsp := b, log := .stopped t :: s.log }
  | setCb (t : Nat) (cb : Option Nat) :
      EventStep s (.setCb t cb) { s with bsp := halTimerSetCb s.bsp t cb }
  | storeFunc (t : Nat) (cb : Option Nat) :
      EventStep s (.storeFunc t cb) { s with bsp := storeFunc s.bsp t cb }
  | clearLink (t : Nat) : EventStep s (.clearLink t) { s with bsp := clearLink s.bsp t }
  | irq : s.phase = .idle → s.bsp.tc.Requested →
      EventStep s .irq
        { s with
          bsp := { s.bsp with tc := { s.bsp.tc with pending := false } }
          phase := .readMc0 }
  | handler {s' : System} : halTimerIrqHandler s = some s' → EventStep s .handler s'
  | chk {d : List Nat} {s' : System} :
      s.phase = .chk → s.turn d = some s' → EventStep s (.chk d) s'
  | cbReturn : s.phase = .callback → EventStep s .cbReturn { s with phase := .chk }

theorem step_cases {s s' : System} {e : Event} (h : step s e = some s') : EventStep s e s' := by
  cases e with
  | elapse n =>
      cases h
      exact .elapse n
  | handler => exact .handler h
  | latch =>
      rw [step, Option.ite_none_right_eq_some] at h
      cases h.2
      exact .latch h.1
  | read d =>
      rw [step, Option.ite_none_right_eq_some] at h
      cases h.2
      exact .read d
  | startAt t tick d =>
      rw [step, Option.ite_none_right_eq_some] at h
      exact .startAt h.2
  | start t ticks dRead d =>
      rw [step, Option.ite_none_right_eq_some] at h
      exact .start h.2
  | startTest t tick =>
      rw [step, Option.ite_none_right_eq_some] at h
      cases h.2
      rw [System.startTest]
      split
      · rename_i hrefused
        exact .startRefused tick hrefused
      · rename_i hpassed
        exact .startTest tick hpassed
  | startStore i =>
      obtain ⟨p, hp, hstore⟩ := Option.bind_eq_some_iff.mp h
      rw [Option.ite_none_right_eq_some] at hstore
      cases hstore.2
      exact .startStore hp hstore.1.2
  | startEnter i d =>
      obtain ⟨p, hp, henter⟩ := Option.bind_eq_some_iff.mp h
      rw [Option.ite_none_right_eq_some] at henter
      obtain ⟨b, hb, rfl⟩ := Option.map_eq_some_iff.mp henter.2
      exact .startEnter hp henter.1.2 hb
  | stop t d =>
      rw [step, Option.ite_none_right_eq_some] at h
      obtain ⟨b, hb, rfl⟩ := Option.map_eq_some_iff.mp h.2
      exact .stop hb
  | setCb t cb =>
      rw [step, Option.ite_none_right_eq_some] at h
      cases h.2
      exact .setCb t cb
  | storeFunc t cb =>
      rw [step, Option.ite_none_right_eq_some] at h
      cases h.2
      exact .storeFunc t cb
  | clearLink t =>
      rw [step, Option.ite_none_right_eq_some] at h
      cases h.2
      exact .clearLink t
  | irq =>
      rw [step, Option.ite_none_right_eq_some] at h
      cases h.2
      exact .irq h.1.1 h.1.2
  | chk d =>
      rw [step, Option.ite_none_right_eq_some] at h
      exact .chk h.1 h.2
  | cbReturn =>
      rw [step, Option.ite_none_right_eq_some] at h
      cases h.2
      exact .cbReturn h.1.1

/-! ## Starts in progress -/

/-- The three steps of a start with nothing in between are the whole call. -/
theorem run_startAt {s : System} (hcallable : s.phase.callable = true) {t : Nat}
    (hpassed : ¬ StartRefused s.bsp t) (tick : UInt32) (d : List Nat) :
    run step s [.startTest t tick, .startStore s.starts.length, .startEnter s.starts.length d] =
      s.startAt t tick d := by
  have hexpiry : (storeExpiry s.bsp t tick).expiry t = tick := congrArg Timer.expiry (if_pos rfl)
  have htest : step s (.startTest t tick) =
      some { s with starts := s.starts ++ [⟨t, tick, s.phase = .callback, false⟩] } := by
    rw [step, if_pos hcallable, System.startTest, if_neg hpassed]
  have hstore : step { s with starts := s.starts ++ [⟨t, tick, s.phase = .callback, false⟩] }
      (.startStore s.starts.length) =
      some { s with
        bsp := storeExpiry s.bsp t tick
        starts := s.starts ++ [⟨t, tick, s.phase = .callback, true⟩] } := by
    simp [step, System.startStore, System.goesOn, hcallable]
  have henter : step
      { s with
        bsp := storeExpiry s.bsp t tick
        starts := s.starts ++ [⟨t, tick, s.phase = .callback, true⟩] }
      (.startEnter s.starts.length d) =
      (startSection d (storeExpiry s.bsp t tick) t).map fun b =>
        { s with bsp := b, log := .started t tick :: s.log } := by
    simp [step, System.startEnter, System.goesOn, hcallable, hexpiry, List.eraseIdx_append]
  rw [run, htest, Option.bind_some, run, hstore, Option.bind_some, run, henter, System.startAt,
    halTimerStartAt, if_neg hpassed]
  cases startSection d (storeExpiry s.bsp t tick) t <;> rfl

/-- No other start has queued the timer of a start that goes on behind its test. -/
def StartsApart (s : System) : Event → Prop
  | .startStore i | .startEnter i _ => ∀ p ∈ s.starts[i]?, p.t ∉ s.bsp.halTimerQ.chain
  | _ => True

instance (s : System) (e : Event) : Decidable (StartsApart s e) :=
  match e with
  | .startStore _ | .startEnter _ _ => Option.decidableForallMem _
  | .elapse _ | .latch | .read _ | .startAt _ _ _ | .start _ _ _ _ | .startTest _ _ | .stop _ _
  | .setCb _ _ | .storeFunc _ _ | .clearLink _ | .irq | .handler | .chk _ | .cbReturn =>
      instDecidableTrue

end HalTimer
