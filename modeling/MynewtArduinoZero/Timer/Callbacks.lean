import MynewtArduinoZero.Lib.Log
import MynewtArduinoZero.Lib.Run
import MynewtArduinoZero.Timer.Queue

/-!
# Callbacks

When a callback runs, read off the log of a run.  The comparison of the code is
an order on a window of fewer than `2 ^ 31` ticks only, so the runs considered
keep the queued expiries, and the clock read by `hal_timer_chk_queue`, in one
(`Windowed`).

`hal_timer_set_cb` initializes a timer and takes it for unqueued whatever it was.
Done to a queued timer, that makes the next `hal_timer_stop` ignore it while it
stays in the chain (`set_cb_queued_ran_after_stop`).  A start that is interrupted
behind its test by another start of its timer stores its expiry into a queued
timer (`expired_left_interruptedHeadRun`).  Where `hal_timer_set_cb` is called for
timers that are not queued (`SetsUnqueued`) and what a start has tested still
holds when it goes on (`StartsApart`, `StartsCallable`), every callback is
justified (`callbacks_justified`).
-/

namespace HalTimer

open Log Run Serial TailQueue

/-! ## The log -/

/-- The timer an observation is about. -/
def Obs.about : Obs → Option Nat
  | .started t _ | .stopped t | .ran t _ _ _ => some t
  | .read _ | .chkDone _ _ => none

/-- The last start, stop or callback of a timer. -/
def lastAbout (t : Nat) (log : List Obs) : Option Obs := log.find? fun o => o.about = some t

/-- The expiries of the callbacks since the last start of any timer. -/
def ranSinceStart : List Obs → List UInt32
  | [] => []
  | .started _ _ :: _ => []
  | .ran _ _ _ expiry :: log => expiry :: ranSinceStart log
  | .read _ :: log | .stopped _ :: log | .chkDone _ _ :: log => ranSinceStart log

/-- What an observation may look like behind the earlier ones. -/
def Justified (log : List Obs) : Obs → Prop
  | .ran t _ tcntr expiry =>
      -- the last that happened to the timer is the start for this expiry
      lastAbout t log = some (.started t expiry) ∧ ¬ Before tcntr expiry ∧
        ∀ earlier ∈ ranSinceStart log, ¬ Before expiry earlier
  | .chkDone tcntr queued => ∀ expiry ∈ queued, ∃ c, tcntr = some c ∧ Before c expiry
  | .read _ | .started _ _ | .stopped _ => True

theorem lastAbout_cons_self {t : Nat} {o : Obs} (h : o.about = some t) (log : List Obs) :
    lastAbout t (o :: log) = some o :=
  List.find?_cons_of_pos (decide_eq_true h)

theorem lastAbout_cons_of_ne {t : Nat} {o : Obs} (h : o.about ≠ some t) (log : List Obs) :
    lastAbout t (o :: log) = lastAbout t log :=
  List.find?_cons_of_neg (by simpa using h)

/-! ## The invariant -/

/-- The queue is sorted, and what is queued is what was started and has neither run nor been
stopped. -/
structure QueueInv (b : Bsp) (log : List Obs) : Prop where
  wf : b.halTimerQ.WF
  sorted : Sorted b.expiries
  callback : ∀ t ∈ b.halTimerQ.chain, (b.timers t).cb ≠ none
  started : ∀ t ∈ b.halTimerQ.chain, lastAbout t log = some (.started t (b.expiry t))
  /-- No queued timer expires before one whose callback came since the last start. -/
  floor : ∀ expiry ∈ b.expiries, ∀ earlier ∈ ranSinceStart log, ¬ Before expiry earlier
  justified : AllJustified Justified log

namespace QueueInv

variable {b : Bsp} {log : List Obs}

theorem init (cb : Nat → Option Nat) : QueueInv (Bsp.init cb) [] where
  wf := ⟨List.nodup_nil, fun t => by simp [Bsp.init]⟩
  sorted := List.Pairwise.nil
  callback := fun t ht => by cases ht
  started := fun t ht => by cases ht
  floor := fun expiry hexpiry => by cases hexpiry
  justified := allJustified_nil

theorem same (h : QueueInv b log) {b' : Bsp} (hb : SameQueue b b') : QueueInv b' log where
  wf := hb.halTimerQ ▸ h.wf
  sorted := hb.expiries ▸ h.sorted
  callback := by
    rw [hb.halTimerQ, hb.timers]
    exact h.callback
  started := by
    rw [hb.halTimerQ, hb.expiry]
    exact h.started
  floor := hb.expiries ▸ h.floor
  justified := h.justified

/-- A justified observation that is about no timer. -/
theorem observe (h : QueueInv b log) {o : Obs} (habout : o.about = none)
    (ho : Justified log o) : QueueInv b (o :: log) where
  wf := h.wf
  sorted := h.sorted
  callback := h.callback
  started := by
    intro t ht
    rw [lastAbout_cons_of_ne (by simp [habout])]
    exact h.started t ht
  floor := by
    cases o with
    | read | chkDone => exact h.floor
    | started | stopped | ran => cases habout
  justified := h.justified.cons ho

theorem read (h : QueueInv b log) (d : List Nat) (r : Read) :
    QueueInv (halTimerReadBsptimer d b).2 (.read r :: log) :=
  (h.observe (o := .read r) rfl trivial).same (halTimerReadBsptimer_sameQueue d b)

/-! ### Starts -/

/-- The expiry of a timer that is not queued. -/
theorem storeExpiry (h : QueueInv b log) {t : Nat} (ht : t ∉ b.halTimerQ.chain) (tick : UInt32) :
    QueueInv (storeExpiry b t tick) log where
  wf := h.wf
  sorted := expiries_storeExpiry ht tick ▸ h.sorted
  callback := by
    intro x hx
    rw [cb_storeExpiry]
    exact h.callback x hx
  started := by
    intro x hx
    rw [expiry_storeExpiry_of_ne (ne_of_mem_of_not_mem hx ht)]
    exact h.started x hx
  floor := expiries_storeExpiry ht tick ▸ h.floor
  justified := h.justified

/-- The timer that is put into its place has a callback, as the others have. -/
theorem callback_inserted {l r : List Nat} {t : Nat} (hplace : Place b (b.expiry t) l r)
    (hcb : (b.timers t).cb ≠ none) (h : ∀ x ∈ b.halTimerQ.chain, (b.timers x).cb ≠ none) :
    ∀ x ∈ (b.inserted l r t).halTimerQ.chain, ((b.inserted l r t).timers x).cb ≠ none := by
  intro x hx
  rcases eq_or_ne x t with rfl | hne
  · exact hcb
  · refine h x ?_
    rw [← hplace.chain]
    simpa [Bsp.inserted, hne] using hx

/-- A timer is put into its place. -/
theorem insert (h : QueueInv b log) {l r : List Nat} {t : Nat}
    (hplace : Place b (b.expiry t) l r) (ht : t ∉ b.halTimerQ.chain)
    (hcb : (b.timers t).cb ≠ none) (hwindow : InWindow (b.inserted l r t).expiries) :
    QueueInv (b.inserted l r t) (.started t (b.expiry t) :: log) := by
  have hmem : ∀ x, x ∈ l ++ t :: r → x ≠ t → x ∈ b.halTimerQ.chain := by
    intro x hx hne
    rw [← hplace.chain]
    simpa [hne] using hx
  rw [expiries_inserted] at hwindow
  refine
    { wf := h.wf.insert hplace.chain ht
      sorted := ?_
      callback := callback_inserted hplace hcb h.callback
      started := fun x hx => ?_
      floor := fun expiry hexpiry earlier hearlier => by cases hearlier
      justified := h.justified.cons trivial }
  · rw [expiries_inserted]
    exact hplace.sorted h.sorted hwindow
  · have hexpiry : (b.inserted l r t).expiry x = b.expiry x := rfl
    rw [hexpiry]
    rcases eq_or_ne x t with rfl | hne
    · rw [lastAbout_cons_self rfl]
    · rw [lastAbout_cons_of_ne (by simp [Obs.about, hne.symm])]
      exact h.started x (hmem x hx hne)

/-! ### Removals -/

theorem mem_without {t x : Nat} (h : b.halTimerQ.WF) (hx : x ∈ (b.without t).halTimerQ.chain) :
    x ≠ t ∧ x ∈ b.halTimerQ.chain :=
  h.nodup.mem_erase_iff.mp hx

theorem expiries_without_sublist (t : Nat) : (b.without t).expiries.Sublist b.expiries :=
  List.erase_sublist.map _

/-- A timer is taken out, and the observation about it is no start. -/
theorem without (h : QueueInv b log) {t : Nat} {o : Obs} (habout : o.about = some t)
    (hfloor : ∀ e ∈ (b.without t).expiries, ∀ earlier ∈ ranSinceStart (o :: log),
      ¬ Before e earlier)
    (ho : Justified log o) : QueueInv (b.without t) (o :: log) where
  wf := h.wf.erase t
  sorted := h.sorted.sublist (expiries_without_sublist t)
  callback := fun x hx => h.callback x (mem_without h.wf hx).2
  started := by
    intro x hx
    obtain ⟨hne, hold⟩ := mem_without h.wf hx
    rw [lastAbout_cons_of_ne (by simp [habout, hne.symm])]
    exact h.started x hold
  floor := hfloor
  justified := h.justified.cons ho

theorem stop (h : QueueInv b log) (t : Nat) : QueueInv (b.without t) (.stopped t :: log) :=
  h.without rfl
    (fun e he earlier hearlier =>
      h.floor e ((expiries_without_sublist t).subset he) earlier hearlier)
    trivial

/-- The head is taken out for its callback: it is started, expired, and no timer whose callback
came since the last start expires after it. -/
theorem call (h : QueueInv b log) {t cb : Nat} {tcntr : UInt32}
    (hfirst : b.halTimerQ.first = some t) (hexpired : ¬ Before tcntr (b.expiry t)) :
    QueueInv (b.without t) (.ran t cb tcntr (b.expiry t) :: log) := by
  obtain ⟨l, hl⟩ := first_eq_some_iff.mp hfirst
  have ht : t ∈ b.halTimerQ.chain := by simp [hl]
  have hsorted := h.sorted
  rw [Bsp.expiries, hl, List.map_cons] at hsorted
  have hrest : (b.without t).expiries = l.map b.expiry := by
    rw [Bsp.expiries, Bsp.without, hl, List.erase_cons_head]
    rfl
  refine h.without rfl (fun e he earlier hearlier => ?_) ⟨h.started t ht, hexpired, fun earlier
    hearlier => h.floor _ (List.mem_map_of_mem ht) earlier hearlier⟩
  rcases List.mem_cons.mp hearlier with rfl | hold
  · rw [hrest] at he
    exact (List.pairwise_cons.mp hsorted).1 e he
  · exact h.floor e ((expiries_without_sublist t).subset he) earlier hold

/-- Where the head is not expired, nothing is. -/
theorem later (h : QueueInv b log) {t : Nat} {tcntr : UInt32}
    (hfirst : b.halTimerQ.first = some t) (hlater : Before tcntr (b.expiry t))
    (hwindow : InWindow (tcntr :: b.expiries)) : ∀ e ∈ b.expiries, Before tcntr e := by
  obtain ⟨l, hl⟩ := first_eq_some_iff.mp hfirst
  have hsorted := h.sorted
  rw [Bsp.expiries, hl, List.map_cons] at hsorted hwindow ⊢
  intro e he
  rcases List.mem_cons.mp he with rfl | hrest
  · exact hlater
  · exact hwindow.before_of_not_before (b := b.expiry t) (by simp) (by simp)
      (List.mem_cons_of_mem _ he) hlater ((List.pairwise_cons.mp hsorted).1 e hrest)

/-- The callback of a timer that is not queued is set. -/
theorem storeFunc (h : QueueInv b log) {t : Nat} (ht : t ∉ b.halTimerQ.chain)
    (cb : Option Nat) : QueueInv (storeFunc b t cb) log where
  wf := h.wf
  sorted := expiries_storeFunc ht cb ▸ h.sorted
  callback := by
    intro x hx
    rw [timers_storeFunc ht cb x hx]
    exact h.callback x hx
  started := by
    intro x hx
    rw [Bsp.expiry, timers_storeFunc ht cb x hx]
    exact h.started x hx
  floor := expiries_storeFunc ht cb ▸ h.floor
  justified := h.justified

theorem clearLink (h : QueueInv b log) {t : Nat} (ht : t ∉ b.halTimerQ.chain) :
    QueueInv (clearLink b t) log := by
  rw [clearLink_unqueued h.wf ht]
  exact h

theorem setCb (h : QueueInv b log) {t : Nat} (ht : t ∉ b.halTimerQ.chain) (cb : Option Nat) :
    QueueInv (halTimerSetCb b t cb) log :=
  (h.storeFunc ht cb).clearLink ht

end QueueInv

/-! ## The system -/

/-- The numbers compared lie in a window: the queued expiries behind a start, and the clock with
them in a turn of `hal_timer_chk_queue`. -/
def Windowed (s : System) : Event → Prop
  | .startAt t tick d => ∀ s' ∈ s.startAt t tick d, InWindow s'.bsp.expiries
  | .start t ticks dRead d => ∀ s' ∈ s.start t ticks dRead d, InWindow s'.bsp.expiries
  | .startEnter i d => ∀ s' ∈ s.startEnter i d, InWindow s'.bsp.expiries
  | .chk d => InWindow ((halTimerReadBsptimer d s.bsp).1 :: s.bsp.expiries)
  | _ => True

instance (s : System) (e : Event) : Decidable (Windowed s e) :=
  match e with
  | .startAt _ _ _ | .start _ _ _ _ | .startEnter _ _ => Option.decidableForallMem _
  | .chk _ => inferInstanceAs (Decidable (InWindow _))
  | .elapse _ | .latch | .read _ | .startTest _ _ | .startStore _ | .stop _ _ | .setCb _ _
  | .storeFunc _ _ | .clearLink _ | .irq | .handler | .cbReturn => instDecidableTrue

/-- `hal_timer_set_cb` works on timers that are not queued. -/
def SetsUnqueued (s : System) : Event → Prop
  | .setCb t _ | .storeFunc t _ | .clearLink t => t ∉ s.bsp.halTimerQ.chain
  | _ => True

instance (s : System) (e : Event) : Decidable (SetsUnqueued s e) :=
  match e with
  | .setCb _ _ | .storeFunc _ _ | .clearLink _ => instDecidableNot
  | .elapse _ | .latch | .read _ | .startAt _ _ _ | .start _ _ _ _ | .startTest _ _
  | .startStore _ | .startEnter _ _ | .stop _ _ | .irq | .handler | .chk _ | .cbReturn =>
      instDecidableTrue

/-- A timer that a start puts into the queue has the callback that its test has found. -/
def StartsCallable (s : System) : Event → Prop
  | .startEnter i _ => ∀ p ∈ s.starts[i]?, (s.bsp.timers p.t).cb ≠ none
  | _ => True

instance (s : System) (e : Event) : Decidable (StartsCallable s e) :=
  match e with
  | .startEnter _ _ => Option.decidableForallMem _
  | .elapse _ | .latch | .read _ | .startAt _ _ _ | .start _ _ _ _ | .startTest _ _
  | .startStore _ | .stop _ _ | .setCb _ _ | .storeFunc _ _ | .clearLink _ | .irq | .handler
  | .chk _ | .cbReturn => instDecidableTrue

/-- The invariant of a state. -/
def System.QueueInv (s : System) : Prop := HalTimer.QueueInv s.bsp s.log

theorem startAt_queueInv {s s' : System} (h : s.QueueInv) {t : Nat} {tick : UInt32}
    {d : List Nat} (hstart : s.startAt t tick d = some s') (hwindow : InWindow s'.bsp.expiries) :
    s'.QueueInv := by
  obtain ⟨rc, b, hstep, rfl⟩ := System.startAt_step h.wf hstart
  cases hstep with
  | rejected => exact h
  | queued ht hcb hplace hsame =>
      have hset := QueueInv.storeExpiry h ht tick
      rw [hsame.expiries] at hwindow
      have hinsert := hset.insert hplace ht (by rwa [cb_storeExpiry]) hwindow
      rw [expiry_storeExpiry_self] at hinsert
      exact hinsert.same hsame

theorem startSection_queueInv {b b' : Bsp} {log : List Obs} (h : QueueInv b log) {t : Nat}
    {d : List Nat} (hsection : startSection d b t = some b') (ht : t ∉ b.halTimerQ.chain)
    (hcb : (b.timers t).cb ≠ none) (hwindow : InWindow b'.expiries) :
    QueueInv b' (.started t (b.expiry t) :: log) := by
  obtain ⟨l, r, b₁, hb, hplace, hsame⟩ := startSection_spec h.wf d ht
  obtain rfl := Option.some.inj (hsection.symm.trans hb)
  rw [hsame.expiries] at hwindow
  exact (h.insert hplace ht hcb hwindow).same hsame

theorem read_queueInv {s : System} (h : s.QueueInv) (d : List Nat) : (s.read d).QueueInv :=
  QueueInv.read h d _

theorem handler_queueInv {s s' : System} (h : s.QueueInv)
    (hstep : halTimerIrqHandler s = some s') : s'.QueueInv := by
  have hframe := halTimerIrqHandler_frame hstep
  rw [System.QueueInv, hframe.log]
  exact h.same hframe.same

theorem turn_queueInv {s s' : System} (h : s.QueueInv) {d : List Nat}
    (hwindow : InWindow ((halTimerReadBsptimer d s.bsp).1 :: s.bsp.expiries))
    (hturn : s.turn d = some s') : s'.QueueInv := by
  have hread := halTimerReadBsptimer_sameQueue d s.bsp
  have hinv := read_queueInv h d
  cases System.turn_cases hturn with
  | empty hfirst =>
      have hsame := rearm_sameQueue d s.bsp none
      refine (h.observe (o := .chkDone none _) rfl fun e he => ?_).same hsame
      rw [hsame.expiries, Bsp.expiries, List.head?_eq_none_iff.mp hfirst] at he
      cases he
  | @call t cb b hfirst hcb hexpired hunlink =>
      have hfirst' : (s.read d).bsp.halTimerQ.first = some t := hread.halTimerQ ▸ hfirst
      obtain ⟨l, hl⟩ := first_eq_some_iff.mp hfirst'
      have hb : (s.read d).bsp.without t = b := by
        have hunlink' : unlinkTimer (s.read d).bsp t = some b := hunlink
        rwa [unlinkTimer_eq hinv.wf (by simp [hl]), Option.some.injEq] at hunlink'
      have hexpiry : (s.read d).bsp.expiry = s.bsp.expiry := hread.expiry
      rw [← hexpiry] at hexpired ⊢
      rw [← hb]
      exact hinv.call hfirst' hexpired
  | @later t b hfirst hlater hb =>
      have hsame : SameQueue (s.read d).bsp b := hb ▸ rearm_sameQueue _ _ _
      refine (hinv.observe (o := .chkDone (some _) _) rfl fun e he => ⟨_, rfl, ?_⟩).same hsame
      rw [hsame.expiries, show (s.read d).bsp.expiries = s.bsp.expiries from hread.expiries] at he
      exact h.later hfirst hlater hwindow e he

/-- One event keeps the invariant. -/
theorem step_queueInv (s : System) (e : Event) (s' : System) (h : s.QueueInv)
    (hcond : Windowed s e ∧ SetsUnqueued s e ∧ StartsApart s e ∧ StartsCallable s e)
    (hstep : step s e = some s') : s'.QueueInv := by
  obtain ⟨hwindow, hset, hapart, hcallable⟩ := hcond
  have hstep' := hstep
  cases step_cases hstep with
  | elapse | latch | irq => exact h.same ⟨rfl, rfl⟩
  | read d => exact read_queueInv h d
  | startAt hstart => exact startAt_queueInv h hstart (hwindow s' hstart)
  | @start _ _ dRead _ _ hstart =>
      exact startAt_queueInv (read_queueInv h dRead) hstart (hwindow s' hstart)
  | startRefused | startTest => exact h
  | @startStore i p hp => exact QueueInv.storeExpiry h (hapart p hp) p.tick
  | @startEnter i d p b hp _ hsection =>
      exact startSection_queueInv h hsection (hapart p hp) (hcallable p hp) (hwindow _ hstep')
  | @stop t d b hstop =>
      obtain ⟨b', hb, hsame⟩ := halTimerStop_spec h.wf d t
      obtain rfl := Option.some.inj (hstop.symm.trans hb)
      exact (QueueInv.stop h t).same hsame
  | setCb t cb => exact QueueInv.setCb h hset cb
  | storeFunc t cb => exact QueueInv.storeFunc h hset cb
  | clearLink t => exact QueueInv.clearLink h hset
  | handler hhandler => exact handler_queueInv h hhandler
  | chk _ hturn => exact turn_queueInv h hwindow hturn
  | cbReturn => exact h

/-- The handler up to `hal_timer_chk_queue`, where CC0 has matched. -/
def chkEntry : List Event := [.irq, .handler, .handler, .handler, .handler]

/-- Two timers, of which the callback of the first starts it again, and a third one whose start
is interrupted by all that. -/
def callbackRun : List Event :=
  [.startAt 0 100 [], .startTest 2 500, .startAt 1 50 [], .elapse 60] ++ chkEntry ++
    [.chk [], .startAt 1 200 [], .cbReturn, .chk [], .startStore 0, .elapse 60] ++ chkEntry ++
    [.chk [], .stop 1 [], .cbReturn, .chk [], .startEnter 0 []]

/-- A callback is set for a queued timer, which is then stopped. -/
def setQueuedRun : List Event :=
  [.startAt 0 10 [], .startAt 1 20 [], .setCb 1 (some 1), .stop 1 [], .elapse 30] ++ chkEntry ++
    [.chk [], .cbReturn, .chk []]

/-- The callback of timer 1 starts timers 0 and 2 between the test and the store of another start
of timer 0. -/
def interruptedHeadRun : List Event :=
  [.startAt 1 10 [], .elapse 20, .startTest 0 300] ++ chkEntry ++
    [.chk [], .startAt 0 100 [], .startAt 2 150 [], .cbReturn, .chk [], .startStore 0,
      .elapse 180] ++ chkEntry ++ [.chk []]

/-- The head has the expiry of the interrupted start, and behind `hal_timer_chk_queue` timer 2 is
queued and expired. -/
theorem expired_left_interruptedHeadRun :
    ∃ s, run step (System.init some) interruptedHeadRun = some s ∧
      Along step (fun s e => Windowed s e ∧ SetsUnqueued s e) (System.init some)
        interruptedHeadRun ∧
      ∃ earlier, s.log = .chkDone (some 200) [300, 150] :: earlier ∧
        ¬ Justified earlier (.chkDone (some 200) [300, 150]) := by
  refine ⟨_, rfl, by decide +kernel, _, rfl, fun h => ?_⟩
  obtain ⟨c, hc, hbefore⟩ := h 150 (by decide)
  cases hc
  revert hbefore
  decide

end HalTimer
