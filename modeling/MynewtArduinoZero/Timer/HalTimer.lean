import MynewtArduinoZero.Lib.Serial
import MynewtArduinoZero.Lib.TailQueue
import MynewtArduinoZero.Timer.Tc

/-!
# HAL timers

`hal_timer.c`, the calls and the pieces of the interrupt handler.  A timer block
extends its 16-bit counter to 32 bits by `tmr_cntr`, which counts the overflows,
and keeps its timers in a queue ordered by expiry; the head of the queue is what
CC0 is set for.

The counter moves between any two register accesses.  A function therefore takes
a list of delays, one for each of its accesses: the ticks that pass before it.
Missing delays are zero.  What a function does in a critical section is one step;
the handler before `hal_timer_chk_queue` is not, and is cut into its accesses in
`Timer/System.lean`.

`hal_timer_start_at` tests its timer and stores the expiry before its critical
section, and an interrupt between them may start the same timer.  The three are
definitions of their own, as are the stores of `hal_timer_set_cb`, which has no
critical section; the calls with nothing in between are made from them.
-/

namespace HalTimer

open Serial

/-- `EINVAL`. -/
def einval : Int := 22

/-- `struct hal_timer`, without its link. -/
structure Timer where
  /-- `cb_func` with its `cb_arg`, or `none` where it is NULL. -/
  cb : Option Nat
  expiry : UInt32
deriving DecidableEq

/-- `struct samd21_hal_timer`, with its counter and the timers of the program. -/
structure Bsp where
  tmrCntr : UInt32
  timerIsrs : UInt32
  halTimerQ : TailQueue Nat
  timers : Nat → Timer
  tc : Tc

namespace Bsp

/-- A configured timer block; the timers have their callbacks. -/
def init (cb : Nat → Option Nat) : Bsp where
  tmrCntr := 0
  timerIsrs := 0
  halTimerQ := { chain := [], prev := fun _ => false }
  timers := fun t => { cb := cb t, expiry := 0 }
  tc := Tc.init

variable (b : Bsp)

/-- The expiry of a timer. -/
def expiry (t : Nat) : UInt32 := (b.timers t).expiry

/-- The expiries of the queue, in its order. -/
def expiries : List UInt32 := b.halTimerQ.chain.map b.expiry

/-- The timers with one of them changed. -/
def setTimer (t : Nat) (timer : Timer) : Bsp :=
  { b with timers := fun x => if x = t then timer else b.timers x }

end Bsp

/-- The delay before the access number `i`. -/
def delay (d : List Nat) (i : Nat) : Nat := d.getD i 0

/-- `expiry & 0xffff0000`. -/
def epochOf (expiry : UInt32) : UInt32 := expiry &&& 0xffff0000

/-- `(uint16_t) expiry`. -/
def expiry16 (expiry : UInt32) : Nat := expiry.toNat % period

/-! ## Arming -/

/-- `samd21_timer_set_ocmp`. -/
def samd21TimerSetOcmp (d : List Nat) (b : Bsp) (expiry : UInt32) : Bsp :=
  let tc := (b.tc.elapse (delay d 0)).intenclrMc0
  let deltaT := int32 (epochOf expiry - b.tmrCntr)
  if deltaT < 0 then
    { b with tc := (tc.elapse (delay d 1)).setPendingIrq }
  else if deltaT = 0 then
    let tc := (tc.elapse (delay d 1)).setCompareValue (expiry16 expiry)
    let tc := (tc.elapse (delay d 2)).clearMc0
    let tc := (tc.elapse (delay d 3)).intensetMc0
    let tc := tc.elapse (delay d 4)
    if tc.count ≥ expiry16 expiry then
      { b with tc := (tc.elapse (delay d 5)).setPendingIrq }
    else { b with tc := tc }
  else { b with tc := tc }

/-- `samd21_timer_disable_ocmp`. -/
def samd21TimerDisableOcmp (d : List Nat) (b : Bsp) : Bsp :=
  { b with tc := (b.tc.elapse (delay d 0)).intenclrMc0 }

/-! ## Reading -/

/-- `hal_timer_read_bsptimer`: the value and the block behind it. -/
def halTimerReadBsptimer (d : List Nat) (b : Bsp) : UInt32 × Bsp :=
  let tcntr := b.tmrCntr
  let tc := b.tc.elapse (delay d 0)
  let low := tc.count
  let tc := tc.elapse (delay d 1)
  if tc.ovf then
    let tcntr := tcntr + 65536
    let tc := tc.elapse (delay d 2)
    let low := tc.count
    let tc := (tc.elapse (delay d 3)).clearOvf
    let tc := (tc.elapse (delay d 4)).setPendingIrq
    (tcntr ||| .ofNat low, { b with tmrCntr := tcntr, tc := tc })
  else (tcntr ||| .ofNat low, { b with tc := tc })

/-! ## The calls -/

/-- The insertion of `hal_timer_start_at`.  An element that is in the chain already would
close it to a ring. -/
def insertTimer (b : Bsp) (t : Nat) : Option (TailQueue Nat) :=
  let q := b.halTimerQ
  if t ∈ q.chain then none
  else if q.chain = [] then some (q.insertHead t)
  else
    match q.chain.find? fun entry => Before (b.expiry t) (b.expiry entry) with
    | some entry => q.insertBefore entry t
    | none => some (q.insertTail t)

/-- The test at the front of `hal_timer_start_at`. -/
def StartRefused (b : Bsp) (t : Nat) : Prop := b.halTimerQ.prev t ∨ (b.timers t).cb = none

instance (b : Bsp) (t : Nat) : Decidable (StartRefused b t) := inferInstanceAs (Decidable (_ ∨ _))

/-- The store of `hal_timer_start_at` before its critical section. -/
def storeExpiry (b : Bsp) (t : Nat) (tick : UInt32) : Bsp :=
  b.setTimer t { b.timers t with expiry := tick }

/-- The critical section of `hal_timer_start_at`.  `none` is a store through NULL or a chain that
is no list any more. -/
def startSection (d : List Nat) (b : Bsp) (t : Nat) : Option Bsp :=
  (insertTimer b t).map fun q =>
    let b := { b with halTimerQ := q }
    if q.first = some t then samd21TimerSetOcmp d b (b.expiry t) else b

/-- `hal_timer_start_at` with nothing in between: the return code and the block. -/
def halTimerStartAt (d : List Nat) (b : Bsp) (t : Nat) (tick : UInt32) : Option (Int × Bsp) :=
  if StartRefused b t then some (einval, b)
  else (startSection d (storeExpiry b t tick) t).map fun b => (0, b)

/-- The end of `hal_timer_stop` and of `hal_timer_chk_queue`: CC0 is set for a timer, or not
used. -/
def rearm (d : List Nat) (b : Bsp) (timer : Option Nat) : Bsp :=
  match timer with
  | some t => samd21TimerSetOcmp d b (b.expiry t)
  | none => samd21TimerDisableOcmp d b

/-- `TAILQ_REMOVE` and `tqe_prev = NULL`. -/
def unlinkTimer (b : Bsp) (t : Nat) : Option Bsp :=
  (b.halTimerQ.remove t).map fun q =>
    { b with halTimerQ := { q with prev := TailQueue.setPrev q.prev t false } }

/-- `hal_timer_stop`, which returns 0. -/
def halTimerStop (d : List Nat) (b : Bsp) (t : Nat) : Option Bsp :=
  if b.halTimerQ.prev t then
    (unlinkTimer b t).map fun b' =>
      if b.halTimerQ.first = some t then
        rearm d b' (TailQueue.nextOf t b.halTimerQ.chain)
      else b'
  else some b

/-- The stores of `hal_timer_set_cb` to `cb_func` and `cb_arg`, taken together. -/
def storeFunc (b : Bsp) (t : Nat) (cb : Option Nat) : Bsp :=
  b.setTimer t { b.timers t with cb := cb }

/-- Its store of NULL to `link.tqe_prev`. -/
def clearLink (b : Bsp) (t : Nat) : Bsp :=
  { b with halTimerQ := { b.halTimerQ with prev := TailQueue.setPrev b.halTimerQ.prev t false } }

/-- `hal_timer_set_cb` with nothing in between. -/
def halTimerSetCb (b : Bsp) (t : Nat) (cb : Option Nat) : Bsp := clearLink (storeFunc b t cb) t

/-- What one turn of the loop of `hal_timer_chk_queue` comes to. -/
inductive Turn where
  /-- The timer is unlinked and its callback called. -/
  | call (t : Nat) (cb : Nat) (tcntr expiry : UInt32) (b : Bsp)
  /-- The loop ends; `tcntr` is the clock read in this turn. -/
  | done (tcntr : Option UInt32) (b : Bsp)

/-- One turn of the loop of `hal_timer_chk_queue`, and what follows the loop.  `none` is a
store or a call through NULL. -/
def halTimerChkQueueTurn (d : List Nat) (b : Bsp) : Option Turn :=
  match b.halTimerQ.first with
  | none => some (.done none (rearm d b none))
  | some t =>
      let tcntr := (halTimerReadBsptimer d b).1
      let b := (halTimerReadBsptimer d b).2
      if int32 (tcntr - b.expiry t) ≥ 0 then
        (unlinkTimer b t).bind fun b' =>
          (b.timers t).cb.map fun cb => .call t cb tcntr (b.expiry t) b'
      else some (.done (some tcntr) (rearm (d.drop 5) b b.halTimerQ.first))

/-! ## What the functions leave alone -/

/-- The queue and the timers are the same. -/
structure SameQueue (b b' : Bsp) : Prop where
  halTimerQ : b'.halTimerQ = b.halTimerQ
  timers : b'.timers = b.timers

theorem SameQueue.refl (b : Bsp) : SameQueue b b := ⟨rfl, rfl⟩

theorem SameQueue.trans {b b' b'' : Bsp} (h : SameQueue b b') (h' : SameQueue b' b'') :
    SameQueue b b'' :=
  ⟨h'.halTimerQ.trans h.halTimerQ, h'.timers.trans h.timers⟩

theorem SameQueue.expiry {b b' : Bsp} (h : SameQueue b b') : b'.expiry = b.expiry := by
  funext t
  rw [Bsp.expiry, h.timers, Bsp.expiry]

theorem SameQueue.expiries {b b' : Bsp} (h : SameQueue b b') : b'.expiries = b.expiries := by
  rw [Bsp.expiries, h.halTimerQ, h.expiry, Bsp.expiries]

theorem samd21TimerSetOcmp_sameQueue (d : List Nat) (b : Bsp) (expiry : UInt32) :
    SameQueue b (samd21TimerSetOcmp d b expiry) := by
  unfold samd21TimerSetOcmp
  dsimp only
  split
  · exact ⟨rfl, rfl⟩
  · split
    · split <;> exact ⟨rfl, rfl⟩
    · exact ⟨rfl, rfl⟩

theorem rearm_sameQueue (d : List Nat) (b : Bsp) (timer : Option Nat) :
    SameQueue b (rearm d b timer) := by
  cases timer with
  | none => exact ⟨rfl, rfl⟩
  | some t => exact samd21TimerSetOcmp_sameQueue d b _

theorem halTimerReadBsptimer_sameQueue (d : List Nat) (b : Bsp) :
    SameQueue b (halTimerReadBsptimer d b).2 := by
  cases hovf : ((b.tc.elapse (delay d 0)).elapse (delay d 1)).ovf with
  | false =>
      simp only [halTimerReadBsptimer, hovf, Bool.false_eq_true, if_false]
      exact ⟨rfl, rfl⟩
  | true =>
      simp only [halTimerReadBsptimer, hovf, if_true]
      exact ⟨rfl, rfl⟩

end HalTimer
