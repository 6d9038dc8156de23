import MynewtArduinoZero.Timer.System

/-!
# The queue of timers

What the calls do to a queue whose links are right (`TailQueue.WF`).  None of
them stores through NULL there: a start puts the timer behind those it does not
expire before, a stop takes it out, and a turn of `hal_timer_chk_queue` takes out
the head.
-/

namespace HalTimer

open Serial TailQueue

variable {b : Bsp}

theorem first_eq_some_iff {q : TailQueue Nat} {t : Nat} :
    q.first = some t ↔ ∃ l, q.chain = t :: l := by
  rw [first, List.head?_eq_some_iff]

/-! ## Insertion -/

/-- A place in the chain for a timer that expires at `tick`: behind timers it does not come
before, ahead of one it comes before. -/
structure Place (b : Bsp) (tick : UInt32) (l r : List Nat) : Prop where
  chain : l ++ r = b.halTimerQ.chain
  behind : ∀ x ∈ l, ¬ Before tick (b.expiry x)
  ahead : ∀ y, r.head? = some y → Before tick (b.expiry y)

theorem place_end {tick : UInt32}
    (h : ∀ x ∈ b.halTimerQ.chain, ¬ Before tick (b.expiry x)) :
    Place b tick b.halTimerQ.chain [] where
  chain := List.append_nil _
  behind := h
  ahead := fun y hy => by cases hy

theorem place_find {tick : UInt32} :
    Place b tick (b.halTimerQ.chain.takeWhile fun c => !decide (Before tick (b.expiry c)))
      (b.halTimerQ.chain.dropWhile fun c => !decide (Before tick (b.expiry c))) where
  chain := List.takeWhile_append_dropWhile
  behind := by
    intro x hx
    simpa using List.all_eq_true.mp List.all_takeWhile x hx
  ahead := by
    intro y hy
    have h := List.head?_dropWhile_not (fun c => !decide (Before tick (b.expiry c)))
      b.halTimerQ.chain
    rw [hy] at h
    simpa using h

/-- The insertion finds a place. -/
theorem insertTimer_place (h : b.halTimerQ.WF) {t : Nat} (ht : t ∉ b.halTimerQ.chain) :
    ∃ l r, Place b (b.expiry t) l r ∧
      insertTimer b t = some ⟨l ++ t :: r, setPrev b.halTimerQ.prev t true⟩ := by
  unfold insertTimer
  dsimp only
  rw [if_neg ht]
  by_cases hempty : b.halTimerQ.chain = []
  · refine ⟨b.halTimerQ.chain, [], place_end fun x hx => ?_, ?_⟩
    · rw [hempty] at hx
      cases hx
    · rw [if_pos hempty, insertHead, hempty]
      rfl
  · rw [if_neg hempty]
    cases hfind : b.halTimerQ.chain.find? fun entry => Before (b.expiry t) (b.expiry entry) with
    | none =>
        refine ⟨b.halTimerQ.chain, [], place_end fun x hx => ?_, rfl⟩
        simpa using List.find?_eq_none.mp hfind x hx
    | some entry =>
        have hentry := List.mem_of_find?_eq_some hfind
        have hne : entry ≠ t := ne_of_mem_of_not_mem hentry ht
        have hprev : setPrev b.halTimerQ.prev t true entry = true := by
          rw [setPrev_of_ne _ hne]
          exact (h.prev_iff entry).mpr hentry
        refine ⟨_, _, place_find, ?_⟩
        dsimp only
        rw [insertBefore, if_pos ((h.prev_iff entry).mpr hentry), setPrev_eq_self hprev,
          putBefore_find hfind]

/-- The expiry in its place among those that are queued. -/
theorem Place.sorted {l r : List Nat} {tick : UInt32} (hplace : Place b tick l r)
    (h : Sorted b.expiries) (hwindow : InWindow (l.map b.expiry ++ tick :: r.map b.expiry)) :
    Sorted (l.map b.expiry ++ tick :: r.map b.expiry) := by
  rw [Bsp.expiries, ← hplace.chain, List.map_append] at h
  refine h.insert hwindow ?_ ?_
  · intro e he
    obtain ⟨x, hx, rfl⟩ := List.mem_map.mp he
    exact hplace.behind x hx
  · intro e he
    obtain ⟨y, hy, rfl⟩ := Option.map_eq_some_iff.mp (List.head?_map ▸ he)
    exact hplace.ahead y hy

/-- What stands behind the place expires later. -/
theorem Place.later {l r : List Nat} {tick : UInt32} (hplace : Place b tick l r)
    (h : Sorted b.expiries) (hwindow : InWindow (l.map b.expiry ++ tick :: r.map b.expiry)) :
    ∀ y ∈ r, Before tick (b.expiry y) := by
  rw [Bsp.expiries, ← hplace.chain, List.map_append] at h
  have hr : Sorted (r.map b.expiry) := (List.pairwise_append.mp h).2.1
  intro y hy
  refine hr.before_of_head (hwindow.subset fun e he => List.mem_append_right _ he) ?_ _
    (List.mem_map_of_mem hy)
  intro e he
  obtain ⟨y, hy, rfl⟩ := Option.map_eq_some_iff.mp (List.head?_map ▸ he)
  exact hplace.ahead y hy

/-! ## Starts -/

theorem expiry_storeExpiry_self (t : Nat) (tick : UInt32) :
    (storeExpiry b t tick).expiry t = tick :=
  congrArg Timer.expiry (if_pos rfl)

theorem expiry_storeExpiry_of_ne {t x : Nat} (h : x ≠ t) (tick : UInt32) :
    (storeExpiry b t tick).expiry x = b.expiry x :=
  congrArg Timer.expiry (if_neg h)

theorem cb_storeExpiry (t x : Nat) (tick : UInt32) :
    ((storeExpiry b t tick).timers x).cb = (b.timers x).cb := by
  rw [storeExpiry, Bsp.setTimer]
  dsimp only
  split
  · rename_i hx
    rw [hx]
  · rfl

/-- The expiry of a timer that is not queued. -/
theorem expiries_storeExpiry {t : Nat} (ht : t ∉ b.halTimerQ.chain) (tick : UInt32) :
    (storeExpiry b t tick).expiries = b.expiries :=
  List.map_congr_left fun _ hx => expiry_storeExpiry_of_ne (ne_of_mem_of_not_mem hx ht) tick

/-- A timer put between two parts of the chain. -/
def Bsp.inserted (b : Bsp) (l r : List Nat) (t : Nat) : Bsp :=
  { b with halTimerQ := ⟨l ++ t :: r, setPrev b.halTimerQ.prev t true⟩ }

theorem expiries_inserted (l r : List Nat) (t : Nat) :
    (b.inserted l r t).expiries = l.map b.expiry ++ b.expiry t :: r.map b.expiry := by
  rw [Bsp.expiries, Bsp.inserted, List.map_append, List.map_cons]
  rfl

/-- The critical section of a start puts a timer that is not queued into its place. -/
theorem startSection_spec (h : b.halTimerQ.WF) (d : List Nat) {t : Nat}
    (ht : t ∉ b.halTimerQ.chain) :
    ∃ l r b', startSection d b t = some b' ∧ Place b (b.expiry t) l r ∧
      SameQueue (b.inserted l r t) b' := by
  obtain ⟨l, r, hplace, hinsert⟩ := insertTimer_place h ht
  unfold startSection
  rw [hinsert, Option.map_some]
  refine ⟨l, r, _, rfl, hplace, ?_⟩
  split
  · exact samd21TimerSetOcmp_sameQueue d _ _
  · exact .refl _

/-- What a start with nothing in between can do. -/
inductive StartStep (b : Bsp) (t : Nat) (tick : UInt32) : Int → Bsp → Prop where
  | rejected : StartStep b t tick einval b
  /-- The timer is set and put into its place. -/
  | queued {l r : List Nat} {b' : Bsp} : t ∉ b.halTimerQ.chain → (b.timers t).cb ≠ none →
      Place (storeExpiry b t tick) ((storeExpiry b t tick).expiry t) l r →
      SameQueue ((storeExpiry b t tick).inserted l r t) b' →
      StartStep b t tick 0 b'

theorem halTimerStartAt_spec (h : b.halTimerQ.WF) (d : List Nat) (t : Nat) (tick : UInt32) :
    ∃ rc b', halTimerStartAt d b t tick = some (rc, b') ∧ StartStep b t tick rc b' := by
  unfold halTimerStartAt
  by_cases hreject : StartRefused b t
  · rw [if_pos hreject]
    exact ⟨einval, b, rfl, .rejected⟩
  · rw [if_neg hreject]
    obtain ⟨hprev, hcb⟩ := not_or.mp hreject
    have ht : t ∉ b.halTimerQ.chain := fun hmem => hprev ((h.prev_iff t).mpr hmem)
    obtain ⟨l, r, b', hsection, hplace, hsame⟩ :=
      startSection_spec (b := storeExpiry b t tick) h d ht
    rw [hsection, Option.map_some]
    exact ⟨0, b', rfl, .queued ht hcb hplace hsame⟩

/-! ## Stops and turns -/

/-- A queue without one of its timers. -/
def Bsp.without (b : Bsp) (t : Nat) : Bsp :=
  { b with halTimerQ := ⟨b.halTimerQ.chain.erase t, setPrev b.halTimerQ.prev t false⟩ }

theorem unlinkTimer_eq (h : b.halTimerQ.WF) {t : Nat} (ht : t ∈ b.halTimerQ.chain) :
    unlinkTimer b t = some (b.without t) := by
  rw [unlinkTimer, h.remove ht]
  rfl

theorem halTimerStop_spec (h : b.halTimerQ.WF) (d : List Nat) (t : Nat) :
    ∃ b', halTimerStop d b t = some b' ∧ SameQueue (b.without t) b' := by
  unfold halTimerStop
  by_cases hprev : b.halTimerQ.prev t = true
  · rw [if_pos hprev, unlinkTimer_eq h ((h.prev_iff t).mp hprev), Option.map_some]
    split
    · exact ⟨_, rfl, rearm_sameQueue d _ _⟩
    · exact ⟨_, rfl, .refl _⟩
  · rw [if_neg hprev]
    have ht : t ∉ b.halTimerQ.chain := fun hmem => hprev ((h.prev_iff t).mpr hmem)
    refine ⟨b, rfl, ?_, rfl⟩
    rw [Bsp.without, List.erase_of_not_mem ht, setPrev_eq_self (by simpa using hprev)]

/-- Clearing the link of a timer that is not queued changes nothing. -/
theorem clearLink_unqueued (h : b.halTimerQ.WF) {t : Nat} (ht : t ∉ b.halTimerQ.chain) :
    clearLink b t = b := by
  have hprev : b.halTimerQ.prev t = false := by
    simpa using fun hprev => ht ((h.prev_iff t).mp hprev)
  rw [clearLink, setPrev_eq_self hprev]

/-- The timers of the queue are left alone where the callback of another one is set. -/
theorem timers_storeFunc {t : Nat} (ht : t ∉ b.halTimerQ.chain) (cb : Option Nat) :
    ∀ x ∈ b.halTimerQ.chain, (storeFunc b t cb).timers x = b.timers x :=
  fun _ hx => if_neg (ne_of_mem_of_not_mem hx ht)

theorem expiries_storeFunc {t : Nat} (ht : t ∉ b.halTimerQ.chain) (cb : Option Nat) :
    (storeFunc b t cb).expiries = b.expiries :=
  List.map_congr_left fun x hx => congrArg Timer.expiry (timers_storeFunc ht cb x hx)

/-- `hal_timer_start_at` on the system. -/
theorem System.startAt_step {s s' : System} (h : s.bsp.halTimerQ.WF) {t : Nat} {tick : UInt32}
    {d : List Nat} (hstart : s.startAt t tick d = some s') :
    ∃ rc b', StartStep s.bsp t tick rc b' ∧
      s' = { s with bsp := b', log := if rc = 0 then .started t tick :: s.log else s.log } := by
  obtain ⟨rc, b', hb, hstep⟩ := halTimerStartAt_spec h d t tick
  rw [System.startAt, hb, Option.map_some, Option.some.injEq] at hstart
  exact ⟨rc, b', hstep, hstart.symm⟩

/-- No turn is stuck where the queued timers have callbacks. -/
theorem turn_isSome {s : System} (h : s.bsp.halTimerQ.WF)
    (hcb : ∀ t ∈ s.bsp.halTimerQ.chain, (s.bsp.timers t).cb ≠ none) (d : List Nat) :
    (s.turn d).isSome := by
  have hread := halTimerReadBsptimer_sameQueue d s.bsp
  rw [System.turn, Option.isSome_map]
  unfold halTimerChkQueueTurn
  cases hfirst : s.bsp.halTimerQ.first with
  | none => rfl
  | some t =>
      obtain ⟨l, hl⟩ := first_eq_some_iff.mp hfirst
      have ht : t ∈ s.bsp.halTimerQ.chain := by simp [hl]
      dsimp only
      split
      · obtain ⟨cb, hcb⟩ := Option.ne_none_iff_exists'.mp (hcb t ht)
        rw [unlinkTimer_eq (hread.halTimerQ ▸ h) (hread.halTimerQ ▸ ht), Option.bind_some,
          hread.timers, hcb]
        rfl
      · rfl

end HalTimer
