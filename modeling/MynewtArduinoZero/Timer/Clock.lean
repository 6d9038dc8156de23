import MynewtArduinoZero.Timer.System

/-!
# The 32-bit clock

`drift` is the distance of the clock from the true number of ticks: `tmr_cntr`,
the counter and an overflow that is flagged but not yet added, less the ticks
elapsed.  Ticks, starts and stops keep it.  A read keeps it modulo `2 ^ 32`: it
adds the overflow and clears the flag, in one critical section.  The handler
does the same in separate steps, and in between it owes the overflow.

A read between the handler's look at OVF and its store to `tmr_cntr` spoils
that: before the flag is cleared both add the same overflow
(`read_in_handler_adds_twice`), after it the read misses the overflow.  Where no
read comes there, every read returns the true number of ticks
(`reads_apart_true`).
-/

namespace HalTimer

open Run

/-! ## Calls -/

/-- How far the clock is from the true time. -/
def Bsp.drift (b : Bsp) : Int :=
  b.tmrCntr.toNat + period * b.tc.ovf.toNat + b.tc.count - b.tc.elapsed

/-- Ticks pass, and nothing else happens to the clock. -/
structure Coasts (b b' : Bsp) : Prop where
  tmrCntr : b'.tmrCntr = b.tmrCntr
  flows : b.tc.Flows b'.tc

theorem Coasts.refl (b : Bsp) : Coasts b b := ⟨rfl, .refl b.tc⟩

theorem Coasts.trans {b b' b'' : Bsp} (h : Coasts b b') (h' : Coasts b' b'') : Coasts b b'' :=
  ⟨h'.tmrCntr.trans h.tmrCntr, h.flows.trans h'.flows⟩

theorem Coasts.drift {b b' : Bsp} (h : Coasts b b') (hmissed : b'.tc.missed = false) :
    b'.drift = b.drift := by
  have hclock := h.flows.clock hmissed
  rw [Bsp.drift, Bsp.drift, h.tmrCntr]
  omega

theorem samd21TimerSetOcmp_coasts (d : List Nat) (b : Bsp) (expiry : UInt32) :
    Coasts b (samd21TimerSetOcmp d b expiry) := by
  have hflows := ((Tc.Flows.refl b.tc).elapse (delay d 0)).intenclrMc0
  unfold samd21TimerSetOcmp
  dsimp only
  split
  · exact ⟨rfl, (hflows.elapse _).setPendingIrq⟩
  · split
    · have harmed := ((((((hflows.elapse (delay d 1)).setCompareValue (expiry16 expiry)).elapse
        (delay d 2)).clearMc0).elapse (delay d 3)).intensetMc0).elapse (delay d 4)
      split
      · exact ⟨rfl, (harmed.elapse _).setPendingIrq⟩
      · exact ⟨rfl, harmed⟩
    · exact ⟨rfl, hflows⟩

theorem rearm_coasts (d : List Nat) (b : Bsp) (timer : Option Nat) :
    Coasts b (rearm d b timer) := by
  cases timer with
  | none => exact ⟨rfl, ((Tc.Flows.refl b.tc).elapse _).intenclrMc0⟩
  | some t => exact samd21TimerSetOcmp_coasts d b _

theorem storeExpiry_coasts (b : Bsp) (t : Nat) (tick : UInt32) :
    Coasts b (storeExpiry b t tick) := ⟨rfl, .refl b.tc⟩

theorem startSection_coasts {d : List Nat} {b b' : Bsp} {t : Nat}
    (h : startSection d b t = some b') : Coasts b b' := by
  obtain ⟨q, -, rfl⟩ := Option.map_eq_some_iff.mp h
  split
  · obtain ⟨hcntr, hflows⟩ := samd21TimerSetOcmp_coasts d { b with halTimerQ := q } (b.expiry t)
    exact ⟨hcntr, hflows⟩
  · exact ⟨rfl, .refl b.tc⟩

theorem halTimerStartAt_coasts {d : List Nat} {b b' : Bsp} {t : Nat} {tick : UInt32} {rc : Int}
    (h : halTimerStartAt d b t tick = some (rc, b')) : Coasts b b' := by
  unfold halTimerStartAt at h
  split at h
  · cases h
    exact .refl b
  · obtain ⟨b₁, hsection, heq⟩ := Option.map_eq_some_iff.mp h
    cases heq
    exact (storeExpiry_coasts b t tick).trans (startSection_coasts hsection)

theorem unlinkTimer_coasts {b b' : Bsp} {t : Nat} (h : unlinkTimer b t = some b') :
    Coasts b b' := by
  obtain ⟨q, -, rfl⟩ := Option.map_eq_some_iff.mp h
  exact ⟨rfl, .refl b.tc⟩

theorem halTimerStop_coasts {d : List Nat} {b b' : Bsp} {t : Nat}
    (h : halTimerStop d b t = some b') : Coasts b b' := by
  unfold halTimerStop at h
  split at h
  · obtain ⟨u, hu, heq⟩ := Option.map_eq_some_iff.mp h
    split at heq
    · cases heq
      exact (unlinkTimer_coasts hu).trans (rearm_coasts d u _)
    · cases heq
      exact unlinkTimer_coasts hu
  · cases h
    exact .refl b

/-! ## Reads -/

/-- `tmr_cntr` counts whole periods. -/
def Bsp.Aligned (b : Bsp) : Prop := b.tmrCntr.toNat % period = 0

/-- The high part and the low part of the clock do not overlap. -/
theorem or_low_toNat {tcntr : UInt32} {low : Nat} (htcntr : tcntr.toNat % period = 0)
    (hlow : low < period) : (tcntr ||| .ofNat low).toNat = tcntr.toNat + low := by
  have hlow32 : (UInt32.ofNat low).toNat = low :=
    UInt32.toNat_ofNat_of_lt' (Nat.lt_trans hlow (by decide))
  obtain ⟨k, hk⟩ := Nat.dvd_of_mod_eq_zero htcntr
  rw [UInt32.toNat_or, hlow32, hk]
  exact (Nat.two_pow_add_eq_or_of_lt (i := 16) hlow k).symm

/-- What a read does to the clock, and the instant whose time it returns. -/
structure Reads (b : Bsp) (value : UInt32) (b' : Bsp) : Prop where
  elapsed_le : b.tc.elapsed ≤ b'.tc.elapsed
  missed : b'.tc.missed = false → b.tc.missed = false
  aligned : b.Aligned → b'.Aligned
  drift : b'.tc.missed = false → (b'.drift - b.drift) % 2 ^ 32 = 0
  value : b.Aligned → b'.tc.missed = false → ∃ t : Nat, b.tc.elapsed ≤ t ∧ t ≤ b'.tc.elapsed ∧
    (value.toNat - (b.drift + t)) % 2 ^ 32 = 0

/-- The next period. -/
theorem add_period_toNat (tcntr : UInt32) :
    (tcntr + 65536).toNat = (tcntr.toNat + period) % 2 ^ 32 :=
  UInt32.toNat_add tcntr 65536

/-- A read that finds OVF clear: there was no overflow when the counter was read either. -/
theorem reads_of_no_overflow {b : Bsp} {m n : Nat} (hovf : ((b.tc.elapse m).elapse n).ovf = false) :
    Reads b (b.tmrCntr ||| .ofNat (b.tc.elapse m).count)
      { b with tc := (b.tc.elapse m).elapse n } := by
  have hlow := (Tc.Flows.refl b.tc).elapse m
  have hcoasts : Coasts b { b with tc := (b.tc.elapse m).elapse n } := ⟨rfl, hlow.elapse n⟩
  refine
    { elapsed_le := hcoasts.flows.elapsed_le
      missed := hcoasts.flows.missed
      aligned := id
      drift := fun hmissed => by rw [hcoasts.drift hmissed, Int.sub_self]; rfl
      value := fun haligned hmissed => ⟨b.tc.elapsed + m, Nat.le_add_right _ _,
        Nat.le_add_right _ _, ?_⟩ }
  have hclock := hlow.clock (Tc.missed_eq_false_of_elapse hmissed)
  rw [Tc.ovf_eq_false_of_elapse hovf, Bool.toNat_false, Tc.elapse_elapsed] at hclock
  rw [or_low_toNat haligned (b.tc.elapse m).count_lt, Bsp.drift]
  omega

/-- A read that finds OVF set: it adds the overflow, reads the counter again and clears the
flag. -/
theorem reads_of_overflow {b : Bsp} {tc : Tc} (hflows : b.tc.Flows tc) (hovf : tc.ovf = true)
    (l m n : Nat) :
    Reads b ((b.tmrCntr + 65536) ||| .ofNat (tc.elapse l).count)
      { b with
        tmrCntr := b.tmrCntr + 65536
        tc := ((((tc.elapse l).elapse m).clearOvf).elapse n).setPendingIrq } := by
  have hread := hflows.elapse l
  have hclear := hread.elapse m
  have hlast := (Tc.Flows.refl ((tc.elapse l).elapse m).clearOvf).elapse n
  have hcntr := add_period_toNat b.tmrCntr
  have haligned : b.Aligned → (b.tmrCntr + 65536).toNat % period = 0 := by
    intro h
    rw [hcntr]
    unfold Bsp.Aligned period at *
    omega
  refine
    { elapsed_le := Nat.le_trans hclear.elapsed_le hlast.elapsed_le
      missed := fun hmissed => hclear.missed (hlast.missed hmissed)
      aligned := haligned
      drift := fun hmissed => ?_
      value := fun h hmissed => ⟨(tc.elapse l).elapsed, hread.elapsed_le,
        Nat.le_trans (Nat.le_add_right _ m) hlast.elapsed_le, ?_⟩ }
  · -- the flag is gone and a period has been added
    have hbefore := hclear.clock (hlast.missed hmissed)
    have hafter := hlast.clock hmissed
    rw [((Tc.Flows.refl tc).elapse l |>.elapse m).ovf hovf, Bool.toNat_true] at hbefore
    simp only [Bsp.drift, hcntr]
    simp only [Tc.setPendingIrq, Tc.clearOvf, Bool.toNat_false] at hafter ⊢
    unfold period at *
    omega
  · have hclock := hread.clock (Tc.missed_eq_false_of_elapse (hlast.missed hmissed))
    rw [((Tc.Flows.refl tc).elapse l).ovf hovf, Bool.toNat_true] at hclock
    rw [or_low_toNat (haligned h) (tc.elapse l).count_lt, hcntr, Bsp.drift]
    unfold period at *
    omega

theorem halTimerReadBsptimer_reads (d : List Nat) (b : Bsp) :
    Reads b (halTimerReadBsptimer d b).1 (halTimerReadBsptimer d b).2 := by
  cases hovf : ((b.tc.elapse (delay d 0)).elapse (delay d 1)).ovf with
  | false =>
      simp only [halTimerReadBsptimer, hovf, Bool.false_eq_true, if_false]
      exact reads_of_no_overflow hovf
  | true =>
      simp only [halTimerReadBsptimer, hovf, if_true]
      exact reads_of_overflow (((Tc.Flows.refl b.tc).elapse _).elapse _) hovf _ _ _

/-- What leaves the clock alone behind a read is a part of it. -/
theorem Reads.coasts {b b' b'' : Bsp} {value : UInt32} (h : Reads b value b')
    (h' : Coasts b' b'') : Reads b value b'' where
  elapsed_le := Nat.le_trans h.elapsed_le h'.flows.elapsed_le
  missed := fun hmissed => h.missed (h'.flows.missed hmissed)
  aligned := fun haligned => by
    rw [Bsp.Aligned, h'.tmrCntr]
    exact h.aligned haligned
  drift := fun hmissed => by
    rw [h'.drift hmissed]
    exact h.drift (h'.flows.missed hmissed)
  value := fun haligned hmissed => by
    obtain ⟨t, h0, h1, hvalue⟩ := h.value haligned (h'.flows.missed hmissed)
    exact ⟨t, h0, Nat.le_trans h1 h'.flows.elapsed_le, hvalue⟩

/-! ## The system -/

/-- The handler has seen OVF and not yet stored `tmr_cntr`. -/
def Phase.adding : Phase → Bool
  | .clearOvf | .loadCntr | .storeCntr _ => true
  | _ => false

/-- The overflows the handler has cleared and not yet added. -/
def Phase.owed : Phase → Nat
  | .loadCntr | .storeCntr _ => 1
  | _ => 0

/-- No read begins while the handler adds an overflow. -/
def ReadApart (s : System) : Event → Prop
  | .read _ | .start _ _ _ _ => s.phase.adding = false
  | _ => True

instance (s : System) (e : Event) : Decidable (ReadApart s e) := by
  cases e <;> unfold ReadApart <;> infer_instance

/-- The read returned the true time of an instant of the call. -/
def Read.Exact (r : Read) : Prop :=
  ∃ t : Nat, r.t0 ≤ t ∧ t ≤ r.t1 ∧ r.value.toNat = t % 2 ^ 32

/-- The clock is right, up to what the handler owes. -/
structure ClockInv (s : System) : Prop where
  aligned : s.bsp.Aligned
  drift : (s.bsp.drift + period * s.phase.owed) % 2 ^ 32 = 0
  loaded : ∀ v, s.phase = .storeCntr v → v = s.bsp.tmrCntr
  seen : s.phase = .clearOvf → s.bsp.tc.ovf = true
  past : ∀ r ∈ s.reads, r.t1 ≤ s.bsp.tc.elapsed
  exact : ∀ r ∈ s.reads, r.Exact
  order : s.reads.Pairwise fun later earlier => earlier.t1 ≤ later.t0

theorem turn_missed {d : List Nat} {s t : System} (h : s.turn d = some t)
    (hmissed : t.bsp.tc.missed = false) : s.bsp.tc.missed = false := by
  have hread := halTimerReadBsptimer_reads d s.bsp
  cases System.turn_cases h with
  | empty hfirst => exact (rearm_coasts d s.bsp none).flows.missed hmissed
  | call hfirst hcb hexpired hunlink =>
      exact hread.missed ((unlinkTimer_coasts hunlink).flows.missed hmissed)
  | later hfirst hexpired hb =>
      subst hb
      exact hread.missed ((rearm_coasts _ _ _).flows.missed hmissed)

namespace ClockInv

variable {s : System}

theorem init (cb : Nat → Option Nat) : ClockInv (System.init cb) where
  aligned := rfl
  drift := rfl
  loaded := fun _ h => by cases h
  seen := fun h => by cases h
  past := by simp [System.init, System.reads]
  exact := by simp [System.init, System.reads]
  order := List.Pairwise.nil

theorem coasts (h : ClockInv s) {b : Bsp} (hb : Coasts s.bsp b) (hmissed : b.tc.missed = false)
    {log : List Obs} (hlog : log.filterMap Obs.read? = s.reads) {starts : List Start} :
    ClockInv { s with bsp := b, log := log, starts := starts } where
  aligned := by
    rw [Bsp.Aligned, hb.tmrCntr]
    exact h.aligned
  drift := by
    rw [hb.drift hmissed]
    exact h.drift
  loaded := fun v hv => by
    rw [hb.tmrCntr]
    exact h.loaded v hv
  seen := fun hseen => hb.flows.ovf (h.seen hseen)
  past := fun r hr => by
    rw [System.reads, hlog] at hr
    exact Nat.le_trans (h.past r hr) hb.flows.elapsed_le
  exact := fun r hr => by
    rw [System.reads, hlog] at hr
    exact h.exact r hr
  order := by
    rw [System.reads, hlog]
    exact h.order

/-- Another place where the handler adds nothing. -/
theorem setPhase (h : ClockInv s) (phase : Phase) (howed : phase.owed = s.phase.owed)
    (hadding : phase.adding = false) : ClockInv { s with phase := phase } :=
  { h with
    drift := by
      rw [howed]
      exact h.drift
    loaded := fun v hv => by
      cases hv
      cases hadding
    seen := fun hseen => by
      cases hseen
      cases hadding }

/-- Ticks pass between two places where the handler adds nothing. -/
theorem moves (h : ClockInv s) (hs : s.phase.owed = 0) {t : System} (hb : Coasts s.bsp t.bsp)
    (hmissed : t.bsp.tc.missed = false) (hreads : t.reads = s.reads)
    (ht : t.phase.adding = false) (ht' : t.phase.owed = 0) : ClockInv t :=
  (h.coasts hb hmissed hreads).setPhase t.phase (ht'.trans hs.symm) ht

theorem owed_eq_zero {phase : Phase} (h : phase.adding = false) : phase.owed = 0 := by
  cases phase <;> first | rfl | cases h

/-- A read apart from the handler's addition is exact. -/
theorem read (h : ClockInv s) (hadding : s.phase.adding = false) {value : UInt32} {b : Bsp}
    (hread : Reads s.bsp value b) (hmissed : b.tc.missed = false) :
    ClockInv { s with bsp := b, log := readObs value s.bsp b :: s.log } := by
  have hdrift := h.drift
  rw [owed_eq_zero hadding] at hdrift
  have hdrift' := hread.drift hmissed
  have hexact : Read.Exact { value := value, t0 := s.bsp.tc.elapsed, t1 := b.tc.elapsed } := by
    obtain ⟨t, h0, h1, hvalue⟩ := hread.value h.aligned hmissed
    have hlt := value.toNat_lt
    refine ⟨t, h0, h1, ?_⟩
    dsimp only
    omega
  exact
    { aligned := hread.aligned h.aligned
      drift := by
        dsimp only
        rw [owed_eq_zero hadding]
        omega
      loaded := fun v hv => by
        rw [show s.phase = .storeCntr v from hv] at hadding
        cases hadding
      seen := fun hseen => by
        rw [show s.phase = .clearOvf from hseen] at hadding
        cases hadding
      past := by
        intro r hr
        rcases List.mem_cons.mp hr with rfl | hr
        · exact Nat.le_refl _
        · exact Nat.le_trans (h.past r hr) hread.elapsed_le
      exact := by
        intro r hr
        rcases List.mem_cons.mp hr with rfl | hr
        · exact hexact
        · exact h.exact r hr
      order := List.pairwise_cons.mpr ⟨fun r hr => h.past r hr, h.order⟩ }

/-- The handler's addition settles what it owes. -/
theorem store (h : ClockInv s) (hphase : s.phase = .storeCntr s.bsp.tmrCntr) {tmrCntr : UInt32}
    (hcntr : tmrCntr.toNat = (s.bsp.tmrCntr.toNat + period) % 2 ^ 32) :
    ClockInv { s with bsp := { s.bsp with tmrCntr := tmrCntr }, phase := .countIsr } := by
  have hdrift := h.drift
  have haligned := h.aligned
  rw [hphase] at hdrift
  refine
    { h with
      aligned := ?_
      drift := ?_
      loaded := fun _ hv => by cases hv
      seen := fun hv => by cases hv }
  · simp only [Bsp.Aligned, hcntr] at haligned ⊢
    unfold period at *
    omega
  · simp only [Bsp.drift, Phase.owed, hcntr] at hdrift ⊢
    unfold period at *
    omega

/-- One access of the handler. -/
theorem handler (h : ClockInv s) {t : System} (hstep : halTimerIrqHandler s = some t) :
    ClockInv t := by
  have hdrift := h.drift
  unfold halTimerIrqHandler at hstep
  dsimp only at hstep
  cases hphase : s.phase with
  | readMc0 =>
      rw [hphase] at hstep
      cases hstep
      split <;> exact h.setPhase _ (by rw [hphase]; rfl) rfl
  | clearMc0 =>
      rw [hphase] at hstep
      cases hstep
      exact ({ h with } : ClockInv { s with bsp := { s.bsp with tc := s.bsp.tc.clearMc0 } }).setPhase
        _ (by rw [hphase]; rfl) rfl
  | readOvf =>
      rw [hphase] at hstep hdrift
      cases hstep
      split
      · rename_i hovf
        exact
          { h with
            drift := hdrift
            loaded := fun _ hv => by cases hv
            seen := fun _ => hovf }
      · exact h.setPhase _ (by rw [hphase]; rfl) rfl
  | clearOvf =>
      -- from here on the handler owes the overflow whose flag it clears
      have hovf := h.seen hphase
      rw [hphase] at hstep hdrift
      cases hstep
      refine
        { h with
          drift := ?_
          loaded := fun _ hv => by cases hv
          seen := fun hv => by cases hv }
      simp only [Bsp.drift, hovf, Tc.clearOvf, Phase.owed, Bool.toNat_true, Bool.toNat_false]
        at hdrift ⊢
      omega
  | loadCntr =>
      rw [hphase] at hstep hdrift
      cases hstep
      exact
        { h with
          drift := hdrift
          loaded := fun v hv => by
            cases hv
            rfl
          seen := fun hv => by cases hv }
  | storeCntr loaded =>
      have hloaded := h.loaded loaded hphase
      subst hloaded
      rw [hphase, Option.some.injEq] at hstep
      subst hstep
      exact h.store hphase (add_period_toNat s.bsp.tmrCntr)
  | countIsr =>
      rw [hphase] at hstep
      cases hstep
      exact ({ h with } : ClockInv { s with bsp := { s.bsp with
        timerIsrs := s.bsp.timerIsrs + 1 } }).setPhase _ (by rw [hphase]; rfl) rfl
  | idle | chk | callback =>
      rw [hphase] at hstep
      cases hstep

/-- One turn of `hal_timer_chk_queue`. -/
theorem turn (h : ClockInv s) (hchk : s.phase = .chk) {d : List Nat} {t : System}
    (hstep : s.turn d = some t) (hmissed : t.bsp.tc.missed = false) : ClockInv t := by
  have hadding : s.phase.adding = false := by
    rw [hchk]
    rfl
  have hread := halTimerReadBsptimer_reads d s.bsp
  have howed : s.phase.owed = 0 := owed_eq_zero hadding
  cases System.turn_cases hstep with
  | empty hfirst =>
      exact h.moves howed (rearm_coasts d s.bsp none) hmissed rfl rfl rfl
  | call hfirst hcb hexpired hunlink =>
      have hb := unlinkTimer_coasts hunlink
      exact (h.read hadding hread (hb.flows.missed hmissed)).moves howed hb hmissed rfl rfl rfl
  | @later t _ hfirst hexpired hb =>
      subst hb
      have hb := rearm_coasts (d.drop 5) (halTimerReadBsptimer d s.bsp).2 (some t)
      exact (h.read hadding hread (hb.flows.missed hmissed)).moves howed hb hmissed rfl rfl rfl

end ClockInv

/-- One event keeps the clock right, unless an overflow is missed. -/
theorem step_clockInv (s : System) (e : Event) (t : System)
    (h : s.bsp.tc.missed = false → ClockInv s) (hapart : ReadApart s e)
    (hstep : step s e = some t) (hmissed : t.bsp.tc.missed = false) : ClockInv t := by
  cases step_cases hstep with
  | elapse n =>
      have hb : Coasts s.bsp { s.bsp with tc := s.bsp.tc.elapse n } :=
        ⟨rfl, (Tc.Flows.refl s.bsp.tc).elapse n⟩
      exact (h (hb.flows.missed hmissed)).coasts hb hmissed rfl
  | latch =>
      have hb : Coasts s.bsp { s.bsp with tc := s.bsp.tc.setPendingIrq } :=
        ⟨rfl, (Tc.Flows.refl s.bsp.tc).setPendingIrq⟩
      exact (h hmissed).coasts hb hmissed rfl
  | read d =>
      have hread := halTimerReadBsptimer_reads d s.bsp
      exact (h (hread.missed hmissed)).read hapart hread hmissed
  | startAt hcall =>
      obtain ⟨⟨rc, b⟩, hstart, heq⟩ := Option.map_eq_some_iff.mp hcall
      have hb := halTimerStartAt_coasts hstart
      subst heq
      refine (h (hb.flows.missed hmissed)).coasts hb hmissed ?_
      split <;> rfl
  | @start _ _ dRead _ _ hcall =>
      obtain ⟨⟨rc, b⟩, hstart, heq⟩ := Option.map_eq_some_iff.mp hcall
      have hread := halTimerReadBsptimer_reads dRead s.bsp
      have hb := halTimerStartAt_coasts hstart
      subst heq
      have hclock := (h (hread.missed (hb.flows.missed hmissed))).read hapart hread
        (hb.flows.missed hmissed)
      refine hclock.coasts hb hmissed ?_
      split <;> rfl
  | startRefused => exact h hmissed
  | startTest => exact (h hmissed).coasts (.refl s.bsp) hmissed rfl
  | @startStore _ p => exact (h hmissed).coasts (storeExpiry_coasts s.bsp p.t p.tick) hmissed rfl
  | startEnter _ _ hsection =>
      have hb := startSection_coasts hsection
      refine (h (hb.flows.missed hmissed)).coasts hb hmissed ?_
      rfl
  | stop hstop =>
      have hb := halTimerStop_coasts hstop
      refine (h (hb.flows.missed hmissed)).coasts hb hmissed ?_
      rfl
  | setCb t cb =>
      have hb : Coasts s.bsp (halTimerSetCb s.bsp t cb) := ⟨rfl, .refl s.bsp.tc⟩
      exact (h hmissed).coasts hb hmissed rfl
  | storeFunc t cb =>
      have hb : Coasts s.bsp (storeFunc s.bsp t cb) := ⟨rfl, .refl s.bsp.tc⟩
      exact (h hmissed).coasts hb hmissed rfl
  | clearLink t =>
      have hb : Coasts s.bsp (clearLink s.bsp t) := ⟨rfl, .refl s.bsp.tc⟩
      exact (h hmissed).coasts hb hmissed rfl
  | irq hidle =>
      exact (h hmissed).moves (by rw [hidle]; rfl)
        ⟨rfl, ⟨Nat.le_refl _, id, id, fun _ => rfl⟩⟩ hmissed rfl rfl rfl
  | handler hhandler =>
      exact (h ((halTimerIrqHandler_frame hhandler).missed ▸ hmissed)).handler hhandler
  | chk hchk hturn => exact (h (turn_missed hturn hmissed)).turn hchk hturn hmissed
  | cbReturn hcallback =>
      exact (h hmissed).setPhase .chk (by rw [hcallback]; rfl) rfl

/-- In a run in which no read begins while the handler adds an overflow, and no overflow is
missed, every read returns the true time of an instant of its call, reads are made one after the
other, and outside its addition the handler owes nothing: `tmr_cntr` and the flag count the
overflows of the counter. -/
theorem reads_apart_true {cb : Nat → Option Nat} {es : List Event} {s : System}
    (hapart : Along step ReadApart (System.init cb) es)
    (hrun : run step (System.init cb) es = some s) (hmissed : s.bsp.tc.missed = false) :
    (∀ r ∈ s.reads, r.Exact) ∧
      s.reads.Pairwise (fun later earlier => earlier.t1 ≤ later.t0) ∧
      (s.phase.owed = 0 → (s.bsp.tmrCntr.toNat + period * s.bsp.tc.ovf.toNat) % 2 ^ 32
        = period * (s.bsp.tc.elapsed / period) % 2 ^ 32) := by
  have h : ClockInv s :=
    run_invariant_along (I := fun s => s.bsp.tc.missed = false → ClockInv s) step_clockInv
      (fun _ => ClockInv.init cb) hapart hrun hmissed
  refine ⟨h.exact, h.order, fun howed => ?_⟩
  have hdrift := h.drift
  have haligned := h.aligned
  have hcount := s.bsp.tc.count_lt
  rw [howed] at hdrift
  simp only [Bsp.drift, Bsp.Aligned] at hdrift haligned
  unfold period at *
  omega

/-- A read before the first overflow, and one from another interrupt that finds the overflow
before the handler looks at it. -/
def apartRun : List Event :=
  [.elapse 65000, .read [3, 4], .elapse 536, .irq, .handler, .read [5], .handler, .handler,
    .handler, .chk []]

theorem reads_apart_true_apartRun :
    ∃ s, run step (System.init fun _ => none) apartRun = some s ∧ s.reads.length = 2 ∧
      ∀ r ∈ s.reads, r.Exact :=
  ⟨_, rfl, rfl,
    (@reads_apart_true (fun _ => none) apartRun _ (by decide +kernel) rfl (by decide +kernel)).1⟩

/-- The counter wraps, the handler sees OVF, and another interrupt reads the clock. -/
def doubleRun : List Event :=
  [.elapse 65536, .irq, .handler, .handler, .handler, .read [], .handler, .handler, .handler,
    .handler, .chk [], .read []]

/-- The overflow is added by the read and by the handler, and the next read is a period ahead. -/
theorem read_in_handler_adds_twice :
    ∃ s, run step (System.init fun _ => none) doubleRun = some s ∧
      s.bsp.tc.missed = false ∧ s.bsp.tc.elapsed = 65536 ∧
      ∃ r ∈ s.reads, r.value = 131072 ∧ ¬ r.Exact := by
  refine ⟨_, rfl, by decide +kernel, by decide +kernel, ⟨131072, 65536, 65536⟩,
    by decide +kernel, rfl, ?_⟩
  rintro ⟨t, h0, h1, hvalue⟩
  have ht : t = 65536 := Nat.le_antisymm h1 h0
  rw [ht] at hvalue
  revert hvalue
  decide

end HalTimer
