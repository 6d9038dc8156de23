import MynewtArduinoZero.Winc1500.HostInterface

/-!
# The chip is awake when it is used

In the modes in which the chip sleeps, `hif_chip_wake` wakes it for the first who
needs it and `hif_chip_sleep` lets it sleep after the last, by the counter
`gu8ChipSleep`.  Everything but the registers without clock needs the chip awake.

Whichever answers the bus gives, however the calls fail, and whatever callbacks
and the application ask for, the chip is not used while it may be asleep, as long
as no call comes at a bad time: a request of a callback with the counter at its
end, a mode without sleep chosen while the chip sleeps, `hif_receive` while it
sleeps.  A request that fails leaves the counter one too high, so that the
counter does come to its end.
-/

namespace Winc1500

namespace HostIf

open Hif Dialogue Dialogue.Routine

/-! ## What is to be shown -/

/-- What may be said of the chip: woken, but not told to stay so, is between the two. -/
inductive Power where
  | asleep
  | roused
  | awake
deriving DecidableEq, Repr

/-- The act needs the clocks of the chip. -/
def Act.clocked : Act → Bool
  | .readReg addr => decide (0xff < addr)
  | .writeReg addr _ => decide (0x30 < addr)
  | .readBlock .. | .writeBlock .. => true
  | _ => false

/-- The chip may be used like this. -/
def Power.bears : Power → Act → Bool
  | .awake, _ => true
  | .roused, .writeReg addr val => decide (addr = wakeReg) || !(Act.writeReg addr val).clocked
  | _, a => !a.clocked

def Power.next (p : Power) (a : Act) (ok : Bool) : Power :=
  match a with
  | .clklessWake => if ok ∧ p = .asleep then .roused else p
  | .writeReg addr val =>
      if addr = wakeReg ∧ val = sleepValue then .asleep
      else if addr = wakeReg ∧ val = wakeValue ∧ ok then .awake
      else p
  | _ => p

/-- The counter would wrap around, or be taken for unused. -/
def atEnd (gu8ChipSleep : UInt8) : Bool := decide (gu8ChipSleep = 0) || decide (gu8ChipSleep = 255)

/-- The call comes at a bad time. -/
def HostCall.untimely (q : HostCall) (nested : Bool) (mode : PowerSaveMode) (gu8ChipSleep : UInt8) :
    Bool :=
  mode.sleeps &&
    match q with
    | .send _ => nested && atEnd gu8ChipSleep
    | .setSleepMode psTyp _ => (nested || !psTyp.sleeps) && atEnd gu8ChipSleep
    | .receive .. => !nested && decide (gu8ChipSleep = 0)
    | .flowCtrl _ => false

/-- What is known of the chip, and whether a call has come at a bad time. -/
structure Watch where
  power : Power
  spoiled : Bool

def Watch.next (s : Watch) (a : Act) (ok : Bool) : Watch :=
  match a with
  | .entered q nested mode gu8ChipSleep _ =>
      { s with spoiled := s.spoiled || q.untimely nested mode gu8ChipSleep }
  | a => { s with power := s.power.next a ok }

/-- Any answer, to what the chip bears. -/
def Uses (s : Watch) (a : Act) (x : Answer) (t : Watch) : Prop :=
  (s.spoiled ∨ s.power.bears a) ∧ t = s.next a x.ok

/-- The chip may sleep only where the counter says that nobody needs it. -/
def Rests (g : Globals) (p : Power) : Prop :=
  (g.gu8ChipMode.sleeps ∧ g.gu8ChipSleep = 0) ∨ p = .awake

/-! ## Once a call has come at a bad time -/

theorem spoiled_next {s : Watch} (h : s.spoiled = true) (a : Act) (ok : Bool) :
    (s.next a ok).spoiled = true := by
  cases a <;> simp [Watch.next, h]

theorem spoiled_absorbing : Absorbing Uses fun s => s.spoiled = true := by
  intro s a hs
  refine ⟨⟨⟨true, 0, fun _ => 0, false⟩, _, .inl hs, rfl⟩, ?_⟩
  rintro x t ⟨-, rfl⟩
  exact spoiled_next hs a x.ok

/-! ## Acts -/

/-- The mode and the counter are the same. -/
structure Same (g g' : Globals) : Prop where
  mode : g'.gu8ChipMode = g.gu8ChipMode
  counter : g'.gu8ChipSleep = g.gu8ChipSleep

theorem Same.refl (g : Globals) : Same g g := ⟨rfl, rfl⟩

theorem Same.trans {g₁ g₂ g₃ : Globals} (h : Same g₁ g₂) (h' : Same g₂ g₃) : Same g₁ g₃ :=
  ⟨h'.mode.trans h.mode, h'.counter.trans h.counter⟩

theorem Rests.same {g g' : Globals} {p : Power} (h : Rests g p) (hs : Same g g') : Rests g' p := by
  rw [Rests, hs.mode, hs.counter]
  exact h

/-- An act is answered somehow, if the chip bears it. -/
theorem act_ends {g : Globals} {s : Watch} {a : Act} (h : s.spoiled ∨ s.power.bears a) :
    Ends Uses (act a) g s fun x g' t => g' = g ∧ t = s.next a x.ok := by
  refine ends_call.mpr ⟨⟨⟨true, 0, fun _ => 0, false⟩, _, h, rfl⟩, ?_⟩
  rintro x t ⟨-, rfl⟩
  exact ⟨rfl, rfl⟩

theorem bears_interruptCtrl (p : Power) (enable : Bool) : p.bears (.interruptCtrl enable) := by
  cases p <;> rfl

theorem isr_ends (g : Globals) (s : Watch) :
    Ends Uses isr g s fun _ g' t => Same g g' ∧ t = s := by
  refine ends_bind.mpr (ends_modify.mpr ?_)
  refine (act_ends (.inr (bears_interruptCtrl ..))).bind ?_
  rintro _ _ _ ⟨rfl, rfl⟩
  exact ⟨⟨rfl, rfl⟩, rfl⟩

theorem bus_ends {g : Globals} {s : Watch} {a : Act} (h : s.power.bears a) :
    Ends Uses (bus a) g s fun x g' t => Same g g' ∧ t = s.next a x.ok := by
  refine (act_ends (.inr h)).bind ?_
  rintro x _ _ ⟨rfl, rfl⟩
  split
  · refine (isr_ends _ _).bind ?_
    rintro _ _ _ ⟨hsame, rfl⟩
    exact ⟨hsame, rfl⟩
  · exact ⟨.refl _, rfl⟩

/-! ## Routines for a chip that is awake -/

/-- The act leaves a chip awake. -/
def Act.harmless : Act → Bool
  | .writeReg addr val => !(decide (addr = wakeReg) && decide (val = sleepValue))
  | .entered .. => false
  | _ => true

theorem Act.harmless_of_plain {a : Act} (h : a.plain) : a.harmless := by
  cases a with
  | writeReg addr val =>
      simp only [Act.plain, Bool.and_eq_true, decide_eq_true_eq] at h
      simp [Act.harmless, h.1]
  | entered q nested mode gu8ChipSleep gu8HifSizeDone => cases h
  | _ => rfl

theorem awake_next {a : Act} (h : a.harmless) {s : Watch} (hs : s.power = .awake) (ok : Bool) :
    s.next a ok = s := by
  obtain ⟨_, spoiled⟩ := s
  cases hs
  cases a with
  | writeReg addr val =>
      simp only [Act.harmless, Bool.not_eq_true', Bool.and_eq_false_iff, decide_eq_false_iff_not] at h
      simp [Watch.next, Power.next, not_and_or.mpr h]
  | entered q nested mode gu8ChipSleep gu8HifSizeDone => cases h
  | _ => simp [Watch.next, Power.next]

/-- The mode, the counter and what is known of the chip are those given. -/
def Still (g₀ : Globals) (s₀ : Watch) (g : Globals) (s : Watch) : Prop := Same g₀ g ∧ s = s₀

/-- The routine uses the chip while it is awake, and leaves it so. -/
def Quiet {α : Type} (r : Routine α) : Prop :=
  ∀ (g : Globals) (s : Watch), s.power = .awake → Keeps Uses (Still g s) r

namespace Quiet

variable {α β : Type}

theorem ends {r : Routine α} (h : Quiet r) {g : Globals} {s : Watch} (hs : s.power = .awake) :
    Ends Uses r g s fun _ g' t => Same g g' ∧ t = s :=
  h g s hs g s ⟨.refl g, rfl⟩

theorem pure (a : α) : Quiet (Pure.pure a : Routine α) := fun _ _ _ => .pure a

theorem bind {r : Routine α} {f : α → Routine β} (h : Quiet r) (hf : ∀ a, Quiet (f a)) :
    Quiet (r >>= f) :=
  fun g s hs => (h g s hs).bind fun a => hf a g s hs

theorem ite {c : Prop} [Decidable c] {r r' : Routine α} (h : Quiet r) (h' : Quiet r') :
    Quiet (if c then r else r') :=
  fun g s hs => .ite (h g s hs) (h' g s hs)

theorem act {a : Act} (h : a.harmless) : Quiet (HostIf.act a) := by
  rintro g₀ s₀ hs g _ ⟨hsame, rfl⟩
  refine (act_ends (.inr (by rw [hs]; rfl))).mono ?_
  rintro x _ _ ⟨rfl, rfl⟩
  exact ⟨hsame, awake_next h hs x.ok⟩

theorem isr : Quiet HostIf.isr := by
  rintro g₀ s₀ - g _ ⟨hsame, rfl⟩
  refine (isr_ends g _).mono ?_
  rintro _ g' _ ⟨hsame', rfl⟩
  exact ⟨hsame.trans hsame', rfl⟩

theorem bus {a : Act} (h : a.harmless) : Quiet (HostIf.bus a) :=
  (act h).bind fun x => ite (isr.bind fun _ => pure x) (pure x)

theorem readReg (addr : UInt32) : Quiet (nmReadRegWithRet addr) := bus rfl

theorem writeReg {addr : UInt32} (val : UInt32) (h : addr ≠ wakeReg) :
    Quiet (nmWriteReg addr val) :=
  (bus (by simp [Act.harmless, h])).bind fun _ => pure _

theorem interruptCtrl (enable : Bool) : Quiet (nmBspInterruptCtrl enable) :=
  (bus rfl).bind fun _ => pure _

theorem sendAwake (r : Message) : Quiet (HostIf.sendAwake r) :=
  fun g s hs => sendAwake_keeps (fun _ ha => bus (Act.harmless_of_plain ha) g s hs) r

theorem hifSetRxDone : Quiet HostIf.hifSetRxDone :=
  (readReg _).bind fun _ => ite (pure _) <|
    (writeReg _ (by decide)).bind fun _ => ite (pure _) <|
      (interruptCtrl _).bind fun _ => pure _

theorem sizeDone : Quiet HostIf.sizeDone :=
  fun g s hs => .bind (.modify fun _ _ h => ⟨⟨h.1.mode, h.1.counter⟩, h.2⟩) fun _ =>
    hifSetRxDone g s hs

theorem hifReceive (u32Addr : UInt32) (pu8Buf : Bool) (u16Sz : UInt16) (isDone : Bool) :
    Quiet (HostIf.hifReceive u32Addr pu8Buf u16Sz isDone) :=
  ite (ite (sizeDone.bind fun _ => pure _) (pure _)) <|
    (readReg _).bind fun _ => ite (pure _) <|
      (readReg _).bind fun _ => ite (pure _) <| ite (pure _) <|
        (bus rfl).bind fun _ => ite (pure _) <| ite (sizeDone.bind fun _ => pure _) (pure _)

theorem giveBack : Quiet HostIf.giveBack :=
  fun g s hs => .get_bind fun _ =>
    ite (pure _) (hifSetRxDone.bind fun _ => pure _) g s hs

end Quiet

/-! ## Waking and letting sleep -/

theorem Rests.awake {g : Globals} {p : Power} (h : Rests g p)
    (huse : ¬ (g.gu8ChipSleep = 0 ∧ g.gu8ChipMode.sleeps)) : p = .awake := by
  obtain ⟨hsleeps, hzero⟩ | hawake := h
  · exact absurd ⟨hzero, hsleeps⟩ huse
  · exact hawake

theorem decide_ret (x : Answer) : decide (x.ret = m2mSuccess) = x.ok := by
  cases hok : x.ok <;> simp [Answer.ret, hok, m2mSuccess, m2mErrBusFail]

theorem nmClklessWake_ends (g : Globals) (s : Watch) :
    Ends Uses nmClklessWake g s fun ret g' t =>
      Same g g' ∧ t = s.next .clklessWake (ret = m2mSuccess) := by
  have hbears : s.power.bears .clklessWake := by cases s.power <;> rfl
  refine (bus_ends hbears).bind ?_
  rintro x _ _ ⟨hsame, rfl⟩
  exact ⟨hsame, by rw [decide_ret]⟩

theorem nmWriteReg_ends {g : Globals} {s : Watch} {addr val : UInt32}
    (h : s.power.bears (.writeReg addr val)) :
    Ends Uses (nmWriteReg addr val) g s fun ret g' t =>
      Same g g' ∧ t = s.next (.writeReg addr val) (ret = m2mSuccess) := by
  refine (bus_ends h).bind ?_
  rintro x _ _ ⟨hsame, rfl⟩
  exact ⟨hsame, by rw [decide_ret]⟩

/-- What `hif_chip_wake` has done. -/
def Woken (g : Globals) (s : Watch) (ret : Int) (g' : Globals) (t : Watch) : Prop :=
  t.spoiled = s.spoiled ∧ g'.gu8ChipMode = g.gu8ChipMode ∧
    if ret = m2mSuccess then g'.gu8ChipSleep = g.gu8ChipSleep + 1 ∧ t.power = .awake
    else g'.gu8ChipSleep = g.gu8ChipSleep ∧ g.gu8ChipSleep = 0 ∧ g.gu8ChipMode.sleeps

theorem hifChipWake_ends {g : Globals} {s : Watch} (h : Rests g s.power) :
    Ends Uses hifChipWake g s (Woken g s) := by
  refine ends_bind.mpr (ends_get.mpr ?_)
  split
  · rename_i hneed
    have hfailed (ret : Int) (hret : ret ≠ m2mSuccess) (g' : Globals) (hs : Same g g') (p : Power) :
        Woken g s ret g' ⟨p, s.spoiled⟩ := by
      refine ⟨rfl, hs.mode, ?_⟩
      rw [if_neg hret]
      exact ⟨hs.counter, hneed.1, hneed.2⟩
    refine (nmClklessWake_ends g s).bind ?_
    rintro ret g₁ _ ⟨hs₁, rfl⟩
    split
    · rename_i hret
      exact hfailed ret hret g₁ hs₁ _
    · rename_i hret
      have hwake : (s.next .clklessWake (ret = m2mSuccess)).power.bears
          (.writeReg wakeReg wakeValue) := by
        rw [decide_eq_true (not_not.mp hret)]
        show (s.power.next .clklessWake true).bears _
        cases s.power <;> rfl
      refine (nmWriteReg_ends hwake).bind ?_
      rintro ret' g₂ _ ⟨hs₂, rfl⟩
      split
      · rename_i hret'
        exact hfailed ret' hret' g₂ (hs₁.trans hs₂) _
      · rename_i hret'
        refine ends_bind.mpr (ends_modify.mpr (ends_pure.mpr ⟨rfl, (hs₁.trans hs₂).mode, ?_⟩))
        rw [if_pos rfl, decide_eq_true (not_not.mp hret')]
        refine ⟨by rw [(hs₁.trans hs₂).counter], ?_⟩
        simp [Watch.next, Power.next, wakeValue, sleepValue]
  · rename_i hneed
    refine ends_bind.mpr (ends_modify.mpr (ends_pure.mpr ⟨rfl, rfl, ?_⟩))
    rw [if_pos rfl]
    exact ⟨rfl, h.awake hneed⟩

/-- `hif_chip_sleep` lets the chip sleep if nobody needs it any more. -/
theorem hifChipSleep_ends {g : Globals} {s : Watch} (h : s.power = .awake) :
    Ends Uses hifChipSleep g s fun _ g' t =>
      t.spoiled = s.spoiled ∧ g'.gu8ChipMode = g.gu8ChipMode ∧
        g'.gu8ChipSleep = oneLess g.gu8ChipSleep ∧
        t.power = if g'.gu8ChipSleep = 0 ∧ g'.gu8ChipMode.sleeps then .asleep else .awake := by
  refine ends_bind.mpr (ends_modify.mpr (ends_bind.mpr (ends_get.mpr ?_)))
  split
  · rename_i hlast
    have hasleep {g' : Globals} {t : Watch}
        (hs : Same { g with gu8ChipSleep := oneLess g.gu8ChipSleep } g')
        (ht : t = s.next (.writeReg wakeReg sleepValue) true) :
        t.spoiled = s.spoiled ∧ g'.gu8ChipMode = g.gu8ChipMode ∧
          g'.gu8ChipSleep = oneLess g.gu8ChipSleep ∧
          t.power = if g'.gu8ChipSleep = 0 ∧ g'.gu8ChipMode.sleeps then .asleep else .awake := by
      subst ht
      refine ⟨rfl, hs.mode, hs.counter, ?_⟩
      rw [hs.counter, hs.mode, if_pos hlast]
      rfl
    refine (nmWriteReg_ends (by rw [h]; rfl)).bind ?_
    rintro ret g₁ _ ⟨hs₁, rfl⟩
    split
    · exact hasleep hs₁ rfl
    · refine (bus_ends rfl).bind ?_
      rintro reg g₂ _ ⟨hs₂, rfl⟩
      split
      · exact hasleep (hs₁.trans hs₂) rfl
      · split
        · refine (nmWriteReg_ends rfl).mono ?_
          rintro ret' g₃ _ ⟨hs₃, rfl⟩
          exact hasleep ((hs₁.trans hs₂).trans hs₃) rfl
        · exact hasleep (hs₁.trans hs₂) rfl
  · rename_i hlast
    refine ⟨rfl, rfl, rfl, ?_⟩
    rw [if_neg hlast, h]

theorem oneLess_succ {c : UInt8} (h : c ≠ 255) : oneLess (c + 1) = c := by
  rw [oneLess]
  split
  · exact UInt8.add_sub_cancel c 1
  · rename_i hlt
    have hlt := UInt8.not_le.mp hlt
    have hwrap : (c + 1).toNat < 1 := hlt
    have hc : c.toNat < 256 := c.toNat_lt
    rw [UInt8.toNat_add] at hwrap
    refine absurd (UInt8.toNat_inj.mp ?_) h
    show c.toNat = 255
    have hone : (1 : UInt8).toNat = 1 := rfl
    omega

/-! ## Requests -/

/-- A request, with the chip asleep or awake before it. -/
theorem hifSend_ends {r : Message} {g : Globals} {s : Watch} (h : Rests g s.power) :
    Ends Uses (hifSend r) g s fun _ g' t =>
      t.spoiled = s.spoiled ∧ g'.gu8ChipMode = g.gu8ChipMode ∧ Rests g' t.power ∧
        (¬ (g.gu8ChipMode.sleeps ∧ atEnd g.gu8ChipSleep) → t.power = .awake) := by
  refine (hifChipWake_ends h).bind ?_
  rintro ret g₁ s₁ ⟨hspoiled, hmode, hwoken⟩
  split
  · rename_i hret
    rw [if_neg hret] at hwoken
    obtain ⟨hcounter, hzero, hsleeps⟩ := hwoken
    refine ⟨hspoiled, hmode, .inl ⟨by rw [hmode]; exact hsleeps, hcounter.trans hzero⟩, ?_⟩
    intro htimely
    exact absurd ⟨hsleeps, by rw [hzero]; rfl⟩ htimely
  · rename_i hret
    rw [if_pos (not_not.mp hret)] at hwoken
    obtain ⟨hcounter, hawake⟩ := hwoken
    refine ((Quiet.sendAwake r).ends hawake).bind ?_
    rintro ret' g₂ _ ⟨hs₂, rfl⟩
    split
    · exact ⟨hspoiled, hs₂.mode.trans hmode, .inr hawake, fun _ => hawake⟩
    · refine (hifChipSleep_ends hawake).mono ?_
      rintro _ g₃ s₃ ⟨hspoiled₃, hmode₃, hcounter₃, hpower₃⟩
      have hmode₃ : g₃.gu8ChipMode = g.gu8ChipMode := hmode₃.trans (hs₂.mode.trans hmode)
      have hcounter₃ : g₃.gu8ChipSleep = oneLess (g.gu8ChipSleep + 1) := by
        rw [hcounter₃, hs₂.counter, hcounter]
      refine ⟨hspoiled₃.trans hspoiled, hmode₃, ?_, ?_⟩
      · rw [hpower₃]
        split
        · rename_i hlast
          exact .inl ⟨hlast.2, hlast.1⟩
        · exact .inr rfl
      · intro htimely
        rw [hpower₃, if_neg]
        rintro ⟨hzero, hsleeps⟩
        rw [hmode₃] at hsleeps
        refine htimely ⟨hsleeps, ?_⟩
        by_cases hend : g.gu8ChipSleep = 255
        · rw [hend]
          rfl
        · rw [hcounter₃, oneLess_succ hend] at hzero
          rw [hzero]
          rfl

/-! ## Calls of callbacks and of the application -/

/-- The chip is awake, as far as no call has come at a bad time. -/
def Used (s : Watch) : Prop := s.spoiled = true ∨ s.power = .awake

/-- The chip sleeps only as it may, as far as no call has come at a bad time. -/
def Settled (g : Globals) (s : Watch) : Prop := s.spoiled = true ∨ Rests g s.power

theorem Used.settled {s : Watch} (h : Used s) (g : Globals) : Settled g s := h.imp_right .inr

theorem Quiet.used {α : Type} {r : Routine α} (h : Quiet r) {g : Globals} {s : Watch}
    (hs : Used s) : Ends Uses r g s fun _ _ t => Used t := by
  refine ends_or spoiled_absorbing fun hclean => ((h.ends (hs.resolve_left hclean)).mono ?_)
  rintro _ _ _ ⟨-, rfl⟩
  exact hs

/-- The mark of a call, and the call behind it. -/
theorem hostCall_ends {nested : Bool} {q : HostCall} {g : Globals} {s : Watch}
    {post : HostAnswer → Globals → Watch → Prop}
    (h : ∀ t : Watch, t.spoiled ≠ true → t.power = s.power →
      q.untimely nested g.gu8ChipMode g.gu8ChipSleep = false →
      Ends Uses (callBody q) g t fun a g t => t.spoiled = true ∨ post a g t) :
    Ends Uses (hostCall nested q) g s fun a g t => t.spoiled = true ∨ post a g t := by
  refine ends_bind.mpr (ends_get.mpr ?_)
  have hbears : s.power.bears (.entered q nested g.gu8ChipMode g.gu8ChipSleep g.gu8HifSizeDone) := by
    cases s.power <;> rfl
  refine (act_ends (.inr hbears)).bind ?_
  rintro _ _ _ ⟨rfl, rfl⟩
  refine ends_or spoiled_absorbing fun hclean => h _ hclean rfl ?_
  simp only [Watch.next, Bool.not_eq_true, Bool.or_eq_false_iff] at hclean
  exact hclean.2

theorem nestedCall_ends {q : HostCall} {g : Globals} {s : Watch} (hs : Used s) :
    Ends Uses (hostCall true q) g s fun _ _ t => Used t := by
  refine ends_or spoiled_absorbing fun hclean => hostCall_ends fun t hclean' hpower htimely => ?_
  have hawake : t.power = .awake := hpower.trans (hs.resolve_left hclean)
  have htimely' (hq : q.untimely true g.gu8ChipMode g.gu8ChipSleep =
      (g.gu8ChipMode.sleeps && atEnd g.gu8ChipSleep)) :
      ¬ (g.gu8ChipMode.sleeps ∧ atEnd g.gu8ChipSleep) := by
    rw [hq, Bool.and_eq_false_iff] at htimely
    rintro ⟨hsleeps, hend⟩
    rw [hsleeps, hend] at htimely
    simp at htimely
  cases q with
  | send r =>
      refine (hifSend_ends (.inr hawake)).bind ?_
      rintro _ _ _ ⟨-, -, -, h⟩
      exact .inr (h (htimely' rfl))
  | receive u32Addr pu8Buf u16Sz isDone =>
      exact (Quiet.hifReceive u32Addr pu8Buf u16Sz isDone).used (.inr hawake)
  | setSleepMode psTyp r =>
      refine (hifSend_ends (.inr hawake)).bind ?_
      rintro _ _ _ ⟨-, -, -, h⟩
      exact .inr (h (htimely' rfl))
  | flowCtrl stop => exact .inr hawake

theorem outerCall_ends {q : HostCall} {g : Globals} {s : Watch} (hs : Settled g s) :
    Ends Uses (hostCall false q) g s fun _ g t => Settled g t := by
  refine ends_or spoiled_absorbing fun hclean => hostCall_ends fun t hclean' hpower htimely => ?_
  have hrests : Rests g t.power := by
    rw [hpower]
    exact hs.resolve_left hclean
  cases q with
  | send r =>
      refine (hifSend_ends hrests).bind ?_
      rintro _ _ _ ⟨-, -, h, -⟩
      exact .inr h
  | receive u32Addr pu8Buf u16Sz isDone =>
      have hawake : t.power = .awake := by
        refine hrests.awake ?_
        rintro ⟨hzero, hsleeps⟩
        simp [HostCall.untimely, hzero, hsleeps] at htimely
      exact ((Quiet.hifReceive u32Addr pu8Buf u16Sz isDone).used (.inr hawake)).mono
        fun _ g _ h => h.settled g
  | setSleepMode psTyp r =>
      refine (hifSend_ends hrests).bind ?_
      rintro ret g₁ t₁ ⟨-, hmode, hrests₁, hawake⟩
      refine ends_bind.mpr (ends_modify.mpr (ends_pure.mpr (.inr ?_)))
      by_cases htimely' : g.gu8ChipMode.sleeps ∧ atEnd g.gu8ChipSleep
      · have hsleeps : psTyp.sleeps = true := by
          simpa [HostCall.untimely, htimely'] using htimely
        exact hrests₁.imp_left fun h => ⟨hsleeps, h.2⟩
      · exact .inr (hawake htimely')
  | flowCtrl stop => exact .inr hrests

/-! ## Interrupts -/

theorem used_bind {α β : Type} {r : Routine α} {f : α → Routine β} {g : Globals} {s : Watch}
    (h : Quiet r) (hs : Used s)
    (hf : ∀ a g t, Used t → Ends Uses (f a) g t fun _ _ t => Used t) :
    Ends Uses (r >>= f) g s fun _ _ t => Used t :=
  (h.used hs).bind hf

theorem callBack_ends (u8OpCode : UInt8) (u16DataSize : UInt16) (u32Addr : UInt32) :
    ∀ cb : Option HifCallBack,
      Keeps Uses (fun _ t => Used t) (callBack u8OpCode u16DataSize u32Addr cb)
  | some _ => .interp (fun _ _ _ => nestedCall_ends) _
  | none => .pure _

theorem handOn_ends (hdr : Header) (grp : Group) (address : UInt32) {g : Globals} {s : Watch}
    (hs : Used s) : Ends Uses (handOn hdr grp address) g s fun _ _ t => Used t := by
  refine used_bind (Quiet.act rfl) hs fun _ g₁ s₁ hs₁ => ?_
  refine ends_bind.mpr (ends_get.mpr ((callBack_ends _ _ _ _ _ _ hs₁).bind fun _ g₂ s₂ hs₂ => ?_))
  exact Quiet.giveBack.used hs₂

theorem takeMessage_ends (size : UInt16) {g : Globals} {s : Watch} (hs : Used s) :
    Ends Uses (takeMessage size) g s fun _ _ t => Used t := by
  have hgive (ret : Int) : Quiet (do nmBspInterruptCtrl true; return ret) :=
    (Quiet.interruptCtrl true).bind fun _ => Quiet.pure ret
  refine used_bind (Quiet.readReg _) hs fun address g₁ s₁ hs₁ => ?_
  split
  · exact (hgive _).used hs₁
  · refine used_bind (Quiet.bus rfl) hs₁ fun part g₂ s₂ hs₂ => ?_
    split
    · exact (hgive _).used hs₂
    · dsimp only
      split
      · exact (hgive _).used hs₂
      · split
        · exact hs₂
        · exact (handOn_ends _ _ _ hs₂).bind fun _ _ _ h => h

theorem isrAwake_ends {g : Globals} {s : Watch} (hs : Used s) :
    Ends Uses isrAwake g s fun _ _ t => Used t := by
  refine used_bind (Quiet.readReg _) hs fun reg g₁ s₁ hs₁ => ?_
  split
  · exact hs₁
  · split
    · exact hs₁
    · refine used_bind (Quiet.interruptCtrl false) hs₁ fun _ g₂ s₂ hs₂ => ?_
      refine used_bind (Quiet.writeReg _ (by decide)) hs₂ fun ret g₃ s₃ hs₃ => ?_
      split
      · exact hs₃
      · refine ends_bind.mpr (ends_modify.mpr ?_)
        dsimp only
        split
        · exact hs₃
        · exact takeMessage_ends _ hs₃

theorem hifIsr_ends {g : Globals} {s : Watch} (hs : Settled g s) :
    Ends Uses hifIsr g s fun _ g t => Settled g t := by
  refine ends_or spoiled_absorbing fun hclean => ?_
  refine (hifChipWake_ends (hs.resolve_left hclean)).bind ?_
  rintro ret g₁ s₁ ⟨-, hmode, hwoken⟩
  split
  · rename_i hret
    rw [if_neg hret] at hwoken
    exact .inr (.inl ⟨by rw [hmode]; exact hwoken.2.2, hwoken.1.trans hwoken.2.1⟩)
  · rename_i hret
    rw [if_pos (not_not.mp hret)] at hwoken
    refine (isrAwake_ends (.inr hwoken.2)).bind fun ret' g₂ s₂ hs₂ => ?_
    split
    · exact hs₂.settled g₂
    · refine ends_or spoiled_absorbing fun hclean₂ => ?_
      refine (hifChipSleep_ends (hs₂.resolve_left hclean₂)).mono ?_
      rintro _ g₃ s₃ ⟨-, -, -, hpower⟩
      refine .inr ?_
      rw [Rests, hpower]
      split
      · rename_i hlast
        exact .inl ⟨hlast.2, hlast.1⟩
      · exact .inr rfl

theorem hifIsrAgain_ends :
    ∀ (again : Nat) {g : Globals} {s : Watch}, Settled g s →
      Ends Uses (hifIsrAgain again) g s fun _ g t => Settled g t
  | 0, _, _, hs => (hifIsr_ends hs).bind fun _ _ _ h => h
  | again + 1, _, _, hs => by
      refine (hifIsr_ends hs).bind fun ret g₁ s₁ hs₁ => ?_
      split
      · exact hs₁
      · exact hifIsrAgain_ends again hs₁

theorem hifHandleIsr_ends (again : Nat) :
    ∀ (turns : Nat) {g : Globals} {s : Watch}, Settled g s →
      Ends Uses (hifHandleIsr again turns) g s fun _ g t => Settled g t
  | 0, _, _, hs => hs
  | turns + 1, g, s, hs => by
      refine ends_bind.mpr (ends_get.mpr ?_)
      split
      · exact hs
      · refine ends_bind.mpr (ends_modify.mpr ?_)
        have hs : Settled { g with gu8Interrupt := g.gu8Interrupt - 1 } s := hs
        refine (hifIsrAgain_ends again hs).bind fun done g₁ s₁ hs₁ => ?_
        split
        · exact hifHandleIsr_ends again turns hs₁
        · exact hs₁

/-! ## Every application -/

theorem appCall_ends {q : AppCall} {g : Globals} {s : Watch} (hs : Settled g s) :
    Ends Uses (appCall q) g s fun _ g t => Settled g t := by
  cases q with
  | host q => exact outerCall_ends hs
  | handleIsr again turns => exact (hifHandleIsr_ends again turns hs).bind fun _ _ _ h => h
  | registerCb grp fn => exact hs
  | idle =>
      have hbears : s.power.bears .idle := by cases s.power <;> rfl
      refine (bus_ends hbears).bind ?_
      rintro _ g₁ _ ⟨hsame, rfl⟩
      exact hs.imp_right fun h => h.same hsame

end HostIf

end Winc1500
