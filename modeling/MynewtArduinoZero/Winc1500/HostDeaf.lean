import MynewtArduinoZero.Winc1500.HostMailbox

/-!
# A message for nobody

`hif_isr` fails on a message whose group has no callback, with the interrupt
masked and the message's bit in `WIFI_HOST_RCV_CTRL_0` cleared.  `hif_handle_isr`
tries again, takes the interrupt for a false one and reports success.  The memory
of the message is not given back and the interrupt stays masked, so that nothing
the application does makes the host interface hand on a message any more.
-/

namespace Winc1500

namespace HostIf

open Hif Dialogue Dialogue.Routine

theorem ctrl0_old (x : UInt32) : (x <<< 2) &&& 0x1 = 0 := by
  have hmask : ∀ i (hi : i < 32), 0 < i → (1#32)[i] = false := by decide
  refine UInt32.toBitVec_inj.mp (BitVec.eq_of_getElem_eq fun i hi => ?_)
  cases i with
  | zero => simp
  | succ i => simp [hmask (i + 1) hi (Nat.succ_pos i)]

/-- The message for nobody is in its memory, the interrupt is masked and not counted,
`WIFI_HOST_RCV_CTRL_0` is `v`, and what has been handed on is `hs`. -/
structure Deaf (p : Post) (v : UInt32) (hs : List Handing) (g : Globals) (c : Chip) : Prop where
  masked : Masked g c
  current : c.current = some p
  ctrl0 : c.ctrl0 = v
  handed : c.handed = hs

namespace Deaf

variable {p : Post} {v : UInt32} {hs : List Handing} {g g' : Globals} {c c₁ : Chip}

theorem held (h : Deaf p v hs g c) : c.current ≠ none := by
  rw [h.current]
  exact Option.some_ne_none p

theorem congr (h : Deaf p v hs g c) (hg : g'.gu8Interrupt = g.gu8Interrupt) : Deaf p v hs g' c :=
  ⟨h.masked.congr hg, h.current, h.ctrl0, h.handed⟩

theorem moves (h : Deaf p v hs g c) (hmoves : c.Moves c₁) : Deaf p v hs g c₁ := by
  cases hmoves with
  | rest => exact h
  | post _ free => exact absurd free h.held

theorem bus {a : Act} (ha : a.aside) : Keeps Answers (Deaf p v hs) (bus a) := by
  intro g c h
  have hacted := Chip.acted_aside ha c
  refine (bus_held h.held (.inl (by rw [hacted]; exact h.masked.enabled))).mono ?_
  rintro x g' t ⟨-, -, rfl, ht⟩
  rw [ht, hacted]
  exact h

/-! ## An interrupt for nobody -/

theorem isrAwake_new (h : Deaf p p.ctrl0 hs g c) (hnobody : p.grp = none) :
    Ends Answers isrAwake g c fun ret g t =>
      ret = m2mErrBusFail ∧ Deaf p (p.size.toUInt32 <<< 2) hs g t := by
  refine HostIf.isrAwake_new h.masked h.current h.ctrl0 ?_
  have hmasked : Masked { g with gu8HifSizeDone := false }
      { c with ctrl0 := p.size.toUInt32 <<< 2 } :=
    ⟨h.masked.counted, h.masked.enabled, h.masked.line⟩
  refine takeMessage_header hmasked h.current ?_
  rw [hnobody]
  exact ⟨rfl, hmasked, h.current, rfl, h.handed⟩

theorem isrAwake_old (h : Deaf p (p.size.toUInt32 <<< 2) hs g c) :
    Ends Answers isrAwake g c fun ret g t =>
      ret = m2mSuccess ∧ Deaf p (p.size.toUInt32 <<< 2) hs g t := by
  refine (readReg_held h.masked h.held _).bind ?_
  rintro reg g₁ c₁ ⟨hret, htells, rfl, rfl⟩
  rw [if_neg (not_not.mpr hret), htells.1 rfl, h.ctrl0, if_pos (ctrl0_old _)]
  exact ⟨rfl, h⟩

/-- The chip woken before `hif_isr`'s work. -/
theorem wake (h : Deaf p v hs g c) :
    Ends Answers hifChipWake g c fun ret g t => ret = m2mSuccess ∧ Deaf p v hs g t :=
  (hifChipWake_ok g c).and
    (hifChipWake_keeps (fun _ ha => Deaf.bus (Act.aside_of_power ha))
      (fun _ _ _ h => h.congr rfl) g c h)

theorem hifIsr_new (h : Deaf p p.ctrl0 hs g c) (hnobody : p.grp = none) :
    Ends Answers hifIsr g c fun ret g t =>
      ret ≠ m2mSuccess ∧ Deaf p (p.size.toUInt32 <<< 2) hs g t := by
  refine h.wake.bind ?_
  rintro ret g₁ c₁ ⟨hret, h₁⟩
  rw [if_neg (not_not.mpr hret)]
  refine (h₁.isrAwake_new hnobody).bind ?_
  rintro _ g₂ c₂ ⟨rfl, h₂⟩
  exact ⟨(by decide : m2mErrBusFail ≠ m2mSuccess), h₂⟩

theorem hifIsr_old (h : Deaf p (p.size.toUInt32 <<< 2) hs g c) :
    Ends Answers hifIsr g c fun ret g t =>
      ret = m2mSuccess ∧ Deaf p (p.size.toUInt32 <<< 2) hs g t := by
  refine h.wake.bind ?_
  rintro ret g₁ c₁ ⟨hret, h₁⟩
  rw [if_neg (not_not.mpr hret)]
  refine h₁.isrAwake_old.bind ?_
  rintro ret' g₂ c₂ ⟨hret', h₂⟩
  rw [if_neg (not_not.mpr hret')]
  exact (hifChipSleep_ok g₂ c₂).and
    (hifChipSleep_keeps (fun _ ha => Deaf.bus (Act.aside_of_power ha))
      (fun _ _ _ h => h.congr rfl) g₂ c₂ h₂)

theorem hifIsrAgain (h : Deaf p (p.size.toUInt32 <<< 2) hs g c) :
    ∀ again, Ends Answers (hifIsrAgain again) g c fun done g t =>
      done = true ∧ Deaf p (p.size.toUInt32 <<< 2) hs g t
  | 0 => h.hifIsr_old.bind fun _ _ _ h => ⟨decide_eq_true h.1, h.2⟩
  | _ + 1 => by
      refine h.hifIsr_old.bind ?_
      rintro ret g₁ c₁ ⟨hret, h₁⟩
      rw [if_pos hret]
      exact ⟨rfl, h₁⟩

/-! ## Deaf for good -/

theorem outerCall (q : HostCall) :
    Keeps Answers (fun g c => c.spoiled = true ∨ Deaf p v hs g c) (hostCall false q) := by
  refine hostCall_keeps (fun _ _ _ h hm => h.moves hm) (fun _ => Deaf.bus)
    (fun _ _ _ h hg _ => h.congr hg) ?_ q
  intro _ _ _ _ _ _ _ hnested
  cases hnested

theorem hifHandleIsr (again turns : Nat) :
    Keeps Answers (Deaf p v hs) (hifHandleIsr again turns) := by
  cases turns with
  | zero => exact .pure _
  | succ turns =>
      intro g c h
      refine ends_bind.mpr (ends_get.mpr ?_)
      rw [if_pos (.inl h.masked.counted)]
      exact h

theorem appCall (q : AppCall) :
    Keeps Answers (fun g c => c.spoiled = true ∨ Deaf p v hs g c) (appCall q) := by
  intro g c hc
  refine ends_or outOfTime_absorbing fun hclean => ?_
  have h := hc.resolve_left hclean
  cases q with
  | host q => exact outerCall q g c (.inr h)
  | handleIsr again turns =>
      exact (Deaf.hifHandleIsr again turns g c h).bind fun _ _ _ => .inr
  | registerCb grp fn => exact .inr (h.congr rfl)
  | idle => exact (Deaf.bus rfl g c h).bind fun _ _ _ => .inr

end Deaf

/-- A message for nobody, its interrupt counted. -/
structure Stray (p : Post) (g : Globals) (c : Chip) : Prop where
  nobody : p.grp = none
  counted : g.gu8Interrupt = 1
  flowing : g.gu8FlowCtrl = false
  masked : c.enabled = false
  line : c.line = false
  current : c.current = some p
  ctrl0 : c.ctrl0 = p.ctrl0

/-- `hif_handle_isr` succeeds on a message for nobody at its second trial, and nothing is handed on
after that, whatever the application does, unless it calls `hif_receive` outside of a callback. -/
theorem deaf_after_stray {p : Post} {g : Globals} {c : Chip} (h : Stray p g c) (again turns : Nat)
    (d : Dialogue AppCall HostAnswer Unit) :
    Ends Answers (do
      let done ← hifHandleIsr (again + 1) (turns + 2)
      d.interp appCall
      return done) g c fun done g t =>
        t.spoiled = true ∨ (done = true ∧ t.handed = c.handed ∧ t.enabled = false ∧
          g.gu8Interrupt = 0) := by
  refine Ends.bind (p := fun done g t =>
    done = true ∧ Deaf p (p.size.toUInt32 <<< 2) c.handed g t) ?_ ?_
  · refine ends_bind.mpr (ends_get.mpr ?_)
    have hgoing : ¬ (g.gu8Interrupt = 0 ∨ g.gu8FlowCtrl = true) := by
      rw [h.counted, h.flowing]
      decide
    rw [if_neg hgoing]
    refine ends_bind.mpr (ends_modify.mpr (ends_bind.mpr ?_))
    have hcounted : g.gu8Interrupt - 1 = 0 := by
      rw [h.counted]
      rfl
    have hdeaf : Deaf p p.ctrl0 c.handed { g with gu8Interrupt := g.gu8Interrupt - 1 } c :=
      ⟨⟨hcounted, h.masked, h.line⟩, h.current, h.ctrl0, rfl⟩
    refine (hdeaf.hifIsr_new h.nobody).bind ?_
    rintro ret g₁ c₁ ⟨hret, h₁⟩
    rw [if_neg hret]
    refine (h₁.hifIsrAgain again).mono ?_
    rintro _ g₂ c₂ ⟨rfl, h₂⟩
    rw [if_pos rfl]
    refine ends_bind.mpr (ends_get.mpr ?_)
    rw [if_pos (.inl h₂.masked.counted)]
    exact ⟨rfl, h₂⟩
  · rintro done g₁ c₁ ⟨hdone, h₁⟩
    refine (Keeps.interp Deaf.appCall d g₁ c₁ (.inr h₁)).bind fun _ g₂ c₂ h₂ => ?_
    exact h₂.imp_right fun h₂ => ⟨hdone, h₂.handed, h₂.masked.enabled, h₂.masked.counted⟩

/-- Eight bytes for `M2M_REQ_GROUP_HIF`. -/
def hifPost : Post where
  memory := fun i => if i = 0 then 3 else if i = 2 then 8 else 0
  size := 8
  address := 0x1000
  grp := none
  sized := by decide
  sound := by decide
  chosen := by decide

def strayGlobals : Globals := ⟨.noPs, 0, false, 1, false, fun _ => none⟩

def strayChip : Chip := ⟨hifPost.ctrl0, some hifPost, false, false, [hifPost], [], false⟩

theorem deaf_after_stray_hif :
    Ends Answers (do
      let done ← hifHandleIsr 1 2
      Dialogue.interp appCall (.ask .idle fun _ => .done ())
      return done) strayGlobals strayChip fun done g t =>
        t.spoiled = true ∨ (done = true ∧ t.handed = [] ∧ t.enabled = false ∧
          g.gu8Interrupt = 0) :=
  deaf_after_stray ⟨rfl, rfl, rfl, rfl, rfl, rfl, rfl⟩ 0 0 (.ask .idle fun _ => .done ())

end HostIf

end Winc1500
