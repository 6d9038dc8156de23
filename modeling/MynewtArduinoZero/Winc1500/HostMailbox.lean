import MynewtArduinoZero.Winc1500.HostInterface

/-!
# The mailbox of the chip

The chip leaves a message in its memory, tells its size and address in
`WIFI_HOST_RCV_CTRL_0` and `WIFI_HOST_RCV_CTRL_1`, and interrupts.  `isr` masks
the interrupt and counts it, `hif_handle_isr` takes the message and hands it to
the callback of its group, and `hif_set_rx_done` gives the memory back and enables
the interrupt again.  The chip leaves the next message only then.

Over a bus that does not fail, each message is handed on once and in the order
they were left, and none is forgotten: while one waits, the interrupt is on its way
or counted.  This holds for every application and every callback, at any moment at
which the chip may leave a message or interrupt, as long as none receives outside
of a callback or after the memory has been given back.
-/

namespace Winc1500

namespace HostIf

open Hif Dialogue Dialogue.Routine

/-! ## Messages -/

/-- A message as the chip may leave it, for a group with a callback or for none. -/
structure Post where
  memory : Nat → UInt8
  size : UInt16
  address : UInt32
  grp : Option Group
  sized : 4 ≤ size.toNat ∧ size.toNat < 4096
  sound : (Header.ofBlock memory).corrupted size = false
  chosen : Group.ofGid (Header.ofBlock memory).u8Gid = grp

/-- `WIFI_HOST_RCV_CTRL_0` for a new message. -/
def Post.ctrl0 (p : Post) : UInt32 := p.size.toUInt32 <<< 2 ||| 0x1

/-- What a callback is told of a message. -/
structure Handing where
  grp : Option Group
  u8OpCode : UInt8
  u16DataSize : UInt16
  u32Addr : UInt32
deriving DecidableEq, Repr

def Post.handing (p : Post) : Handing :=
  ⟨p.grp, (Header.ofBlock p.memory).u8Opcode,
    (Header.ofBlock p.memory).u16Length - m2mHifHdrOffset, p.address + m2mHifHdrOffset.toUInt32⟩

/-! ## The chip -/

structure Chip where
  /-- `WIFI_HOST_RCV_CTRL_0`. -/
  ctrl0 : UInt32
  /-- The message whose memory has not been given back. -/
  current : Option Post
  /-- The interrupt is enabled. -/
  enabled : Bool
  /-- The chip has interrupted, and `isr` has not run. -/
  line : Bool
  /-- The messages left so far. -/
  posted : List Post
  /-- The messages handed on so far. -/
  handed : List Handing
  /-- `hif_receive` has been called at a bad time. -/
  spoiled : Bool

/-- The chip leaves a message for one of the callbacks, when it has its memory. -/
inductive Chip.Moves : Chip → Chip → Prop where
  | rest (c : Chip) : c.Moves c
  | post (c : Chip) (p : Post) (free : c.current = none) (known : p.grp.isSome) :
      c.Moves { c with
        ctrl0 := p.ctrl0
        current := some p
        line := true
        posted := c.posted ++ [p] }

/-- What an act of the host does. -/
def Chip.acted (c : Chip) : Act → Chip
  | .writeReg addr val =>
      if addr = wifiHostRcvCtrl0 then
        { c with ctrl0 := val, current := if val &&& 0x2 ≠ 0 then none else c.current }
      else c
  | .interruptCtrl enable => { c with enabled := enable }
  | .dispatched grp u8OpCode u16DataSize u32Addr =>
      { c with handed := c.handed ++ [⟨some grp, u8OpCode, u16DataSize, u32Addr⟩] }
  | .entered (.receive ..) nested _ _ gu8HifSizeDone =>
      { c with spoiled := c.spoiled || !nested || gu8HifSizeDone }
  | _ => c

/-- The answer tells what is in the registers of the mailbox and in the memory of the message. -/
def Chip.Tells (c : Chip) (a : Act) (x : Answer) : Prop :=
  match a with
  | .readReg addr =>
      (addr = wifiHostRcvCtrl0 → x.value = c.ctrl0) ∧
        (addr = wifiHostRcvCtrl1 → ∀ p, c.current = some p → x.value = p.address)
  | .readBlock addr _ =>
      ∀ p, c.current = some p → ∀ i, (addr - p.address).toNat + i < p.size.toNat →
        x.block i = p.memory ((addr - p.address).toNat + i)
  | _ => True

/-- The act takes time, and is no mark. -/
def Act.timed : Act → Bool
  | .entered .. | .dispatched .. => false
  | _ => true

/-- An answer of the chip over a bus that does not fail.  The chip may interrupt while the
interrupt is enabled. -/
def Answers (c : Chip) (a : Act) (x : Answer) (t : Chip) : Prop :=
  x.ok = true ∧ ∃ c₁, c.Moves c₁ ∧ c₁.Tells a x ∧
    if x.irq then a.timed ∧ (c₁.acted a).enabled ∧ (c₁.acted a).line ∧
      t = { c₁.acted a with line := false }
    else t = c₁.acted a

theorem Chip.exists_tells (c : Chip) (a : Act) :
    ∃ value block, c.Tells a ⟨true, value, block, false⟩ := by
  cases a with
  | readReg addr =>
      by_cases h : addr = wifiHostRcvCtrl0
      · refine ⟨c.ctrl0, fun _ => 0, fun _ => rfl, fun h' => ?_⟩
        exact absurd (h.symm.trans h') (by decide)
      · refine ⟨(c.current.map Post.address).getD 0, fun _ => 0, fun h' => absurd h' h, ?_⟩
        rintro - p hp
        rw [hp]
        rfl
  | readBlock addr sz =>
      cases hp : c.current with
      | none => exact ⟨0, fun _ => 0, fun p hp' => absurd (hp.symm.trans hp') (by simp)⟩
      | some p =>
          refine ⟨0, fun i => p.memory ((addr - p.address).toNat + i), fun p' hp' i _ => ?_⟩
          cases hp.symm.trans hp'
          rfl
  | _ => exact ⟨0, fun _ => 0, trivial⟩

theorem exists_answers (c : Chip) (a : Act) : ∃ x t, Answers c a x t := by
  obtain ⟨value, block, h⟩ := c.exists_tells a
  exact ⟨_, _, rfl, c, .rest c, h, rfl⟩

/-! ## Bits of the registers -/

theorem ctrl0_new (x : UInt32) : (x <<< 2 ||| 0x1) &&& 0x1 ≠ 0 := by
  intro h
  have hbit := congrArg (fun b : UInt32 => b.toBitVec.getLsbD 0) h
  simp at hbit

theorem ctrl0_cleared (x : UInt32) : ((x <<< 2 ||| 0x1) &&& ~~~ 0x1 : UInt32) = x <<< 2 := by
  have hmask : ∀ i (hi : i < 32), 0 < i → (4294967294#32)[i] = true := by decide
  refine UInt32.toBitVec_inj.mp (BitVec.eq_of_getElem_eq fun i hi => ?_)
  cases i with
  | zero => simp
  | succ i => simp [hmask (i + 1) hi (Nat.succ_pos i)]

theorem ctrl0_not_done (x : UInt32) : (x <<< 2) &&& 0x2 = 0 := by
  have hmask : ∀ i (hi : i < 32), 2 ≤ i → (2#32)[i] = false := by decide
  refine UInt32.toBitVec_inj.mp (BitVec.eq_of_getElem_eq fun i hi => ?_)
  by_cases hle : 2 ≤ i
  · simp [hmask i hi hle]
  · simp [Nat.not_le.mp hle]

theorem ctrl0_done (x : UInt32) : (x ||| 0x2) &&& 0x2 ≠ 0 := by
  intro h
  have hbit := congrArg (fun b : UInt32 => b.toBitVec.getLsbD 1) h
  simp at hbit

theorem rxSize_shift {size : UInt16} (h : size.toNat < 4096) :
    rxSize (size.toUInt32 <<< 2) = size := by
  refine UInt16.toNat_inj.mp ?_
  have hmask (n : Nat) : n &&& 4095 = n % 4096 := Nat.and_two_pow_sub_one_eq_mod n 12
  show ((size.toNat <<< 2 % 2 ^ 32) >>> 2 &&& 4095) % 2 ^ 16 = size.toNat
  rw [hmask, Nat.shiftLeft_eq, Nat.shiftRight_eq_div_pow]
  omega

/-! ## Where a message is on its way -/

/-- The message has not been handed on, and all before it have. -/
structure Waits (p : Post) (c : Chip) : Prop where
  known : p.grp.isSome
  current : c.current = some p
  handed : ∃ earlier, c.posted = earlier ++ [p] ∧ c.handed = earlier.map Post.handing

/-- All messages have been handed on. -/
def Done (c : Chip) : Prop := c.handed = c.posted.map Post.handing

/-- Between the calls: no message waits, or one does and the interrupt is on its way, or one does
and is counted. -/
inductive Rest (g : Globals) (c : Chip) : Prop where
  | idle (counted : g.gu8Interrupt = 0) (enabled : c.enabled = true) (line : c.line = false)
      (current : c.current = none) (done : Done c)
  | raised (p : Post) (counted : g.gu8Interrupt = 0) (enabled : c.enabled = true)
      (line : c.line = true) (ctrl0 : c.ctrl0 = p.ctrl0) (waits : Waits p c)
  | noted (p : Post) (counted : g.gu8Interrupt = 1) (enabled : c.enabled = false)
      (line : c.line = false) (ctrl0 : c.ctrl0 = p.ctrl0) (waits : Waits p c)

/-- The interrupt is masked and not counted: a message is being taken. -/
structure Masked (g : Globals) (c : Chip) : Prop where
  counted : g.gu8Interrupt = 0
  enabled : c.enabled = false
  line : c.line = false

theorem Rest.congr {g g' : Globals} {c : Chip} (h : Rest g c)
    (hg : g'.gu8Interrupt = g.gu8Interrupt) : Rest g' c := by
  cases h with
  | idle counted enabled line current done =>
      exact .idle (hg.trans counted) enabled line current done
  | raised p counted enabled line ctrl0 waits =>
      exact .raised p (hg.trans counted) enabled line ctrl0 waits
  | noted p counted enabled line ctrl0 waits =>
      exact .noted p (hg.trans counted) enabled line ctrl0 waits

theorem Masked.congr {g g' : Globals} {c : Chip} (h : Masked g c)
    (hg : g'.gu8Interrupt = g.gu8Interrupt) : Masked g' c :=
  ⟨hg.trans h.counted, h.enabled, h.line⟩

/-! ## Acts -/

theorem act_answers {g : Globals} {c : Chip} {a : Act}
    {post : Answer → Globals → Chip → Prop}
    (h : ∀ x t, Answers c a x t → post x g t) : Ends Answers (act a) g c post :=
  ends_call.mpr ⟨exists_answers c a, h⟩

/-- An act while the chip can neither leave a message nor interrupt. -/
theorem act_held {g : Globals} {c : Chip} {a : Act} (hheld : c.current ≠ none)
    (hmasked : (c.acted a).enabled = false ∨ (c.acted a).line = false) :
    Ends Answers (act a) g c fun x g' t =>
      x.ok = true ∧ x.irq = false ∧ c.Tells a x ∧ g' = g ∧ t = c.acted a := by
  refine act_answers ?_
  rintro x t ⟨hok, c₁, hmoves, htells, hirq⟩
  cases hmoves with
  | post _ free => exact absurd free hheld
  | rest =>
      split at hirq
      · obtain ⟨-, henabled, hline, -⟩ := hirq
        rw [henabled, hline] at hmasked
        exact absurd hmasked (by decide)
      · rename_i hirq'
        exact ⟨hok, Bool.not_eq_true _ ▸ hirq', htells, rfl, hirq⟩

theorem bus_of_act {g : Globals} {c : Chip} {a : Act} {post : Answer → Globals → Chip → Prop}
    (h : Ends Answers (act a) g c fun x g t => x.irq = false ∧ post x g t) :
    Ends Answers (bus a) g c post := by
  refine h.bind ?_
  rintro x g' t ⟨hirq, hpost⟩
  rw [if_neg (by rw [hirq]; exact Bool.false_ne_true)]
  exact hpost

theorem bus_held {g : Globals} {c : Chip} {a : Act} (hheld : c.current ≠ none)
    (hmasked : (c.acted a).enabled = false ∨ (c.acted a).line = false) :
    Ends Answers (bus a) g c fun x g' t =>
      x.ok = true ∧ c.Tells a x ∧ g' = g ∧ t = c.acted a := by
  refine bus_of_act ((act_held hheld hmasked).mono ?_)
  rintro x g' t ⟨hok, hirq, htells, hg, ht⟩
  exact ⟨hirq, hok, htells, hg, ht⟩

theorem bus_answers {g : Globals} {c : Chip} {a : Act} {post : Answer → Globals → Chip → Prop}
    (h : ∀ x t, Answers c a x t →
      if x.irq then Ends Answers isr g t fun _ g' t' => post x g' t' else post x g t) :
    Ends Answers (bus a) g c post := by
  refine ends_bind.mpr (act_answers fun x t hx => ?_)
  have hx := h x t hx
  split
  · rename_i hirq
    rw [if_pos hirq] at hx
    exact hx.bind fun _ _ _ h => h
  · rename_i hirq
    rwa [if_neg hirq] at hx

/-! ### Between the calls -/

theorem Rest.moves {g : Globals} {c c₁ : Chip} (h : Rest g c) (hmoves : c.Moves c₁) :
    Rest g c₁ := by
  cases hmoves with
  | rest => exact h
  | post p free known =>
      cases h with
      | idle counted enabled line current done =>
          exact .raised p counted enabled rfl rfl ⟨known, rfl, c.posted, rfl, done⟩
      | raised p' counted enabled line ctrl0 waits => cases free.symm.trans waits.current
      | noted p' counted enabled line ctrl0 waits => cases free.symm.trans waits.current

/-- The variable `gu8HifSizeDone` is as given, and the chip is at rest. -/
def Resting (b : Bool) (g : Globals) (c : Chip) : Prop := g.gu8HifSizeDone = b ∧ Rest g c

/-- `isr` counts an interrupt that was on its way. -/
theorem isr_noted {b : Bool} {p : Post} {g : Globals} {c : Chip} (hb : g.gu8HifSizeDone = b)
    (counted : g.gu8Interrupt = 0) (line : c.line = false) (ctrl0 : c.ctrl0 = p.ctrl0)
    (waits : Waits p c) : Ends Answers isr g c fun _ g' t => Resting b g' t := by
  have hheld : c.current ≠ none := by
    rw [waits.current]
    exact Option.some_ne_none p
  refine ends_bind.mpr (ends_modify.mpr ((act_held hheld (.inl rfl)).bind ?_))
  rintro x _ _ ⟨-, -, -, rfl, rfl⟩
  refine ⟨hb, .noted p ?_ rfl line ctrl0 ⟨waits.known, waits.current, waits.handed⟩⟩
  show g.gu8Interrupt + 1 = 1
  rw [counted]
  rfl

/-- At rest, with an interrupt or without. -/
theorem Rest.answered {b : Bool} {g : Globals} {c t : Chip} (hb : g.gu8HifSizeDone = b)
    (h : Rest g c) {irq timed : Bool}
    (hirq : if irq then timed ∧ c.enabled ∧ c.line ∧ t = { c with line := false } else t = c) :
    if irq then Ends Answers isr g t fun _ g' t => Resting b g' t else Resting b g t := by
  cases irq with
  | false =>
      cases hirq
      exact ⟨hb, h⟩
  | true =>
      obtain ⟨-, henabled, hline, rfl⟩ := hirq
      cases h with
      | idle counted enabled line current done => cases line.symm.trans hline
      | raised p counted enabled line ctrl0 waits =>
          exact isr_noted hb counted rfl ctrl0 ⟨waits.known, waits.current, waits.handed⟩
      | noted p counted enabled line ctrl0 waits => cases enabled.symm.trans henabled

theorem Chip.acted_aside {a : Act} (h : a.aside) (c : Chip) : c.acted a = c := by
  cases a with
  | writeReg addr val => exact if_neg (of_decide_eq_true h)
  | interruptCtrl | entered | dispatched => cases h
  | _ => rfl

theorem bus_resting {a : Act} (h : a.aside) (b : Bool) : Keeps Answers (Resting b) (bus a) := by
  rintro g c ⟨hb, hrest⟩
  refine bus_answers ?_
  rintro x t ⟨-, c₁, hmoves, -, hirq⟩
  rw [Chip.acted_aside h] at hirq
  exact (hrest.moves hmoves).answered hb hirq

/-- The interrupt enabled, when the memory of the last message has been given back. -/
theorem enable_resting {g : Globals} {c : Chip} (h : Masked g c) (hfree : c.current = none)
    (hdone : Done c) :
    Ends Answers (nmBspInterruptCtrl true) g c fun _ g' t => Resting g.gu8HifSizeDone g' t := by
  refine Ends.bind (p := fun _ g' t => Resting g.gu8HifSizeDone g' t) (bus_answers ?_)
    fun _ _ _ h => h
  rintro x t ⟨-, c₁, hmoves, -, hirq⟩
  refine Rest.answered rfl ?_ hirq
  cases hmoves with
  | rest => exact .idle h.counted rfl h.line hfree hdone
  | post p free known => exact .raised p h.counted rfl rfl rfl ⟨known, rfl, c.posted, rfl, hdone⟩

/-! ### While a message is being taken -/

theorem ret_of_ok {x : Answer} (h : x.ok = true) : x.ret = m2mSuccess := by
  rw [Answer.ret, h]
  rfl

/-- A register read while a message is being taken. -/
theorem readReg_held {g : Globals} {c : Chip} (h : Masked g c) (hheld : c.current ≠ none)
    (addr : UInt32) :
    Ends Answers (nmReadRegWithRet addr) g c fun x g' t =>
      x.ret = m2mSuccess ∧ c.Tells (.readReg addr) x ∧ g' = g ∧ t = c := by
  refine (bus_held (a := .readReg addr) hheld (.inl h.enabled)).mono ?_
  rintro x g' t ⟨hok, htells, hg, ht⟩
  exact ⟨ret_of_ok hok, htells, hg, ht⟩

/-- `WIFI_HOST_RCV_CTRL_0` written while a message is being taken. -/
theorem writeCtrl0_held {g : Globals} {c : Chip} (h : Masked g c) (hheld : c.current ≠ none)
    (val : UInt32) :
    Ends Answers (nmWriteReg wifiHostRcvCtrl0 val) g c fun ret g' t =>
      ret = m2mSuccess ∧ g' = g ∧
        t = { c with ctrl0 := val, current := if val &&& 0x2 ≠ 0 then none else c.current } := by
  have hacted : c.acted (.writeReg wifiHostRcvCtrl0 val) =
      { c with ctrl0 := val, current := if val &&& 0x2 ≠ 0 then none else c.current } := rfl
  refine (bus_held hheld (.inl (by rw [hacted]; exact h.enabled))).bind ?_
  rintro x g' t ⟨hok, -, hg, ht⟩
  exact ⟨ret_of_ok hok, hg, ht.trans hacted⟩

/-- `hif_set_rx_done`, once the message has been handed on. -/
theorem hifSetRxDone_resting {g : Globals} {c : Chip} (h : Masked g c) (hheld : c.current ≠ none)
    (hdone : Done c) :
    Ends Answers hifSetRxDone g c fun _ g' t => Resting g.gu8HifSizeDone g' t := by
  refine (readReg_held h hheld _).bind ?_
  rintro reg g₁ c₁ ⟨hret, -, rfl, rfl⟩
  rw [if_neg (not_not.mpr hret)]
  refine (writeCtrl0_held h hheld _).bind ?_
  rintro ret g₂ c₂ ⟨hret', rfl, hc₂⟩
  rw [if_neg (not_not.mpr hret')]
  have hmasked : Masked g₂ c₂ := by
    rw [hc₂]
    exact ⟨h.counted, h.enabled, h.line⟩
  have hfree : c₂.current = none := by
    rw [hc₂]
    exact if_pos (ctrl0_done _)
  have hdone : Done c₂ := by
    rw [hc₂]
    exact hdone
  exact (enable_resting hmasked hfree hdone).bind fun _ _ _ h => h

/-- A message is being handed on, and its memory has not been given back. -/
structure Holding (g : Globals) (c : Chip) : Prop where
  masked : Masked g c
  held : c.current ≠ none
  done : Done c
  size : g.gu8HifSizeDone = false

/-- While a callback runs. -/
def Nested (g : Globals) (c : Chip) : Prop := Holding g c ∨ Resting true g c

theorem Holding.congr {g g' : Globals} {c : Chip} (h : Holding g c)
    (hg : g'.gu8Interrupt = g.gu8Interrupt) (hsize : g'.gu8HifSizeDone = g.gu8HifSizeDone) :
    Holding g' c :=
  ⟨h.masked.congr hg, h.held, h.done, hsize.trans h.size⟩

theorem Nested.congr {g g' : Globals} {c : Chip} (h : Nested g c)
    (hg : g'.gu8Interrupt = g.gu8Interrupt) (hsize : g'.gu8HifSizeDone = g.gu8HifSizeDone) :
    Nested g' c :=
  h.imp (fun h => h.congr hg hsize) fun h => ⟨hsize.trans h.1, h.2.congr hg⟩

theorem Holding.moves {g : Globals} {c c₁ : Chip} (h : Holding g c) (hmoves : c.Moves c₁) :
    c₁ = c := by
  cases hmoves with
  | rest => rfl
  | post p free known => exact absurd free h.held

theorem Nested.moves {g : Globals} {c c₁ : Chip} (h : Nested g c) (hmoves : c.Moves c₁) :
    Nested g c₁ := by
  obtain hhold | ⟨hb, hrest⟩ := h
  · rw [hhold.moves hmoves]
    exact .inl hhold
  · exact .inr ⟨hb, hrest.moves hmoves⟩

theorem bus_holding {a : Act} (h : a.aside) : Keeps Answers Holding (bus a) := by
  intro g c hhold
  have hacted := Chip.acted_aside h c
  refine (bus_held hhold.held (.inl (by rw [hacted]; exact hhold.masked.enabled))).mono ?_
  rintro x g' t ⟨-, -, rfl, ht⟩
  rw [ht, hacted]
  exact hhold

theorem bus_nested {a : Act} (h : a.aside) : Keeps Answers Nested (bus a) := by
  rintro g c (hhold | hrest)
  · exact (bus_holding h g c hhold).mono fun _ _ _ => .inl
  · exact (bus_resting h true g c hrest).mono fun _ _ _ => .inr

theorem sizeDone_nested {g : Globals} {c : Chip} (h : Holding g c) :
    Ends Answers sizeDone g c fun _ g' t => Nested g' t := by
  refine ends_bind.mpr (ends_modify.mpr ?_)
  have hmasked : Masked { g with gu8HifSizeDone := true } c := h.masked.congr rfl
  exact (hifSetRxDone_resting hmasked h.held h.done).mono fun _ _ _ => .inr

theorem hifReceive_nested {g : Globals} {c : Chip} (h : Holding g c) (u32Addr : UInt32)
    (pu8Buf : Bool) (u16Sz : UInt16) (isDone : Bool) :
    Ends Answers (hifReceive u32Addr pu8Buf u16Sz isDone) g c fun _ g' t => Nested g' t := by
  have hlast (bytes : List UInt8) : Ends Answers (do return ⟨← sizeDone, bytes⟩) g c
      fun (_ : HostAnswer) g' t => Nested g' t := (sizeDone_nested h).bind fun _ _ _ h => h
  have hkept : Nested g c := .inl h
  rw [hifReceive]
  split
  · split
    · exact hlast []
    · exact hkept
  · refine (readReg_held h.masked h.held _).bind ?_
    rintro reg _ _ ⟨hret, -, rfl, rfl⟩
    rw [if_neg (not_not.mpr hret)]
    refine (readReg_held h.masked h.held _).bind ?_
    rintro address _ _ ⟨hret', -, rfl, rfl⟩
    rw [if_neg (not_not.mpr hret')]
    split
    · exact hkept
    · refine (bus_held (a := .readBlock u32Addr u16Sz) h.held (.inl h.masked.enabled)).bind ?_
      rintro part _ _ ⟨hok, -, rfl, rfl⟩
      rw [if_neg (not_not.mpr (ret_of_ok hok))]
      split
      · exact hlast _
      · exact hkept

/-! ## Calls -/

theorem Chip.spoiled_acted {c : Chip} (h : c.spoiled = true) (a : Act) :
    (c.acted a).spoiled = true := by
  cases a with
  | writeReg addr val =>
      simp only [Chip.acted]
      split
      · exact h
      · exact h
  | entered q nested mode gu8ChipSleep gu8HifSizeDone =>
      cases q with
      | receive => simp [Chip.acted, h]
      | _ => exact h
  | _ => exact h

theorem outOfTime_absorbing : Absorbing Answers fun c => c.spoiled = true := by
  intro c a hc
  refine ⟨exists_answers c a, ?_⟩
  rintro x t ⟨-, c₁, hmoves, -, hirq⟩
  have hc₁ : c₁.spoiled = true := by
    cases hmoves with
    | rest => exact hc
    | post p free known => exact hc
  split at hirq
  · obtain ⟨-, -, -, rfl⟩ := hirq
    exact Chip.spoiled_acted hc₁ a
  · rw [hirq]
    exact Chip.spoiled_acted hc₁ a

/-- `hif_receive` is called at a good time. -/
def HostCall.inTime (q : HostCall) (nested gu8HifSizeDone : Bool) : Prop :=
  match q with
  | .receive .. => nested = true ∧ gu8HifSizeDone = false
  | _ => True

/-- The mark of a call, and the call behind it. -/
theorem hostCall_answers {nested : Bool} {q : HostCall} {g : Globals} {c : Chip}
    {post : HostAnswer → Globals → Chip → Prop}
    (h : ∀ c₁, c.Moves c₁ → q.inTime nested g.gu8HifSizeDone →
      Ends Answers (callBody q) g c₁ fun a g t => t.spoiled = true ∨ post a g t) :
    Ends Answers (hostCall nested q) g c fun a g t => t.spoiled = true ∨ post a g t := by
  refine ends_bind.mpr (ends_get.mpr (ends_bind.mpr (act_answers ?_)))
  rintro x t ⟨-, c₁, hmoves, -, hirq⟩
  have ht : t = c₁.acted
      (.entered q nested g.gu8ChipMode g.gu8ChipSleep g.gu8HifSizeDone) := by
    split at hirq
    · cases hirq.1
    · exact hirq
  refine ends_or outOfTime_absorbing fun hclean => ?_
  cases q with
  | receive u32Addr pu8Buf u16Sz isDone =>
      rw [ht] at hclean
      simp only [Chip.acted, Bool.not_eq_true, Bool.or_eq_false_iff, Bool.not_eq_false'] at hclean
      obtain ⟨⟨hclean, hnested⟩, hsize⟩ := hclean
      have ht : t = c₁ := by
        rw [ht]
        simp only [Chip.acted, hnested, hsize, hclean]
        show { c₁ with spoiled := false } = c₁
        rw [← hclean]
      rw [ht]
      exact h c₁ hmoves ⟨hnested, hsize⟩
  | _ =>
      rw [ht]
      exact h c₁ hmoves trivial

/-- Every call in time, whoever makes it. -/
theorem hostCall_keeps {inv : Globals → Chip → Prop} {nested : Bool}
    (hmoves : ∀ g c c₁, inv g c → c.Moves c₁ → inv g c₁)
    (hbus : ∀ a : Act, a.aside → Keeps Answers inv (bus a))
    (hcongr : ∀ g g' c, inv g c → g'.gu8Interrupt = g.gu8Interrupt →
      g'.gu8HifSizeDone = g.gu8HifSizeDone → inv g' c)
    (hreceive : ∀ u32Addr pu8Buf u16Sz isDone g c, inv g c → nested = true →
      g.gu8HifSizeDone = false →
      Ends Answers (hifReceive u32Addr pu8Buf u16Sz isDone) g c fun _ g t => inv g t)
    (q : HostCall) :
    Keeps Answers (fun g c => c.spoiled = true ∨ inv g c) (hostCall nested q) := by
  have hsend (r : Message) : Keeps Answers inv (hifSend r) :=
    hifSend_keeps hbus (fun g c k h => hcongr g _ c h rfl rfl) r
  intro g c hc
  refine ends_or outOfTime_absorbing fun hclean => hostCall_answers fun c₁ hm htime => ?_
  have h : inv g c₁ := hmoves g c c₁ (hc.resolve_left hclean) hm
  cases q with
  | send r => exact (hsend r g c₁ h).bind fun _ _ _ h => .inr h
  | receive u32Addr pu8Buf u16Sz isDone =>
      refine (hreceive u32Addr pu8Buf u16Sz isDone g c₁ h htime.1 htime.2).mono ?_
      exact fun _ _ _ h => .inr h
  | setSleepMode psTyp r =>
      refine (hsend r g c₁ h).bind fun _ g' t h' => .inr ?_
      exact hcongr g' _ t h' rfl rfl
  | flowCtrl stop => exact .inr (hcongr g _ c₁ h rfl rfl)

theorem nestedCall_keeps (q : HostCall) :
    Keeps Answers (fun g c => c.spoiled = true ∨ Nested g c) (hostCall true q) := by
  refine hostCall_keeps (fun _ _ _ h hm => h.moves hm) (fun _ => bus_nested)
    (fun _ _ _ h hg hsize => h.congr hg hsize) ?_ q
  rintro u32Addr pu8Buf u16Sz isDone g c (hhold | ⟨hb, -⟩) - hsize
  · exact hifReceive_nested hhold u32Addr pu8Buf u16Sz isDone
  · cases hsize.symm.trans hb

theorem bus_rest {a : Act} (h : a.aside) : Keeps Answers Rest (bus a) :=
  fun g c hrest => (bus_resting h g.gu8HifSizeDone g c ⟨rfl, hrest⟩).mono fun _ _ _ h => h.2

theorem outerCall_keeps (q : HostCall) :
    Keeps Answers (fun g c => c.spoiled = true ∨ Rest g c) (hostCall false q) := by
  refine hostCall_keeps (fun _ _ _ h hm => h.moves hm) (fun _ => bus_rest)
    (fun _ _ _ h hg _ => h.congr hg) ?_ q
  intro _ _ _ _ _ _ _ hnested
  cases hnested

/-! ## Taking a message -/

theorem callBack_nested (u8OpCode : UInt8) (u16DataSize : UInt16) (u32Addr : UInt32) :
    ∀ cb : Option HifCallBack, Keeps Answers (fun g c => c.spoiled = true ∨ Nested g c)
      (callBack u8OpCode u16DataSize u32Addr cb)
  | some _ => .interp nestedCall_keeps _
  | none => .pure _

/-- The memory is given back once, by the callback or behind it. -/
theorem giveBack_rest {g : Globals} {c : Chip} (h : Nested g c) :
    Ends Answers giveBack g c fun _ g t => Rest g t := by
  refine ends_bind.mpr (ends_get.mpr ?_)
  obtain hhold | ⟨hb, hrest⟩ := h
  · rw [if_neg (by rw [hhold.size]; exact Bool.false_ne_true)]
    exact (hifSetRxDone_resting hhold.masked hhold.held hhold.done).bind fun _ _ _ h => h.2
  · rw [if_pos hb]
    exact hrest

theorem handOn_rest {p : Post} {grp : Group} {g : Globals} {c : Chip} (h : Masked g c)
    (hsize : g.gu8HifSizeDone = false) (hwaits : Waits p c) (hgrp : p.grp = some grp) :
    Ends Answers (handOn (Header.ofBlock p.memory) grp p.address) g c fun _ g t =>
      t.spoiled = true ∨ Rest g t := by
  obtain ⟨earlier, hposted, hhanded⟩ := hwaits.handed
  have hheld : c.current ≠ none := by
    rw [hwaits.current]
    exact Option.some_ne_none p
  let a := Act.dispatched grp (Header.ofBlock p.memory).u8Opcode
    ((Header.ofBlock p.memory).u16Length - m2mHifHdrOffset) (p.address + m2mHifHdrOffset.toUInt32)
  have hhanding : p.handing = ⟨some grp, (Header.ofBlock p.memory).u8Opcode,
      (Header.ofBlock p.memory).u16Length - m2mHifHdrOffset,
      p.address + m2mHifHdrOffset.toUInt32⟩ := by
    rw [Post.handing, hgrp]
  have hdone : Done (c.acted a) := by
    show c.handed ++ [⟨some grp, _, _, _⟩] = c.posted.map Post.handing
    rw [hposted, hhanded, List.map_append, ← hhanding]
    rfl
  refine (act_held (a := a) hheld (.inl h.enabled)).bind ?_
  rintro x g₁ c₁ ⟨-, -, -, rfl, rfl⟩
  have hhold : Holding g₁ (c.acted a) :=
    ⟨⟨h.counted, h.enabled, h.line⟩, hheld, hdone, hsize⟩
  refine ends_bind.mpr (ends_get.mpr ?_)
  refine (callBack_nested _ _ _ _ _ _ (.inr (.inl hhold))).bind fun _ g₂ c₂ h₂ => ?_
  refine ends_or outOfTime_absorbing fun hclean => ?_
  exact (giveBack_rest (h₂.resolve_left hclean)).mono fun _ _ _ => .inr

/-- The header as it is read. -/
theorem Post.header_eq (p : Post) {c : Chip} (hcurrent : c.current = some p) {x : Answer}
    (htells : c.Tells (.readBlock p.address 4) x) :
    Header.ofBlock x.block = Header.ofBlock p.memory := by
  have hoff : (p.address - p.address).toNat = 0 := by
    rw [UInt32.sub_self]
    rfl
  have hblock (i : Nat) (hi : i < 4) : x.block i = p.memory i := by
    have hread := htells p hcurrent i
      (by rw [hoff, Nat.zero_add]; exact Nat.lt_of_lt_of_le hi p.sized.1)
    rwa [hoff, Nat.zero_add] at hread
  have hlength : LittleEndian.le16At x.block 2 = LittleEndian.le16At p.memory 2 := by
    rw [LittleEndian.le16At, LittleEndian.le16At,
      Cells.bytesAt_congr fun i hi => hblock (2 + i) (by omega)]
  rw [Header.ofBlock, Header.ofBlock, hblock 0 (by decide), hblock 1 (by decide), hlength]

/-- A message is taken by its header. -/
theorem takeMessage_header {p : Post} {g : Globals} {c : Chip} (h : Masked g c)
    (hcurrent : c.current = some p) {post : Int → Globals → Chip → Prop}
    (hnext : Ends Answers (match p.grp with
      | none => return m2mErrBusFail
      | some grp => do
          handOn (Header.ofBlock p.memory) grp p.address
          return m2mSuccess) g c post) :
    Ends Answers (takeMessage p.size) g c post := by
  have hheld : c.current ≠ none := by
    rw [hcurrent]
    exact Option.some_ne_none p
  refine (readReg_held h hheld _).bind ?_
  rintro address g₁ c₁ ⟨hret, htells, rfl, rfl⟩
  rw [if_neg (not_not.mpr hret), htells.2 rfl p hcurrent]
  refine (bus_held (a := .readBlock p.address 4) hheld (.inl h.enabled)).bind ?_
  rintro part g₂ c₂ ⟨hok, htells', rfl, rfl⟩
  rw [if_neg (not_not.mpr (ret_of_ok hok)), p.header_eq hcurrent htells', p.sound,
    if_neg Bool.false_ne_true, p.chosen]
  exact hnext

theorem takeMessage_rest {p : Post} {g : Globals} {c : Chip} (h : Masked g c)
    (hsize : g.gu8HifSizeDone = false) (hwaits : Waits p c) :
    Ends Answers (takeMessage p.size) g c fun ret g t =>
      t.spoiled = true ∨ (ret = m2mSuccess ∧ Rest g t) := by
  obtain ⟨grp, hgrp⟩ := Option.isSome_iff_exists.mp hwaits.known
  refine takeMessage_header h hwaits.current ?_
  rw [hgrp]
  exact (handOn_rest h hsize hwaits hgrp).bind fun _ _ _ h => h.imp_right fun h => ⟨rfl, h⟩

/-- A new message: its bit is cleared, and it is taken. -/
theorem isrAwake_new {p : Post} {g : Globals} {c : Chip} (h : Masked g c)
    (hcurrent : c.current = some p) (hctrl0 : c.ctrl0 = p.ctrl0)
    {post : Int → Globals → Chip → Prop}
    (hnext : Ends Answers (takeMessage p.size) { g with gu8HifSizeDone := false }
      { c with ctrl0 := p.size.toUInt32 <<< 2 } post) :
    Ends Answers isrAwake g c post := by
  have hheld : c.current ≠ none := by
    rw [hcurrent]
    exact Option.some_ne_none p
  have hsize : p.size ≠ 0 := by
    intro hzero
    have hsized := p.sized.1
    rw [hzero] at hsized
    exact absurd hsized (by decide)
  refine (readReg_held h hheld _).bind ?_
  rintro reg g₁ c₁ ⟨hret, htells, rfl, rfl⟩
  have hvalue : reg.value = p.size.toUInt32 <<< 2 ||| 0x1 := (htells.1 rfl).trans hctrl0
  rw [if_neg (not_not.mpr hret), hvalue, if_neg (ctrl0_new _), ctrl0_cleared]
  refine Ends.bind (p := fun _ g t => g = g₁ ∧ t = c₁) ?_ ?_
  · refine (bus_held (a := .interruptCtrl false) hheld (.inl rfl)).bind ?_
    rintro x g₂ c₂ ⟨-, -, rfl, rfl⟩
    refine ⟨rfl, ?_⟩
    show { c₁ with enabled := false } = c₁
    rw [← h.enabled]
  · rintro _ g₂ c₂ ⟨rfl, rfl⟩
    refine (writeCtrl0_held h hheld _).bind ?_
    rintro ret g₃ c₃ ⟨hret', rfl, rfl⟩
    rw [if_neg (not_not.mpr hret'), ctrl0_not_done, if_neg (not_not.mpr rfl)]
    refine ends_bind.mpr (ends_modify.mpr ?_)
    dsimp only
    rw [rxSize_shift p.sized.2, if_neg hsize]
    exact hnext

/-- An interrupt has been counted, and the count taken back: the message is about to be taken. -/
structure Taking (p : Post) (g : Globals) (c : Chip) : Prop where
  masked : Masked g c
  waits : Waits p c
  ctrl0 : c.ctrl0 = p.ctrl0

theorem Taking.held {p : Post} {g : Globals} {c : Chip} (h : Taking p g c) : c.current ≠ none := by
  rw [h.waits.current]
  exact Option.some_ne_none p

theorem bus_taking {p : Post} {a : Act} (ha : a.aside) : Keeps Answers (Taking p) (bus a) := by
  intro g c h
  have hacted := Chip.acted_aside ha c
  refine (bus_held h.held (.inl (by rw [hacted]; exact h.masked.enabled))).mono ?_
  rintro x g' t ⟨-, -, rfl, ht⟩
  rw [ht, hacted]
  exact h

theorem isrAwake_rest {p : Post} {g : Globals} {c : Chip} (h : Taking p g c) :
    Ends Answers isrAwake g c fun ret g t =>
      t.spoiled = true ∨ (ret = m2mSuccess ∧ Rest g t) := by
  refine isrAwake_new h.masked h.waits.current h.ctrl0 ?_
  refine takeMessage_rest ?_ rfl ?_
  · exact ⟨h.masked.counted, h.masked.enabled, h.masked.line⟩
  · exact ⟨h.waits.known, h.waits.current, h.waits.handed⟩

/-! ## Waking never fails -/

theorem bus_ok (a : Act) (g : Globals) (c : Chip) :
    Ends Answers (bus a) g c fun x _ _ => x.ok = true := by
  refine bus_answers ?_
  rintro x t ⟨hok, -⟩
  split
  · refine ends_bind.mpr (ends_modify.mpr (ends_bind.mpr (act_answers ?_)))
    exact fun _ _ _ => hok
  · exact hok

theorem nmWriteReg_ok (addr val : UInt32) (g : Globals) (c : Chip) :
    Ends Answers (nmWriteReg addr val) g c fun ret _ _ => ret = m2mSuccess :=
  (bus_ok _ g c).bind fun _ _ _ hok => ret_of_ok hok

theorem hifChipWake_ok (g : Globals) (c : Chip) :
    Ends Answers hifChipWake g c fun ret _ _ => ret = m2mSuccess := by
  refine ends_bind.mpr (ends_get.mpr ?_)
  split
  · refine ends_bind.mpr ((bus_ok _ g c).bind fun x g₁ c₁ hok => ?_)
    refine ends_pure.mpr ?_
    rw [if_neg (not_not.mpr (ret_of_ok hok))]
    refine (nmWriteReg_ok _ _ g₁ c₁).bind fun ret g₂ c₂ hret => ?_
    rw [if_neg (not_not.mpr hret)]
    rfl
  · rfl

theorem hifChipSleep_ok (g : Globals) (c : Chip) :
    Ends Answers hifChipSleep g c fun ret _ _ => ret = m2mSuccess := by
  refine ends_bind.mpr (ends_modify.mpr (ends_bind.mpr (ends_get.mpr ?_)))
  split
  · refine (nmWriteReg_ok _ _ _ c).bind fun ret g₁ c₁ hret => ?_
    rw [if_neg (not_not.mpr hret)]
    refine (bus_ok _ g₁ c₁).bind fun reg g₂ c₂ hok => ?_
    rw [if_neg (not_not.mpr (ret_of_ok hok))]
    split
    · exact nmWriteReg_ok _ _ g₂ c₂
    · rfl
  · rfl

/-! ## Interrupts -/

theorem hifIsr_rest {p : Post} {g : Globals} {c : Chip} (h : Taking p g c) :
    Ends Answers hifIsr g c fun ret g t =>
      t.spoiled = true ∨ (ret = m2mSuccess ∧ Rest g t) := by
  have hwake : Keeps Answers (Taking p) hifChipWake := hifChipWake_keeps
    (fun _ ha => bus_taking (Act.aside_of_power ha))
    fun _ _ _ h => ⟨h.masked.congr rfl, h.waits, h.ctrl0⟩
  have hsleep : Keeps Answers Rest hifChipSleep := hifChipSleep_keeps
    (fun _ ha => bus_rest (Act.aside_of_power ha))
    fun _ _ _ h => h.congr rfl
  refine ((hifChipWake_ok g c).and (hwake g c h)).bind ?_
  rintro ret g₁ c₁ ⟨hret, h₁⟩
  rw [if_neg (not_not.mpr hret)]
  refine (isrAwake_rest h₁).bind fun ret' g₂ c₂ h₂ => ?_
  refine ends_or outOfTime_absorbing fun hclean => ?_
  obtain ⟨hret', hrest⟩ := h₂.resolve_left hclean
  rw [if_neg (not_not.mpr hret')]
  exact ((hifChipSleep_ok g₂ c₂).and (hsleep g₂ c₂ hrest)).mono fun _ _ _ => .inr

theorem hifIsrAgain_rest {p : Post} {g : Globals} {c : Chip} (h : Taking p g c) :
    ∀ again, Ends Answers (hifIsrAgain again) g c fun _ g t => t.spoiled = true ∨ Rest g t
  | 0 => (hifIsr_rest h).bind fun _ _ _ h => h.imp_right And.right
  | again + 1 => by
      refine (hifIsr_rest h).bind fun ret g₁ c₁ h₁ => ?_
      refine ends_or outOfTime_absorbing fun hclean => ?_
      obtain ⟨hret, hrest⟩ := h₁.resolve_left hclean
      rw [if_pos hret]
      exact .inr hrest

theorem hifHandleIsr_rest (again : Nat) :
    ∀ turns, Keeps Answers (fun g c => c.spoiled = true ∨ Rest g c) (hifHandleIsr again turns)
  | 0 => .pure _
  | turns + 1 => by
      intro g c hc
      refine ends_or outOfTime_absorbing fun hclean => ?_
      have hrest := hc.resolve_left hclean
      refine ends_bind.mpr (ends_get.mpr ?_)
      split
      · exact .inr hrest
      · rename_i hgoing
        have hcounted : g.gu8Interrupt ≠ 0 := fun h => hgoing (.inl h)
        have htaking : ∃ p, Taking p { g with gu8Interrupt := g.gu8Interrupt - 1 } c := by
          cases hrest with
          | idle counted => exact absurd counted hcounted
          | raised p counted => exact absurd counted hcounted
          | noted p counted enabled line ctrl0 waits =>
              refine ⟨p, ⟨?_, enabled, line⟩, waits, ctrl0⟩
              show g.gu8Interrupt - 1 = 0
              rw [counted]
              rfl
        obtain ⟨p, htaking⟩ := htaking
        refine ends_bind.mpr (ends_modify.mpr ?_)
        refine (hifIsrAgain_rest htaking again).bind fun done g₁ c₁ h₁ => ?_
        split
        · exact hifHandleIsr_rest again turns g₁ c₁ h₁
        · exact h₁

/-! ## Every application -/

theorem appCall_rest (q : AppCall) :
    Keeps Answers (fun g c => c.spoiled = true ∨ Rest g c) (appCall q) := by
  cases q with
  | host q => exact outerCall_keeps q
  | handleIsr again turns => exact (hifHandleIsr_rest again turns).bind fun _ => .pure _
  | registerCb grp fn => exact fun g c h => h.imp_right fun h => h.congr rfl
  | idle =>
      intro g c hc
      refine ends_or outOfTime_absorbing fun hclean => ?_
      exact (bus_rest rfl g c (hc.resolve_left hclean)).bind fun _ _ _ => .inr

/-- A chip that has left no message yet. -/
def Chip.fresh (ctrl0 : UInt32) : Chip := ⟨ctrl0, none, false, false, [], [], false⟩

end HostIf

end Winc1500
