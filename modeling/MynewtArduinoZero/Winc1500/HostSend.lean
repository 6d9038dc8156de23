import MynewtArduinoZero.Winc1500.HostInterface

/-!
# A transaction in both models

`Winc1500/Hif.lean` runs a transaction against a list of answers of the bus, and
has `nm_clkless_wake` access by access.  `Winc1500/HostInterface.lean` has it as a
dialogue with any peer, and `nm_clkless_wake` as one question.  With the peer
that answers from the list (`Peer`) the dialogue ends as the run does: with its
return code, its accesses and its `gu8ChipSleep`.
-/

namespace Winc1500

namespace HostIf

open Dialogue.Routine Hif

/-! ## The peer -/

/-- An access, with an answer that no interrupt comes with. -/
def fromList (a : Access) : StateM Hif.Chip Answer := do
  let x ← access a
  return ⟨x.ok, x.value, fun _ => 0, false⟩

/-- What the bus answers from the list of a chip. -/
def answer : Act → StateM Hif.Chip Answer
  | .clklessWake => do
      let ret ← Hif.nmClklessWake
      return ⟨ret = m2mSuccess, 0, fun _ => 0, false⟩
  | .readReg addr => fromList (.readReg addr)
  | .writeReg addr val => fromList (.writeReg addr val)
  | .readBlock addr sz => fromList (.readBlock addr sz)
  | .writeBlock addr bytes => fromList (.writeBlock addr (.ofNat bytes.length))
  | .interruptCtrl _ | .idle | .entered _ _ _ _ _ | .dispatched _ _ _ _ =>
      return ⟨true, 0, fun _ => 0, false⟩

def Peer (c : Hif.Chip) (a : Act) (x : Answer) (d : Hif.Chip) : Prop := answer a c = (x, d)

/-- A chip with the variables of the host interface. -/
def view (g : Globals) (c : Hif.Chip) : Hif.Chip :=
  { c with gu8ChipMode := g.gu8ChipMode, gu8ChipSleep := g.gu8ChipSleep }

/-- With that peer the routine does what the run does, up to the relation of their results. -/
def Simulates {α β : Type} (R : α → β → Prop) (r : Routine α) (x : StateM Hif.Chip β) : Prop :=
  ∀ g c, Ends Peer r g c fun a h d => R a (x (view g c)).1 ∧ view h d = (x (view g c)).2

variable {α β γ δ ε : Type} {R : α → β → Prop} {S : γ → δ → Prop} {T : δ → ε → Prop}

theorem Simulates.pure {a : α} {b : β} (h : R a b) : Simulates R (Pure.pure a) (Pure.pure b) :=
  fun _ _ => ends_pure.mpr ⟨h, rfl⟩

theorem Simulates.bind {r : Routine α} {x : StateM Hif.Chip β} {f : α → Routine γ}
    {k : β → StateM Hif.Chip δ} (h : Simulates R r x)
    (hf : ∀ a b, R a b → Simulates S (f a) (k b)) : Simulates S (r >>= f) (x >>= k) := by
  intro g c
  refine (h g c).bind fun a g' c' ⟨hab, hview⟩ => ?_
  have hrest := hf a _ hab g' c'
  rw [hview] at hrest
  exact hrest

/-! ## The bus -/

/-- A run that neither looks at the variables nor changes them. -/
def Blind (x : StateM Hif.Chip α) : Prop := ∀ g c, x (view g c) = ((x c).1, view g (x c).2)

theorem Blind.pure (a : α) : Blind (Pure.pure a : StateM Hif.Chip α) := fun _ _ => rfl

theorem Blind.bind {x : StateM Hif.Chip α} {f : α → StateM Hif.Chip β} (h : Blind x)
    (hf : ∀ a, Blind (f a)) : Blind (x >>= f) := by
  intro g c
  change f (x (view g c)).1 (x (view g c)).2 = _
  rw [h g c, hf]
  rfl

theorem Blind.ite {p : Prop} [Decidable p] {x y : StateM Hif.Chip α} (hx : Blind x) (hy : Blind y) :
    Blind (if p then x else y) := by
  split
  · exact hx
  · exact hy

theorem Blind.get_bind {f : Hif.Chip → StateM Hif.Chip α} (hf : ∀ c, Blind (f c))
    (hview : ∀ g c, f (view g c) = f c) : Blind (get >>= f) := by
  intro g c
  change f (view g c) (view g c) = _
  rw [hview, hf]
  rfl

theorem blind_access (a : Access) : Blind (access a) := by
  intro g c
  cases hanswers : c.answers with
  | nil => simp only [access, view, hanswers]
  | cons x xs => simp only [access, view, hanswers]

theorem blind_clkStatus : Blind clkStatus := by
  unfold clkStatus
  refine .get_bind (fun c => .bind (blind_access _) fun x => .ite (.pure _) ?_) fun _ _ => rfl
  refine .bind (fun _ _ => rfl) fun _ => .bind (blind_access _) fun y => .ite (.pure _) ?_
  exact .bind (fun _ _ => rfl) fun _ => blind_access _

theorem blind_waitClks (trials : Nat) (status : UInt32) : Blind (waitClks trials status) := by
  unfold waitClks
  refine .ite (.pure _) (.ite ?_ (.pure _))
  exact .get_bind (fun c => .bind (blind_access _) fun x => .pure _) fun _ _ => rfl

theorem blind_wakeLoop (reg : UInt32) : ∀ fuel trials, Blind (wakeLoop reg fuel trials)
  | 0, _ => .pure _
  | fuel + 1, trials => by
      unfold wakeLoop
      refine .bind (.bind (blind_access _) fun _ => .pure _) fun _ => .bind blind_clkStatus
        fun status => .ite (.pure _) (.bind (blind_waitClks trials status.value) fun p => ?_)
      refine .ite (.pure _) (.bind (.bind (blind_access _) fun _ => .pure _) fun _ => ?_)
      exact blind_wakeLoop reg fuel p.1

theorem blind_nmClklessWake : Blind Hif.nmClklessWake := by
  unfold Hif.nmClklessWake
  refine .bind (blind_access _) fun reg => .ite (.pure _) ?_
  exact .get_bind (fun c => blind_wakeLoop _ _ _) fun _ _ => rfl

/-- Every result of a run is one of these. -/
def Returns (p : α → Prop) (x : StateM Hif.Chip α) : Prop := ∀ c, p (x c).1

theorem Returns.bind {p : β → Prop} {x : StateM Hif.Chip α} {f : α → StateM Hif.Chip β}
    (hf : ∀ a, Returns p (f a)) : Returns p (x >>= f) :=
  fun c => hf (x c).1 (x c).2

theorem Returns.ite {q : α → Prop} {p : Prop} [Decidable p] {x y : StateM Hif.Chip α}
    (hx : p → Returns q x) (hy : ¬ p → Returns q y) : Returns q (if p then x else y) := by
  split
  · exact hx ‹_›
  · exact hy ‹_›

/-- `M2M_SUCCESS` or `M2M_ERR_BUS_FAIL`. -/
def BusRet (ret : Int) : Prop := ret = m2mSuccess ∨ ret = m2mErrBusFail

theorem wakeLoop_returns (reg : UInt32) : ∀ fuel trials, Returns BusRet (wakeLoop reg fuel trials)
  | 0, _ => fun _ => .inr rfl
  | fuel + 1, trials => by
      unfold wakeLoop
      refine .bind fun _ => .bind fun _ => .ite (fun _ _ => .inr rfl) fun _ => .bind fun p => ?_
      exact .ite (fun _ _ => .inl rfl) fun _ => .bind fun _ => wakeLoop_returns reg fuel p.1

theorem nmClklessWake_returns : Returns BusRet Hif.nmClklessWake := by
  unfold Hif.nmClklessWake
  refine .bind fun reg => .ite (fun hreg _ => .inr ?_) fun _ => .bind fun _ =>
    wakeLoop_returns _ _ _
  exact if_neg hreg

/-- A question whose answer the run computes. -/
theorem simulates_bus {a : Act} {x : StateM Hif.Chip β} (hx : Blind x) {make : β → Answer}
    (hirq : ∀ b, (make b).irq = false) (ha : answer a = do return make (← x)) :
    Simulates (fun y b => y = make b) (bus a) x := by
  intro g c
  have hanswer : answer a c = (make (x c).1, (x c).2) := by
    rw [ha]
    rfl
  refine ends_bind.mpr (ends_call.mpr ⟨⟨_, _, hanswer⟩, fun y d hy => ?_⟩)
  obtain ⟨rfl, rfl⟩ := Prod.mk.inj (hanswer.symm.trans hy)
  rw [hirq, if_neg Bool.false_ne_true, hx g c]
  exact ends_pure.mpr ⟨rfl, rfl⟩

theorem simulates_nmClklessWake : Simulates Eq nmClklessWake Hif.nmClklessWake := by
  intro g c
  refine ends_bind.mpr ((simulates_bus blind_nmClklessWake (fun _ => rfl) rfl g c).mono ?_)
  rintro y h d ⟨rfl, hview⟩
  refine ends_pure.mpr ⟨?_, hview⟩
  rcases nmClklessWake_returns (view g c) with hret | hret <;> rw [hret] <;> rfl

/-- The answers of both buses say the same. -/
def Alike (x : Answer) (y : Hif.Answer) : Prop := x.ret = y.ret ∧ x.value = y.value

theorem simulates_nmReadRegWithRet (addr : UInt32) :
    Simulates Alike (nmReadRegWithRet addr) (Hif.nmReadRegWithRet addr) := by
  intro g c
  refine (simulates_bus (blind_access (.readReg addr)) (fun _ => rfl) rfl g c).mono ?_
  rintro y h d ⟨rfl, hview⟩
  exact ⟨⟨rfl, rfl⟩, hview⟩

theorem simulates_nmWriteReg (addr val : UInt32) :
    Simulates Eq (nmWriteReg addr val) (Hif.nmWriteReg addr val) := by
  refine (simulates_bus (blind_access (.writeReg addr val)) (fun _ => rfl) rfl).bind ?_
  rintro y x rfl
  exact .pure rfl

theorem simulates_nmWriteBlock (addr : UInt32) {bytes : List UInt8} {size : UInt16}
    (hsize : UInt16.ofNat bytes.length = size) :
    Simulates Eq (nmWriteBlock addr bytes) (Hif.nmWriteBlock addr size) := by
  subst hsize
  refine (simulates_bus (blind_access (.writeBlock addr _)) (fun _ => rfl) rfl).bind ?_
  rintro y x rfl
  exact .pure rfl

/-! ## Awake and asleep -/

theorem Simulates.ite {p q : Prop} [Decidable p] [Decidable q] (hpq : p ↔ q)
    {r r' : Routine α} {x x' : StateM Hif.Chip β} (h : Simulates R r x) (h' : Simulates R r' x') :
    Simulates R (if p then r else r') (if q then x else x') := by
  by_cases hp : p
  · rwa [if_pos hp, if_pos (hpq.mp hp)]
  · rwa [if_neg hp, if_neg (hpq.not.mp hp)]

theorem Simulates.get_bind {f : Globals → Routine α} {k : Hif.Chip → StateM Hif.Chip β}
    (h : ∀ g c, Simulates R (f g) (k (view g c))) : Simulates R (get >>= f) (get >>= k) :=
  fun g c => h g c g c

/-- The run gets its variables twice. -/
theorem Simulates.get_get_bind {f : Globals → Routine α}
    {k : Hif.Chip → Hif.Chip → StateM Hif.Chip β}
    (h : ∀ g c, Simulates R (f g) (k (view g c) (view g c))) :
    Simulates R (get >>= f) (get >>= fun a => get >>= k a) :=
  fun g c => h g c g c

theorem simulates_modify {f : Globals → Globals} {k : Hif.Chip → Hif.Chip}
    (h : ∀ g c, view (f g) c = k (view g c)) :
    Simulates Eq (modify f : Routine PUnit) (modify k) :=
  fun g c => ends_modify.mpr ⟨rfl, h g c⟩

theorem Simulates.bind_eq {r : Routine α} {x : StateM Hif.Chip α} {f : α → Routine γ}
    {k : α → StateM Hif.Chip δ} (h : Simulates Eq r x) (hf : ∀ a, Simulates S (f a) (k a)) :
    Simulates S (r >>= f) (x >>= k) :=
  h.bind fun a _ hab => hab ▸ hf a

theorem Simulates.assoc {r : Routine α} {f : α → Routine γ} {k : γ → Routine δ}
    {x : StateM Hif.Chip ε} (h : Simulates T (r >>= fun a => f a >>= k) x) :
    Simulates T ((r >>= f) >>= k) x := by
  intro g c
  refine ends_bind.mpr (ends_bind.mpr ((ends_bind.mp (h g c)).mono fun a g' c' hrest => ?_))
  exact ends_bind.mp hrest

/-- Both go on where a call has succeeded. -/
theorem Simulates.checked {r : Routine Int} {x : StateM Hif.Chip Int} (h : Simulates Eq r x)
    (ret : Int) : Simulates Eq (if ret ≠ m2mSuccess then Pure.pure ret else r)
      (if ret ≠ m2mSuccess then Pure.pure ret else x) :=
  .ite Iff.rfl (.pure rfl) h

theorem simulates_hifChipWake : Simulates Eq hifChipWake Hif.hifChipWake := by
  have hwoken : Simulates Eq
      (do modify fun g => { g with gu8ChipSleep := g.gu8ChipSleep + 1 }; return m2mSuccess)
      (do modify fun chip => { chip with gu8ChipSleep := chip.gu8ChipSleep + 1 }
          return m2mSuccess) :=
    .bind (simulates_modify fun _ _ => rfl) fun _ _ _ => .pure rfl
  unfold hifChipWake Hif.hifChipWake
  refine .get_get_bind fun g c => .ite Iff.rfl ?_ hwoken
  refine .bind_eq simulates_nmClklessWake fun ret => .checked ?_ ret
  exact .bind_eq (simulates_nmWriteReg _ _) fun ret => .checked hwoken ret

/-- `--gu8ChipSleep` as the run has it, before `x`. -/
def lessThen (x : StateM Hif.Chip β) : StateM Hif.Chip β := do
  if 1 ≤ (← get).gu8ChipSleep then
    modify fun chip => { chip with gu8ChipSleep := chip.gu8ChipSleep - 1 }
  x

theorem lessThen_view (x : StateM Hif.Chip β) (g : Globals) (c : Hif.Chip) :
    lessThen x (view g c) = x (view { g with gu8ChipSleep := oneLess g.gu8ChipSleep } c) := by
  change (if 1 ≤ g.gu8ChipSleep then _ else _ : StateM Hif.Chip β) (view g c) = _
  by_cases hsome : 1 ≤ g.gu8ChipSleep
  · rw [oneLess, if_pos hsome, if_pos hsome]
    rfl
  · have hnone : g.gu8ChipSleep = 0 := by
      rw [UInt8.le_iff_toNat_le] at hsome
      exact UInt8.toNat_inj.mp (Nat.lt_one_iff.mp (Nat.not_le.mp hsome))
    rw [oneLess, if_neg hsome, if_neg hsome, ← hnone]

theorem simulates_lessThen {r : Routine α} {x : StateM Hif.Chip β} (h : Simulates R r x) :
    Simulates R (do modify fun g => { g with gu8ChipSleep := oneLess g.gu8ChipSleep }; r)
      (lessThen x) := by
  intro g c
  refine ends_bind.mpr (ends_modify.mpr ?_)
  rw [lessThen_view]
  exact h _ c

theorem ret_ne_success_iff (y : Hif.Answer) : y.ret ≠ m2mSuccess ↔ ¬ y.ok = true := by
  rw [Hif.Answer.ret]
  cases y.ok <;> decide

theorem simulates_hifChipSleep : Simulates Eq hifChipSleep Hif.hifChipSleep := by
  unfold hifChipSleep Hif.hifChipSleep
  refine simulates_lessThen (.get_get_bind fun g c => .ite Iff.rfl ?_ (.pure rfl))
  refine .bind_eq (simulates_nmWriteReg _ _) fun ret => .checked ?_ ret
  refine (simulates_nmReadRegWithRet _).bind fun reg reg' ⟨hret, hvalue⟩ => ?_
  rw [hret, hvalue]
  refine .ite (ret_ne_success_iff reg') (.pure rfl) ?_
  exact .ite Iff.rfl (simulates_nmWriteReg _ _) (.pure rfl)

/-! ## The request -/

theorem simulates_pollDmaAddr : ∀ cnt, Simulates Eq (pollDmaAddr cnt) (Hif.pollDmaAddr cnt)
  | 0 => .pure rfl
  | cnt + 1 => by
      unfold pollDmaAddr Hif.pollDmaAddr
      refine (simulates_nmReadRegWithRet _).bind fun reg reg' ⟨hret, hvalue⟩ => ?_
      rw [hret, hvalue]
      refine .ite (ret_ne_success_iff reg') (.pure rfl)
        (.ite Iff.rfl (simulates_pollDmaAddr cnt) ?_)
      refine (simulates_nmReadRegWithRet _).bind fun addr addr' ⟨hret', hvalue'⟩ => .pure ?_
      rw [hret', hvalue']
      exact if_congr (not_iff_not.mp (ret_ne_success_iff addr')) rfl rfl

/-- The arguments, with the sizes of the buffers. -/
def Message.request (r : Message) : Request where
  u8Gid := r.u8Gid
  u8Opcode := r.u8Opcode
  ctrlBuf := r.ctrlBuf.map Buffer.size
  dataBuf := r.dataBuf.map fun b => (b.size, r.u16DataOffset)

theorem Message.request_ctrlBufSize (r : Message) : r.request.ctrlBufSize = r.ctrlBufSize := by
  rw [Message.ctrlBufSize, Request.ctrlBufSize, Message.request]
  cases r.ctrlBuf <;> rfl

theorem Message.request_u16Length (r : Message) : r.request.u16Length = r.u16Length := by
  rw [Message.u16Length, Request.u16Length, Message.request_ctrlBufSize]
  cases hdata : r.dataBuf <;> simp [Message.request, hdata]

theorem length_header (r : Message) : UInt16.ofNat r.header.length = m2mHifHdrOffset := by
  simp [Message.header, m2mHifHdrOffset]

/-- The data, as the run writes it. -/
theorem simulates_writeDataBuf (r : Message) (addr : UInt32) :
    Simulates Eq
      (writeDataBuf (addr + (r.u16DataOffset.toUInt32 - r.ctrlBufSize.toUInt32)) r.dataBuf)
      (match r.request.dataBuf with
        | some (size, offset) => do
            let ret ← Hif.nmWriteBlock
              (addr + (offset.toUInt32 - r.request.ctrlBufSize.toUInt32)) size
            if ret ≠ m2mSuccess then return ret
            return m2mSuccess
        | _ => return m2mSuccess) := by
  have hsame : (fun ret : Int => if ret ≠ m2mSuccess then (Pure.pure ret : StateM Hif.Chip Int)
      else Pure.pure m2mSuccess) = Pure.pure := by
    funext ret
    split
    · rfl
    · rename_i hret
      rw [not_not.mp hret]
  rw [Message.request_ctrlBufSize]
  cases hdata : r.dataBuf with
  | none =>
      simp only [Message.request, hdata, Option.map_none]
      exact .pure rfl
  | some b =>
      simp only [Message.request, hdata, Option.map_some]
      rw [hsame, bind_pure]
      exact simulates_nmWriteBlock _ rfl

theorem simulates_writeMessage (r : Message) (dmaAddr : UInt32) :
    Simulates Eq (writeMessage r dmaAddr) (writeRequest r.request dmaAddr) := by
  unfold writeMessage writeRequest
  refine .bind_eq (simulates_nmWriteBlock _ (length_header r)) fun ret => .checked ?_ ret
  cases hctrl : r.ctrlBuf with
  | none =>
      have hnone : r.request.ctrlBuf = none := by rw [Message.request, hctrl, Option.map_none]
      rw [hnone]
      change Simulates Eq (if m2mSuccess ≠ m2mSuccess then Pure.pure m2mSuccess else _) _
      rw [if_neg (not_not.mpr rfl)]
      exact simulates_writeDataBuf r _
  | some b =>
      have hsome : r.request.ctrlBuf = some b.size := by
        rw [Message.request, hctrl, Option.map_some]
      rw [hsome]
      refine .assoc (.bind_eq (simulates_nmWriteBlock _ rfl) fun ret => ?_)
      exact .checked (simulates_writeDataBuf r _) ret

/-- The run returns a failure at once, the routine returns it to what comes behind. -/
theorem Simulates.checked_bind {r rest : Routine Int} {x : StateM Hif.Chip Int}
    (h : Simulates Eq (r >>= fun ret => if ret ≠ m2mSuccess then Pure.pure ret else rest) x)
    (ret : Int) :
    Simulates Eq ((if ret ≠ m2mSuccess then Pure.pure ret else r) >>= fun ret =>
        if ret ≠ m2mSuccess then Pure.pure ret else rest)
      (if ret ≠ m2mSuccess then Pure.pure ret else x) := by
  by_cases hret : ret ≠ m2mSuccess
  · rw [if_pos hret, if_pos hret]
    change Simulates Eq (if ret ≠ m2mSuccess then Pure.pure ret else rest) _
    rw [if_pos hret]
    exact .pure rfl
  · rwa [if_neg hret, if_neg hret]

/-- With a peer that answers from the list, `hif_send` returns and leaves what it does in a run. -/
theorem simulates_hifSend (r : Message) : Simulates Eq (hifSend r) (Hif.hifSend r.request) := by
  unfold hifSend Hif.hifSend
  refine .bind_eq simulates_hifChipWake fun ret => .checked ?_ ret
  unfold sendAwake
  rw [Message.request_u16Length]
  refine .assoc (.bind_eq (simulates_nmWriteReg _ _) fun ret => .checked_bind ?_ ret)
  refine .assoc (.bind_eq (simulates_nmWriteReg _ _) fun ret => .checked_bind ?_ ret)
  refine .assoc (.bind_eq (simulates_pollDmaAddr _) fun dmaAddr => ?_)
  by_cases haddr : dmaAddr = 0
  · rw [if_pos haddr, if_pos haddr]
    exact .pure rfl
  · rw [if_neg haddr, if_neg haddr]
    refine .assoc (.bind_eq (simulates_writeMessage r dmaAddr) fun ret => .checked_bind ?_ ret)
    exact .bind_eq (simulates_nmWriteReg _ _) fun ret => .checked simulates_hifChipSleep ret

end HostIf

end Winc1500
