import Mathlib.Algebra.Ring.Nat
import MynewtArduinoZero.Winc1500.NmBus

/-!
# Exchanges with any chip

The polls of the driver are counted, so a chip that answers anything, or nothing,
cannot keep it: an access takes a bounded number of exchanges whatever comes in,
and ends.
-/

namespace Winc1500

namespace NmSpi

open Dialogue
open Hif (m2mSuccess m2mErrBusFail)

variable {α β : Type} {j k : Nat}

/-- A peer that answers anything, and counts the bytes. -/
def Count (n : Nat) : HalCall → Option UInt8 → Nat → Prop
  | .ssn _, _, m => m = n
  | .txrx _, _, m => m = n + 1

/-- There are at most `k` exchanges. -/
def Bounded (d : Wire α) (k : Nat) : Prop := ∀ n, Ensures Count d n fun _ m => m ≤ n + k

theorem Bounded.pure (a : α) : Bounded (pure a : Wire α) 0 := fun n => Nat.le_refl n

theorem Bounded.mono {d : Wire α} (h : Bounded d j) (hk : j ≤ k) : Bounded d k :=
  fun n => (h n).mono fun _ _ hm => Nat.le_trans hm (Nat.add_le_add_left hk n)

theorem Bounded.bind {d : Wire α} {f : α → Wire β} (h : Bounded d j) (hf : ∀ a, Bounded (f a) k) :
    Bounded (d >>= f) (j + k) := fun n =>
  (h n).bind fun a m hm => (hf a m).mono fun _ _ hl => by omega

theorem Bounded.ite {p : Prop} [Decidable p] {d e : Wire α} (hd : p → Bounded d k)
    (he : ¬ p → Bounded e k) : Bounded (if p then d else e) k := by
  by_cases hp : p
  · rw [if_pos hp]
    exact hd hp
  · rw [if_neg hp]
    exact he hp

/-- Nothing more to come. -/
theorem Bounded.end (a : α) : Bounded (Pure.pure a : Wire α) k :=
  (Bounded.pure a).mono (Nat.zero_le k)

/-- Nothing but the result comes behind. -/
theorem Bounded.last {d : Wire α} {f : α → Wire β} (h : Bounded d k)
    (hf : ∀ a, Bounded (f a) 0) : Bounded (d >>= f) k := h.bind hf

/-! ## Transfers -/

theorem halGpioWrite_bounded (value : Bool) : Bounded (halGpioWrite value) 0 := fun n =>
  ⟨⟨none, n, rfl⟩, by
    rintro x m rfl
    exact Nat.le_refl _⟩

theorem clock_bounded : ∀ l : List UInt8, Bounded (clock l) l.length
  | [] => .pure _
  | tx :: l => fun n => by
      refine ⟨⟨none, n + 1, rfl⟩, ?_⟩
      rintro x m rfl
      cases x with
      | none =>
          show n + 1 ≤ n + (l.length + 1)
          omega
      | some rx =>
          refine ((clock_bounded l).last (fun _ => .pure _) (n + 1)).mono fun _ m hm => ?_
          rw [List.length_cons]
          omega

theorem nmSpiRw_bounded (l : List UInt8) : Bounded (nmSpiRw l) l.length := by
  have h := (halGpioWrite_bounded false).bind fun _ => (clock_bounded l).bind fun r =>
    (halGpioWrite_bounded true).bind fun _ => Bounded.pure r
  exact h.mono (by omega)

theorem nmiSpiRead_bounded (sz : Nat) : Bounded (nmiSpiRead sz) sz := by
  have h := nmSpiRw_bounded (List.replicate sz 0)
  rwa [List.length_replicate] at h

theorem nmiSpiWrite_bounded {l : List UInt8} (hl : l.length ≤ k) : Bounded (nmiSpiWrite l) k :=
  ((nmSpiRw_bounded l).last fun r => .pure r.2).mono hl

/-! ## Commands -/

theorem length_frame_le (crcOff : Bool) (cmd : Cmd) (adr u32data sz : UInt32)
    (clockless : Bool) :
    (frame crcOff (spiCmdBytes cmd adr u32data sz clockless)).length ≤ 2 + cmd.fields := by
  have hlen := length_spiCmdBytes cmd adr u32data sz clockless
  cases crcOff <;> simp only [frame, if_true, Bool.false_eq_true, if_false, List.length_append,
    List.length_singleton, hlen] <;> omega

theorem spiCmd_bounded (crcOff : Bool) (cmd : Cmd) (adr u32data sz : UInt32) (clockless : Bool) :
    Bounded (spiCmd crcOff cmd adr u32data sz clockless) (2 + cmd.fields) :=
  (nmiSpiWrite_bounded (length_frame_le crcOff cmd adr u32data sz clockless)).last
    fun _ => .pure _

theorem spiReset_bounded (crcOff : Bool) : Bounded (spiReset crcOff) 5 :=
  (spiCmd_bounded crcOff .reset 0 0 0 false).last fun _ => .pure _

/-- A poll ends when its retries run out. -/
theorem waitRsp_bounded (want : UInt8) : ∀ retry, Bounded (waitRsp want retry) (retry + 1)
  | 0 => (nmiSpiRead_bounded 1).last fun _ => .pure _
  | retry + 1 =>
      ((nmiSpiRead_bounded 1).bind fun _ => .ite (fun _ => .end _) fun _ =>
        .ite (fun _ => .end _) fun _ => waitRsp_bounded want retry).mono (by omega)

theorem spiCmdRsp_bounded {cmd : Cmd} (hreset : cmd ≠ .reset) (hterminate : cmd ≠ .terminate)
    (hrepeat : cmd ≠ .repeat) : Bounded (spiCmdRsp cmd) 22 := by
  have hskip : Bounded (skipRsp cmd) 0 := by
    rw [skipRsp, if_neg (by simp [hreset, hterminate, hrepeat])]
    exact .pure _
  exact hskip.bind fun _ => .ite (fun _ => .end _) fun _ =>
    (waitRsp_bounded cmd.code 10).bind fun _ => .ite (fun _ => .end _) fun _ =>
      waitRsp_bounded 0 10

/-- A command that is answered, with a reset where the answer does not come, and what is behind. -/
theorem command_bounded {crcOff : Bool} {cmd : Cmd} {adr u32data sz : UInt32} {clockless : Bool}
    {broken refused : α} {rest : Wire α} (hreset : cmd ≠ .reset) (hterminate : cmd ≠ .terminate)
    (hrepeat : cmd ≠ .repeat) (hk : 5 ≤ k) (hrest : Bounded rest k) :
    Bounded (spiCmd crcOff cmd adr u32data sz clockless >>= fun rc =>
      if rc ≠ nOk then pure broken
      else spiCmdRsp cmd >>= fun rc =>
        if rc ≠ nOk then spiReset crcOff >>= fun _ => pure refused else rest)
      (2 + cmd.fields + (22 + k)) :=
  (spiCmd_bounded crcOff cmd adr u32data sz clockless).bind fun _ =>
    .ite (fun _ => .end _) fun _ =>
      (spiCmdRsp_bounded hreset hterminate hrepeat).bind fun _ =>
        .ite (fun _ => ((spiReset_bounded crcOff).last fun _ => .pure _).mono hk) fun _ => hrest

/-! ## Data -/

theorem dataRsp_bounded : ∀ retry, Bounded (dataRsp retry) (retry + 1)
  | 0 => (nmiSpiRead_bounded 1).last fun _ => .ite (fun _ => .pure _) fun _ => .pure _
  | retry + 1 =>
      ((nmiSpiRead_bounded 1).bind fun _ => .ite (fun _ => .end _) fun _ =>
        .ite (fun _ => .end _) fun _ => dataRsp_bounded retry).mono (by omega)

theorem readCrc_bounded (crcOff clockless : Bool) : Bounded (readCrc crcOff clockless) 2 :=
  .ite (fun _ => .end _) fun _ => (nmiSpiRead_bounded 2).last fun _ => .pure _

theorem writeCrc_bounded (crcOff : Bool) : Bounded (writeCrc crcOff) 2 :=
  .ite (fun _ => .end _) fun _ => nmiSpiWrite_bounded (Nat.le_refl 2)

/-- Data that fits in one packet. -/
theorem spiDataRead_bounded {sz : Nat} (hsz : sz ≤ dataPktSz) (crcOff clockless : Bool)
    (host : Int → UInt8) (b ix : Int) :
    Bounded (spiDataRead crcOff clockless host b ix sz) (sz + 13) := by
  rw [spiDataRead, Nat.min_eq_left hsz]
  refine ((dataRsp_bounded 10).bind (k := sz + 2) fun r => ?_).mono (by omega)
  cases r with
  | none => exact .end _
  | some left =>
      refine .ite (fun _ => .end _) fun _ => ?_
      refine (nmiSpiRead_bounded sz).bind fun _ => .ite (fun _ => .end _) fun _ => ?_
      refine (readCrc_bounded crcOff clockless).last fun _ => ?_
      exact .ite (fun _ => .end _) fun _ => .ite (fun h => absurd h (by omega)) fun _ => .end _

theorem spiDataWrite_bounded {sz : Nat} (hsz : sz ≤ dataPktSz) (crcOff : Bool)
    (host : Int → UInt8) (b ix : Int) :
    Bounded (spiDataWrite crcOff host b ix sz) (sz + 3) := by
  rw [spiDataWrite, Nat.min_eq_left hsz]
  have hheader : Bounded (nmiSpiWrite [0xf0 ||| order ix sz]) 1 :=
    nmiSpiWrite_bounded (Nat.le_refl 1)
  have hbody : Bounded (nmiSpiWrite (bytesFrom host (b + ix) sz)) sz :=
    nmiSpiWrite_bounded (by rw [length_bytesFrom])
  refine (hheader.bind (k := sz + 2) fun _ => .ite (fun _ => .end _) fun _ => ?_).mono (by omega)
  refine hbody.bind fun _ => .ite (fun _ => .end _) fun _ => ?_
  refine (writeCrc_bounded crcOff).last fun _ => ?_
  exact .ite (fun _ => .end _) fun _ => .ite (fun h => absurd h (by omega)) fun _ => .end _

/-! ## Accesses -/

theorem spiReadReg_bounded (crcOff : Bool) (addr u32data : UInt32) :
    Bounded (spiReadReg crcOff addr u32data) 49 := by
  have hdata : ∀ clockless, Bounded (spiDataRead crcOff clockless (fun _ => 0) 0 0 4 >>= fun r =>
      if r.1 ≠ nOk then spiReset crcOff >>= fun _ => pure (nFail, u32data)
      else pure (nOk, (r.2 0).toUInt32 ||| (r.2 1).toUInt32 <<< 8 ||| (r.2 2).toUInt32 <<< 16 |||
        (r.2 3).toUInt32 <<< 24)) 22 := fun clockless =>
    (spiDataRead_bounded (by decide) crcOff clockless _ 0 0).bind fun r =>
      .ite (fun _ => (spiReset_bounded crcOff).last fun _ => .pure _) fun _ => .end _
  by_cases hclockless : addr ≤ 0xff
  · simp only [spiReadReg, hclockless, decide_true, if_true]
    exact command_bounded (by decide) (by decide) (by decide) (by decide) (hdata true)
  · simp only [spiReadReg, hclockless, decide_false, Bool.false_eq_true, if_false]
    exact command_bounded (by decide) (by decide) (by decide) (by decide) (hdata false)

theorem spiWriteReg_bounded (crcOff : Bool) (addr u32data : UInt32) :
    Bounded (spiWriteReg crcOff addr u32data) 36 := by
  by_cases hclockless : addr ≤ 0x30
  · simp only [spiWriteReg, hclockless, decide_true, if_true]
    exact command_bounded (k := 6) (by decide) (by decide) (by decide) (by decide) (.end _)
  · simp only [spiWriteReg, hclockless, decide_false, Bool.false_eq_true, if_false]
    exact command_bounded (by decide) (by decide) (by decide) (Nat.le_refl 5) (.end _)

theorem nmSpiRead_bounded (crcOff : Bool) (host : Int → UInt8) (addr : UInt32) (buf : Int)
    (size : UInt16) (hsize : size.toNat ≤ dataPktSz) :
    Bounded (nmSpiRead crcOff host addr buf size) (size.toNat + 48) := by
  have hdata := (spiDataRead_bounded hsize crcOff false host buf 0).bind fun r =>
    (Bounded.ite (fun _ => (spiReset_bounded crcOff).last fun _ => .pure (nFail, r.2))
      fun _ => .end (nOk, r.2) : Bounded (if r.1 ≠ nOk then _ else _) 5)
  exact (command_bounded (by decide) (by decide) (by decide) (by omega) hdata).mono
    (by simp only [Cmd.fields]; omega)

theorem nmSpiWrite_bounded (crcOff : Bool) (host : Int → UInt8) (addr : UInt32) (buf : Int)
    (size : UInt16) (hsize : size.toNat ≤ dataPktSz) :
    Bounded (nmSpiWrite crcOff host addr buf size) (size.toNat + 38) := by
  have hdata := (spiDataWrite_bounded hsize crcOff host buf 0).bind fun rc =>
    (Bounded.ite (fun _ => (spiReset_bounded crcOff).last fun _ => .pure nOk)
      fun _ => .end nOk : Bounded (if rc ≠ nOk then _ else _) 5)
  exact (command_bounded (by decide) (by decide) (by decide) (by omega) hdata).mono
    (by simp only [Cmd.fields]; omega)

/-- Each transfer of a block has its own polls. -/
theorem readBlocks_bounded (crcOff : Bool) (host : Int → UInt8) (addr : UInt32) (buf : Int)
    (off sz : Nat) :
    Bounded (readBlocks crcOff host addr buf off sz) (sz + 48 * (sz / u16MaxTrxSz + 1)) := by
  have hmax : u16MaxTrxSz = 248 := rfl
  have hpkt : dataPktSz = 8192 := rfl
  have hpart : ∀ host addr buf {n : Nat}, n ≤ u16MaxTrxSz →
      Bounded (nmSpiReadBlock crcOff host addr buf (.ofNat n)) (n + 48) := by
    intro host addr buf n hn
    have hread := nmSpiRead_bounded crcOff host addr buf (.ofNat n)
      (by rw [toNat_part hn]; omega)
    rw [toNat_part hn] at hread
    exact hread.last fun r => .pure _
  rw [readBlocks]
  by_cases hlast : sz ≤ u16MaxTrxSz
  · rw [if_pos hlast]
    exact (hpart host addr _ hlast).mono (by rw [hmax]; omega)
  · obtain ⟨n, rfl⟩ := Nat.exists_eq_add_of_le (Nat.le_of_not_le hlast)
    rw [if_neg hlast, Nat.add_sub_cancel_left]
    refine ((hpart host addr _ (Nat.le_refl _)).bind (k := n + 48 * (n / u16MaxTrxSz + 1))
      fun r => .ite (fun _ => .end _) fun _ => ?_).mono (by rw [hmax]; omega)
    exact readBlocks_bounded crcOff r.2 _ buf _ n
termination_by sz
decreasing_by simp only [u16MaxTrxSz] at *; omega

theorem writeBlocks_bounded (crcOff : Bool) (host : Int → UInt8) (addr : UInt32) (buf : Int)
    (off sz : Nat) :
    Bounded (writeBlocks crcOff host addr buf off sz) (sz + 38 * (sz / u16MaxTrxSz + 1)) := by
  have hmax : u16MaxTrxSz = 248 := rfl
  have hpkt : dataPktSz = 8192 := rfl
  have hpart : ∀ addr buf {n : Nat}, n ≤ u16MaxTrxSz →
      Bounded (nmSpiWriteBlock crcOff host addr buf (.ofNat n)) (n + 38) := by
    intro addr buf n hn
    have hwrite := nmSpiWrite_bounded crcOff host addr buf (.ofNat n)
      (by rw [toNat_part hn]; omega)
    rw [toNat_part hn] at hwrite
    exact hwrite.last fun rc => .pure _
  rw [writeBlocks]
  by_cases hlast : sz ≤ u16MaxTrxSz
  · rw [if_pos hlast]
    exact (hpart addr _ hlast).mono (by rw [hmax]; omega)
  · obtain ⟨n, rfl⟩ := Nat.exists_eq_add_of_le (Nat.le_of_not_le hlast)
    rw [if_neg hlast, Nat.add_sub_cancel_left]
    refine ((hpart addr _ (Nat.le_refl _)).bind (k := n + 38 * (n / u16MaxTrxSz + 1))
      fun rc => .ite (fun _ => .end _) fun _ => ?_).mono (by rw [hmax]; omega)
    exact writeBlocks_bounded crcOff host _ buf _ n
termination_by sz
decreasing_by simp only [u16MaxTrxSz] at *; omega

/-- The most exchanges an access can take. -/
def BusAccess.most : BusAccess → Nat
  | .readReg _ => 49
  | .writeReg _ _ => 36
  | .readBlock _ _ u32Sz => u32Sz.toNat + 48 * (u32Sz.toNat / u16MaxTrxSz + 1)
  | .writeBlock _ _ u32Sz => u32Sz.toNat + 38 * (u32Sz.toNat / u16MaxTrxSz + 1)

theorem perform_bounded (crcOff : Bool) (host : Int → UInt8) :
    ∀ a : BusAccess, Bounded (perform crcOff host a) a.most
  | .readReg u32Addr =>
      ((spiReadReg_bounded crcOff u32Addr 0).last fun _ => .pure _).last fun _ => .pure _
  | .writeReg u32Addr u32Val =>
      ((spiWriteReg_bounded crcOff u32Addr u32Val).last fun _ => .pure _).last fun _ => .pure _
  | .readBlock u32Addr puBuf u32Sz =>
      Bounded.last (readBlocks_bounded crcOff host u32Addr puBuf 0 u32Sz.toNat) fun _ => .pure _
  | .writeBlock u32Addr puBuf u32Sz =>
      Bounded.last (writeBlocks_bounded crcOff host u32Addr puBuf 0 u32Sz.toNat) fun _ => .pure _

/-- Whatever comes in over the bus, a run of accesses ends within its number of exchanges. -/
theorem performAll_bounded (crcOff : Bool) : ∀ (as : List BusAccess) (host : Int → UInt8),
    Bounded (performAll crcOff host as) (as.map BusAccess.most).sum
  | [], _ => .pure _
  | a :: as, host => by
      rw [List.map_cons, List.sum_cons]
      exact (perform_bounded crcOff host a).bind fun x =>
        (performAll_bounded crcOff as x.host).last fun _ => .pure _

theorem nmSpiIdentify_bounded (stale : UInt32) : Bounded (nmSpiIdentify stale) 134 := by
  have hset : Bounded (spiInitPktSz true stale) 85 :=
    ((spiReadReg_bounded true nmiSpiProtocolConfig stale).last fun r => .pure r.2).bind fun val =>
      ((spiWriteReg_bounded true nmiSpiProtocolConfig (withPktSz val)).last fun rc => .pure _).last
        fun _ => .pure _
  exact (spiReadReg_bounded true nmiChipid stale).bind fun r =>
    .ite (fun _ => .end _) fun _ => hset.last fun _ => .pure _

theorem nmSpiInit_bounded (stale : UInt32) : Bounded (nmSpiInit stale) 232 := by
  have hid := nmSpiIdentify_bounded stale
  refine (spiReadReg_bounded false nmiSpiProtocolConfig 0).bind (k := 183) fun r =>
    .ite (fun _ => ?_) fun _ => ?_
  · exact (spiReadReg_bounded true nmiSpiProtocolConfig 0).bind fun r =>
      .ite (fun _ => .end _) fun _ => hid
  · exact ((spiWriteReg_bounded false nmiSpiProtocolConfig (withoutCrc r.2)).bind fun rc =>
      .ite (fun _ => .end _) fun _ => hid).mono (by decide)

end NmSpi

end Winc1500
