import MynewtArduinoZero.Winc1500.SpiPackets

/-!
# Accesses over the bus

`nm_read_block` and `nm_write_block` cut a block into transfers of at most 248
bytes.  Seen from the host, the chip is a file of registers and a memory, and a
run of accesses does what it does on these, however long the chip takes to
answer.  `nm_spi_init` brings the driver and the chip to agree that there is no
CRC.
-/

namespace Winc1500

namespace NmSpi

open Dialogue
open Hif (m2mSuccess m2mErrBusFail)

variable {α β : Type} {c : Chip}

/-- `egstrNmBusCapabilities.u16MaxTrxSz` without the room for a command. -/
def u16MaxTrxSz : Nat := 256 - 8

/-- The loop of `nm_read_block` from `off` on. -/
def readBlocks (crcOff : Bool) (host : Int → UInt8) (u32Addr : UInt32) (puBuf : Int)
    (off u32Sz : Nat) : Wire (Int × (Int → UInt8)) := do
  if u32Sz ≤ u16MaxTrxSz then
    nmSpiReadBlock crcOff host u32Addr (puBuf + off) (.ofNat u32Sz)
  else
    let (s8Ret, host) ← nmSpiReadBlock crcOff host u32Addr (puBuf + off) (.ofNat u16MaxTrxSz)
    if s8Ret ≠ m2mSuccess then
      return (s8Ret, host)
    else
      readBlocks crcOff host (u32Addr + .ofNat u16MaxTrxSz) puBuf (off + u16MaxTrxSz)
        (u32Sz - u16MaxTrxSz)
termination_by u32Sz
decreasing_by simp only [u16MaxTrxSz] at *; omega

def nmReadBlock (crcOff : Bool) (host : Int → UInt8) (u32Addr : UInt32) (puBuf : Int)
    (u32Sz : UInt32) : Wire (Int × (Int → UInt8)) :=
  readBlocks crcOff host u32Addr puBuf 0 u32Sz.toNat

/-- The loop of `nm_write_block` from `off` on. -/
def writeBlocks (crcOff : Bool) (host : Int → UInt8) (u32Addr : UInt32) (puBuf : Int)
    (off u32Sz : Nat) : Wire Int := do
  if u32Sz ≤ u16MaxTrxSz then
    nmSpiWriteBlock crcOff host u32Addr (puBuf + off) (.ofNat u32Sz)
  else
    let s8Ret ← nmSpiWriteBlock crcOff host u32Addr (puBuf + off) (.ofNat u16MaxTrxSz)
    if s8Ret ≠ m2mSuccess then
      return s8Ret
    else
      writeBlocks crcOff host (u32Addr + .ofNat u16MaxTrxSz) puBuf (off + u16MaxTrxSz)
        (u32Sz - u16MaxTrxSz)
termination_by u32Sz
decreasing_by simp only [u16MaxTrxSz] at *; omega

def nmWriteBlock (crcOff : Bool) (host : Int → UInt8) (u32Addr : UInt32) (puBuf : Int)
    (u32Sz : UInt32) : Wire Int :=
  writeBlocks crcOff host u32Addr puBuf 0 u32Sz.toNat

/-! ## A block in parts -/

/-- The address of the next part, in the 24 bits the chip looks at. -/
theorem toNat_next (addr : UInt32) :
    (addr + .ofNat u16MaxTrxSz).toNat % 2 ^ 24 = (addr.toNat + u16MaxTrxSz) % 2 ^ 24 := by
  have hpart : (UInt32.ofNat u16MaxTrxSz).toNat = u16MaxTrxSz := rfl
  rw [UInt32.toNat_add, hpart]
  omega

theorem toNat_part {n : Nat} (h : n ≤ u16MaxTrxSz) : (UInt16.ofNat n).toNat = n := by
  have hmax : u16MaxTrxSz = 248 := rfl
  rw [UInt16.toNat_ofNat', Nat.mod_eq_of_lt (by omega)]

theorem nmSpiWriteBlock_ends (c : Chip) (host : Int → UInt8) (addr : UInt32) (buf : Int)
    {n : Nat} (hn : n ≤ u16MaxTrxSz) :
    Ends (nmSpiWriteBlock c.crcOff host addr buf (.ofNat n)) (c.to (.command [])) fun rc t =>
      rc = m2mSuccess ∧ t = (c.store addr.toNat (bytesFrom host buf n)).to (.command []) := by
  have hmax : u16MaxTrxSz = 248 := rfl
  have hwrite := nmSpiWrite_ends c host addr buf (.ofNat n)
    (by rw [toNat_part hn]; omega)
  rw [toNat_part hn] at hwrite
  refine hwrite.bind ?_
  rintro rc t ⟨rfl, rfl⟩
  exact .pure ⟨rfl, rfl⟩

theorem nmSpiReadBlock_ends (c : Chip) (host : Int → UInt8) (addr : UInt32) (buf : Int)
    {n : Nat} (hn : n ≤ u16MaxTrxSz) :
    Ends (nmSpiReadBlock c.crcOff host addr buf (.ofNat n)) (c.to (.command [])) fun r t =>
      r = (m2mSuccess, storeAt host buf (loadBytes c.mem addr.toNat n)) ∧
        t = c.to (.command []) := by
  have hmax : u16MaxTrxSz = 248 := rfl
  have hread := nmSpiRead_ends c host addr buf (.ofNat n) (by rw [toNat_part hn]; omega)
  rw [toNat_part hn] at hread
  refine hread.bind ?_
  rintro r t ⟨rfl, rfl⟩
  exact .pure ⟨rfl, rfl⟩

/-- A block of any size is stored in the memory of the chip. -/
theorem writeBlocks_ends (c : Chip) (host : Int → UInt8) (addr : UInt32) (buf : Int)
    (off sz : Nat) :
    Ends (writeBlocks c.crcOff host addr buf off sz) (c.to (.command [])) fun rc t =>
      rc = m2mSuccess ∧
        t = (c.store addr.toNat (bytesFrom host (buf + off) sz)).to (.command []) := by
  rw [writeBlocks]
  by_cases hlast : sz ≤ u16MaxTrxSz
  · rw [if_pos hlast]
    exact nmSpiWriteBlock_ends c host addr (buf + off) hlast
  · obtain ⟨n, rfl⟩ := Nat.exists_eq_add_of_le (Nat.le_of_not_le hlast)
    rw [if_neg hlast]
    refine Ends.bind (nmSpiWriteBlock_ends c host addr (buf + off) (Nat.le_refl _)) ?_
    rintro rc t ⟨rfl, rfl⟩
    rw [if_neg (by simp), Nat.add_sub_cancel_left]
    have hrest := writeBlocks_ends (c.store addr.toNat (bytesFrom host (buf + off) u16MaxTrxSz))
      host (addr + .ofNat u16MaxTrxSz) buf (off + u16MaxTrxSz) n
    rw [Chip.crcOff_store] at hrest
    refine hrest.mono ?_
    rintro rc t ⟨rfl, rfl⟩
    refine ⟨rfl, ?_⟩
    have hadr : buf + ((off + u16MaxTrxSz : Nat) : Int) = buf + off + (u16MaxTrxSz : Int) := by
      omega
    rw [bytesFrom_add, Chip.store_append, length_bytesFrom, hadr, Chip.store, Chip.store,
      storeBytes_congr _ _ (toNat_next addr)]
    rfl
termination_by sz
decreasing_by simp only [u16MaxTrxSz] at *; omega

/-- A block of any size is loaded from the memory of the chip. -/
theorem readBlocks_ends (c : Chip) (host : Int → UInt8) (addr : UInt32) (buf : Int)
    (off sz : Nat) :
    Ends (readBlocks c.crcOff host addr buf off sz) (c.to (.command [])) fun r t =>
      r = (m2mSuccess, storeAt host (buf + off) (loadBytes c.mem addr.toNat sz)) ∧
        t = c.to (.command []) := by
  rw [readBlocks]
  by_cases hlast : sz ≤ u16MaxTrxSz
  · rw [if_pos hlast]
    exact nmSpiReadBlock_ends c host addr (buf + off) hlast
  · obtain ⟨n, rfl⟩ := Nat.exists_eq_add_of_le (Nat.le_of_not_le hlast)
    rw [if_neg hlast]
    refine Ends.bind (nmSpiReadBlock_ends c host addr (buf + off) (Nat.le_refl _)) ?_
    rintro r t ⟨rfl, rfl⟩
    simp only
    rw [if_neg (by simp), Nat.add_sub_cancel_left]
    have hrest := readBlocks_ends c
      (storeAt host (buf + off) (loadBytes c.mem addr.toNat u16MaxTrxSz))
      (addr + .ofNat u16MaxTrxSz) buf (off + u16MaxTrxSz) n
    refine hrest.mono ?_
    rintro r t ⟨rfl, rfl⟩
    refine ⟨?_, rfl⟩
    have hadr : buf + ((off + u16MaxTrxSz : Nat) : Int) =
        buf + off + ((loadBytes c.mem addr.toNat u16MaxTrxSz).length : Int) := by
      rw [length_loadBytes]
      omega
    rw [loadBytes_add, storeAt_append, hadr, loadBytes_congr (toNat_next addr)]
termination_by sz
decreasing_by simp only [u16MaxTrxSz] at *; omega

/-! ## Initialisation -/

theorem or_land (x y z : UInt32) : (x ||| y) &&& z = (x &&& z) ||| (y &&& z) := by
  rw [← UInt32.toBitVec_inj]
  ext i hi
  simp [Bool.and_or_distrib_right]

/-- The bits that switch the CRC on are taken out of the configuration. -/
theorem and_withoutCrc (reg : UInt32) : withoutCrc reg &&& 0xc = 0 := by
  have hbits : (0xc : UInt32) &&& ~~~ (0xc : UInt32) = 0 := by decide
  have hsize : (0x50 : UInt32) &&& 0xc = 0 := by decide
  have hclear : reg &&& ~~~ (0xc : UInt32) &&& ~~~ (0x70 : UInt32) &&& 0xc =
      reg &&& ~~~ (0x70 : UInt32) &&& (0xc &&& ~~~ (0xc : UInt32)) := by ac_rfl
  rw [withoutCrc, or_land, hsize, hclear, hbits]
  simp

theorem withPktSz_and (val32 : UInt32) : withPktSz val32 &&& 0xc = val32 &&& 0xc := by
  have hmask : ~~~ (0x70 : UInt32) &&& 0xc = 0xc := by decide
  have hsize : (0x50 : UInt32) &&& 0xc = 0 := by decide
  rw [withPktSz, or_land, hsize, UInt32.and_assoc, hmask]
  simp

/-- The configuration `nm_spi_init` leaves. -/
def configured (reg : UInt32) : UInt32 := withPktSz (withoutCrc reg)

theorem Chip.regs_set (adr : Nat) (val : UInt32) : (c.set adr val).regs adr = val := by
  simp [Chip.set, setReg]

theorem Chip.set_set (adr : Nat) (val val' : UInt32) :
    (c.set adr val).set adr val' = c.set adr val' := by
  have hregs : setReg (setReg c.regs adr val) adr val' = setReg c.regs adr val' := by
    funext x
    by_cases hx : x = adr <;> simp [setReg, hx]
  rw [Chip.set, Chip.set, Chip.set, hregs]

theorem crcOff_eq (c : Chip) : c.crcOff = (c.regs 0xe824 &&& 0xc == 0) := rfl

theorem nmSpiReadReg_ends (c : Chip) (addr stale : UInt32) :
    Ends (nmSpiReadReg c.crcOff addr stale) (c.to (.command [])) fun val t =>
      val = c.regs (addr.toNat % 2 ^ 24) ∧ t = c.to (.command []) := by
  refine Ends.bind (spiReadReg_ends c addr stale) ?_
  rintro r t ⟨rfl, rfl⟩
  exact .pure ⟨rfl, rfl⟩

theorem nmSpiReadRegWithRet_ends (c : Chip) (addr val : UInt32) :
    Ends (nmSpiReadRegWithRet c.crcOff addr val) (c.to (.command [])) fun r t =>
      r = (m2mSuccess, c.regs (addr.toNat % 2 ^ 24)) ∧ t = c.to (.command []) := by
  refine Ends.bind (spiReadReg_ends c addr val) ?_
  rintro r t ⟨rfl, rfl⟩
  exact .pure ⟨rfl, rfl⟩

theorem nmSpiWriteReg_ends (c : Chip) (addr val : UInt32) :
    Ends (nmSpiWriteReg c.crcOff addr val) (c.to (.command [])) fun rc t =>
      rc = m2mSuccess ∧ t = (c.set (addr.toNat % 2 ^ 24) val).to (.command []) := by
  refine Ends.bind (spiWriteReg_ends c addr val) ?_
  rintro rc t ⟨rfl, rfl⟩
  exact .pure ⟨rfl, rfl⟩

/-- Where there is no CRC any more the rest of the initialisation sets the size of a packet. -/
theorem nmSpiIdentify_ends (hc : c.crcOff = true) (stale : UInt32) :
    Ends (nmSpiIdentify stale) (c.to (.command [])) fun r t =>
      r = (m2mSuccess, true) ∧
        t = (c.set 0xe824 (withPktSz (c.regs 0xe824))).to (.command []) := by
  have hid := spiReadReg_ends c nmiChipid stale
  have hcfg := nmSpiReadReg_ends c nmiSpiProtocolConfig stale
  have hset := nmSpiWriteReg_ends c nmiSpiProtocolConfig (withPktSz (c.regs 0xe824))
  rw [hc] at hid hcfg hset
  refine Ends.bind hid ?_
  rintro r t ⟨rfl, rfl⟩
  simp only
  rw [if_neg (by decide)]
  refine Ends.bind (Ends.bind hcfg ?_) fun _ t ht => .pure ⟨rfl, ht⟩
  rintro val t ⟨rfl, rfl⟩
  refine Ends.bind hset ?_
  rintro rc t ⟨-, rfl⟩
  exact .pure rfl

/-- The CRC checks are on when the driver begins, and off on both sides when it is done. -/
theorem nmSpiInit_ends (hc : c.crcOff = false) (stale : UInt32) :
    Ends (nmSpiInit stale) (c.to (.command [])) fun r t =>
      r = (m2mSuccess, true) ∧
        t = (c.set 0xe824 (configured (c.regs 0xe824))).to (.command []) := by
  have hcfg := spiReadReg_ends c nmiSpiProtocolConfig 0
  have hset := spiWriteReg_ends c nmiSpiProtocolConfig (withoutCrc (c.regs 0xe824))
  rw [hc] at hcfg hset
  refine Ends.bind hcfg ?_
  rintro r t ⟨rfl, rfl⟩
  simp only
  rw [if_neg (by decide)]
  refine Ends.bind hset ?_
  rintro rc t ⟨rfl, rfl⟩
  rw [if_neg (by decide)]
  have hoff : (c.set 0xe824 (withoutCrc (c.regs 0xe824))).crcOff = true := by
    rw [crcOff_eq, Chip.regs_set, and_withoutCrc]
    rfl
  refine (nmSpiIdentify_ends hoff stale).mono ?_
  rintro r t ⟨rfl, rfl⟩
  refine ⟨rfl, ?_⟩
  rw [Chip.set_set, Chip.regs_set, configured]

/-! ## Runs -/

/-- An access of the layers above. -/
inductive BusAccess where
  | readReg (u32Addr : UInt32)
  | writeReg (u32Addr u32Val : UInt32)
  | readBlock (u32Addr : UInt32) (puBuf : Int) (u32Sz : UInt32)
  | writeBlock (u32Addr : UInt32) (puBuf : Int) (u32Sz : UInt32)
deriving DecidableEq, Repr

/-- What an access returns, the value of a register, and the memory of the host then. -/
structure Outcome where
  rc : Int
  val : UInt32
  host : Int → UInt8

def perform (crcOff : Bool) (host : Int → UInt8) : BusAccess → Wire Outcome
  | .readReg u32Addr => do
      let (rc, val) ← nmSpiReadRegWithRet crcOff u32Addr 0
      return ⟨rc, val, host⟩
  | .writeReg u32Addr u32Val => do
      return ⟨← nmSpiWriteReg crcOff u32Addr u32Val, 0, host⟩
  | .readBlock u32Addr puBuf u32Sz => do
      let (rc, host) ← nmReadBlock crcOff host u32Addr puBuf u32Sz
      return ⟨rc, 0, host⟩
  | .writeBlock u32Addr puBuf u32Sz => do
      return ⟨← nmWriteBlock crcOff host u32Addr puBuf u32Sz, 0, host⟩

def performAll (crcOff : Bool) (host : Int → UInt8) : List BusAccess → Wire (List Outcome)
  | [] => return []
  | a :: as => do
      let x ← perform crcOff host a
      let xs ← performAll crcOff x.host as
      return x :: xs

/-- The chip as the host sees it. -/
structure Device where
  regs : Nat → UInt32
  mem : Nat → UInt8

/-- What an access does to registers and memory, without a bus. -/
def flat (d : Device) (host : Int → UInt8) : BusAccess → Outcome × Device
  | .readReg u32Addr => (⟨m2mSuccess, d.regs (u32Addr.toNat % 2 ^ 24), host⟩, d)
  | .writeReg u32Addr u32Val =>
      (⟨m2mSuccess, 0, host⟩, { d with regs := setReg d.regs (u32Addr.toNat % 2 ^ 24) u32Val })
  | .readBlock u32Addr puBuf u32Sz =>
      (⟨m2mSuccess, 0, storeAt host puBuf (loadBytes d.mem u32Addr.toNat u32Sz.toNat)⟩, d)
  | .writeBlock u32Addr puBuf u32Sz =>
      (⟨m2mSuccess, 0, host⟩,
        { d with mem := storeBytes d.mem u32Addr.toNat (bytesFrom host puBuf u32Sz.toNat) })

def flatAll (d : Device) (host : Int → UInt8) : List BusAccess → List Outcome × Device
  | [] => ([], d)
  | a :: as =>
      let (x, d) := flat d host a
      let (xs, d) := flatAll d x.host as
      (x :: xs, d)

/-- The chip that is behind the bus, between two commands. -/
def Device.chip (d : Device) : Chip := ⟨.command [], d.regs, d.mem⟩

/-- The access leaves the CRC checks of the chip as the driver takes them to be. -/
def BusAccess.KeepsCrc (crcOff : Bool) : BusAccess → Prop
  | .writeReg u32Addr u32Val =>
      u32Addr.toNat % 2 ^ 24 = 0xe824 → (u32Val &&& 0xc == 0) = crcOff
  | _ => True

theorem perform_ends {d : Device} {crcOff : Bool} (hcrc : d.chip.crcOff = crcOff)
    (host : Int → UInt8) (a : BusAccess) :
    Ends (perform crcOff host a) d.chip fun x t =>
      x = (flat d host a).1 ∧ t = (flat d host a).2.chip := by
  subst hcrc
  cases a with
  | readReg u32Addr =>
      refine Ends.bind (nmSpiReadRegWithRet_ends d.chip u32Addr 0) ?_
      rintro r t ⟨rfl, rfl⟩
      exact .pure ⟨rfl, rfl⟩
  | writeReg u32Addr u32Val =>
      refine Ends.bind (nmSpiWriteReg_ends d.chip u32Addr u32Val) ?_
      rintro rc t ⟨rfl, rfl⟩
      exact .pure ⟨rfl, rfl⟩
  | readBlock u32Addr puBuf u32Sz =>
      refine Ends.bind (readBlocks_ends d.chip host u32Addr puBuf 0 u32Sz.toNat) ?_
      rintro r t ⟨rfl, rfl⟩
      exact .pure ⟨by simp [flat, Device.chip], rfl⟩
  | writeBlock u32Addr puBuf u32Sz =>
      refine Ends.bind (writeBlocks_ends d.chip host u32Addr puBuf 0 u32Sz.toNat) ?_
      rintro rc t ⟨rfl, rfl⟩
      exact .pure ⟨rfl, by simp [flat, Device.chip, Chip.store, Chip.to]⟩

theorem crcOff_flat {d : Device} {crcOff : Bool} (hcrc : d.chip.crcOff = crcOff)
    (host : Int → UInt8) {a : BusAccess} (ha : a.KeepsCrc crcOff) :
    (flat d host a).2.chip.crcOff = crcOff := by
  cases a with
  | writeReg u32Addr u32Val =>
      by_cases hcfg : u32Addr.toNat % 2 ^ 24 = 0xe824
      · have hregs : (flat d host (.writeReg u32Addr u32Val)).2.regs 0xe824 = u32Val :=
          if_pos hcfg.symm
        exact (congrArg (· &&& 0xc == 0) hregs).trans (ha hcfg)
      · have hregs : (flat d host (.writeReg u32Addr u32Val)).2.regs 0xe824 = d.regs 0xe824 :=
          if_neg (Ne.symm hcfg)
        exact (congrArg (· &&& 0xc == 0) hregs).trans hcrc
  | readReg _ => exact hcrc
  | readBlock _ _ _ => exact hcrc
  | writeBlock _ _ _ => exact hcrc

/-- A run of accesses does over the bus what it does on registers and memory. -/
theorem performAll_ends {crcOff : Bool} :
    ∀ {as : List BusAccess} {d : Device} {host : Int → UInt8}, d.chip.crcOff = crcOff →
      (∀ a ∈ as, a.KeepsCrc crcOff) →
      Ends (performAll crcOff host as) d.chip fun xs t =>
        xs = (flatAll d host as).1 ∧ t = (flatAll d host as).2.chip
  | [], d, host, _, _ => .pure ⟨rfl, rfl⟩
  | a :: as, d, host, hcrc, has => by
      refine Ends.bind (perform_ends hcrc host a) ?_
      rintro x t ⟨rfl, rfl⟩
      have hnext := crcOff_flat hcrc host (has a List.mem_cons_self)
      refine Ends.bind (performAll_ends hnext fun b hb => has b (List.mem_cons_of_mem _ hb)) ?_
      rintro xs t ⟨rfl, rfl⟩
      exact .pure ⟨rfl, rfl⟩

/-- The registers behind `nm_spi_init`. -/
def Device.initialised (d : Device) : Device :=
  { d with regs := setReg d.regs 0xe824 (configured (d.regs 0xe824)) }

/-- The driver as it is used: it is initialised, and then there are accesses. -/
def session (stale : UInt32) (host : Int → UInt8) (as : List BusAccess) :
    Wire (Int × List Outcome) := do
  let (rc, crcOff) ← nmSpiInit stale
  let xs ← performAll crcOff host as
  return (rc, xs)

/-- With a chip that has its CRC checks on, the driver is initialised, and each access behind that
succeeds and does what it does on registers and memory. -/
theorem session_refines_flat {d : Device} (hon : d.chip.crcOff = false) (stale : UInt32)
    (host : Int → UInt8) {as : List BusAccess} (has : ∀ a ∈ as, a.KeepsCrc true) :
    Ends (session stale host as) d.chip fun r t =>
      r = (m2mSuccess, (flatAll d.initialised host as).1) ∧
        t = (flatAll d.initialised host as).2.chip := by
  have hoff : d.initialised.chip.crcOff = true := by
    have hcfg : d.initialised.chip.regs 0xe824 = configured (d.regs 0xe824) := by
      simp [Device.initialised, Device.chip, setReg]
    rw [crcOff_eq, hcfg, configured, withPktSz_and, and_withoutCrc]
    rfl
  refine Ends.bind (nmSpiInit_ends hon stale) ?_
  rintro r t ⟨rfl, rfl⟩
  refine Ends.bind (performAll_ends hoff has) ?_
  rintro xs t ⟨rfl, rfl⟩
  exact .pure ⟨rfl, rfl⟩

/-- The chip as it comes out of reset, as far as the bus goes. -/
def outOfReset : Device := ⟨fun _ => 0xc, fun _ => 0⟩

/-- The chip is woken, and a block is written and read. -/
def wakeAndCopy : List BusAccess :=
  [.writeReg 0x1074 0x5678, .writeBlock 0x30000 0 600, .readBlock 0x30000 1000 600]

theorem session_refines_flat_wakeAndCopy :
    Ends (session 0 (fun _ => 7) wakeAndCopy) outOfReset.chip fun r t =>
      r = (m2mSuccess, (flatAll outOfReset.initialised (fun _ => 7) wakeAndCopy).1) ∧
        t = (flatAll outOfReset.initialised (fun _ => 7) wakeAndCopy).2.chip :=
  session_refines_flat rfl 0 (fun _ => 7) (by simp [wakeAndCopy, BusAccess.KeepsCrc])

end NmSpi

end Winc1500
