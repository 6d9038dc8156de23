import MynewtArduinoZero.Winc1500.SpiDriver

/-!
# Packets

Data goes over in packets of up to 8 KB.  The driver stores and loads at an index
of sixteen bits with a sign, which is the index meant as long as there are no
more than 32 KB.  Up to there the data that arrives is the data that was sent, in
either direction, and registers and blocks are read and written as they are in
the chip.
-/

namespace Winc1500

namespace NmSpi

open Dialogue LittleEndian
open Hif (m2mSuccess m2mErrBusFail)

variable {c : Chip}

/-! ## Buffers -/

@[simp] theorem length_bytesFrom (host : Int → UInt8) (p : Int) (n : Nat) :
    (bytesFrom host p n).length = n := by simp [bytesFrom]

theorem getElem?_bytesFrom (host : Int → UInt8) (p : Int) {n i : Nat} (h : i < n) :
    (bytesFrom host p n)[i]? = some (host (p + i)) := by simp [bytesFrom, h]

theorem bytesFrom_add (host : Int → UInt8) (p : Int) (m n : Nat) :
    bytesFrom host p (m + n) = bytesFrom host p m ++ bytesFrom host (p + m) n := by
  simp [bytesFrom, List.range_add, Int.add_assoc]

@[simp] theorem storeAt_nil (host : Int → UInt8) (p : Int) : storeAt host p [] = host := by
  funext x
  simp [storeAt]

theorem storeAt_append (host : Int → UInt8) (p : Int) (l l' : List UInt8) :
    storeAt host p (l ++ l') = storeAt (storeAt host p l) (p + l.length) l' := by
  funext x
  by_cases hfirst : x < p + l.length
  · by_cases hp : p ≤ x
    · have hlt : (x - p).toNat < l.length := by omega
      simp [storeAt, hp, List.getElem?_append_left hlt, show ¬ p + l.length ≤ x by omega]
    · simp [storeAt, hp, show ¬ p + l.length ≤ x by omega]
  · have hge : l.length ≤ (x - p).toNat := by omega
    have hrest : (x - p).toNat - l.length = (x - (p + l.length)).toNat := by omega
    simp [storeAt, show p ≤ x by omega, show p + l.length ≤ x by omega,
      List.getElem?_append_right hge, hrest, List.getElem?_eq_none hge]

/-- A sum that sixteen bits with a sign can keep. -/
theorem toSint16_of_lt {x : Int} (h0 : 0 ≤ x) (h : x < 32768) : toSint16 x = x := by
  rw [toSint16, Int.bmod_eq_of_le] <;> omega

theorem storeBytes_append (mem : Nat → UInt8) (adr : Nat) (l l' : List UInt8) :
    storeBytes mem adr (l ++ l') = storeBytes (storeBytes mem adr l) (adr + l.length) l' := by
  induction l generalizing mem adr with
  | nil => rfl
  | cons b l ih =>
      rw [List.cons_append, storeBytes, ih, storeBytes, List.length_cons, Nat.add_assoc,
        Nat.add_comm 1]

/-! ## Packets that come in -/

/-- The bytes of a packet are read one behind the other. -/
theorem clock_sending {rest : List UInt8} {crc : Bool} : ∀ {l : List UInt8}, l ≠ [] →
    Ensures Slave.Step (clock (List.replicate l.length 0)) ⟨true, c.to (.sending l rest crc)⟩
      fun r s => ∃ t, s = ⟨true, t⟩ ∧ (r = (l, m2mSuccess) ∧ t = c.to (.sentPacket rest crc))
  | [], hne => absurd rfl hne
  | [b], _ => by
      refine clock_cons ⟨b, _, by simp [Chip.exchange, Chip.to]; rfl⟩ fun rx t hrx => ?_
      by_cases hb : rx = b
      · simp [Chip.exchange, Chip.to, hb] at hrx
        subst hrx
        exact ⟨_, rfl, by rw [hb], rfl⟩
      · simp [Chip.exchange, Chip.to, hb] at hrx
  | b :: b' :: l, _ => by
      refine clock_cons ⟨b, _, by simp [Chip.exchange, Chip.to]; rfl⟩ fun rx t hrx => ?_
      by_cases hb : rx = b
      · simp [Chip.exchange, Chip.to, hb] at hrx
        subst hrx
        refine Ensures.mono (clock_sending (List.cons_ne_nil b' l)) ?_
        rintro r s ⟨t, rfl, rfl, rfl⟩
        exact ⟨_, rfl, by rw [hb], rfl⟩
      · simp [Chip.exchange, Chip.to, hb] at hrx

theorem length_take_dataPktSz (data : List UInt8) :
    min data.length dataPktSz = (data.take dataPktSz).length := by
  rw [List.length_take, Nat.min_comm]

/-- A packet is read as it is sent. -/
theorem readPacket_ends {data : List UInt8} {crc : Bool} :
    Ends (nmiSpiRead (min data.length dataPktSz)) (c.to (.sendPacket data crc)) fun r t =>
      r = (data.take dataPktSz, m2mSuccess) ∧
        t = c.to (.sentPacket (data.drop dataPktSz) crc) := by
  rw [length_take_dataPktSz]
  cases data with
  | nil => exact nmSpiRw_ends ⟨_, rfl, rfl, rfl⟩
  | cons b l =>
      have hne : (b :: l).take dataPktSz ≠ [] := by simp [dataPktSz]
      exact nmSpiRw_ends (clock_sending hne)

/-- The CRC of a packet is read where there is one. -/
theorem readCrc_ends {crcOff clockless : Bool} {rest : List UInt8} :
    Ends (readCrc crcOff clockless) (c.to (.sentPacket rest (!(clockless || crcOff))))
      fun rc t => rc = m2mSuccess ∧ t = c.to (.sent rest (!(clockless || crcOff))) := by
  cases hcrc : clockless || crcOff with
  | true =>
      rw [readCrc, if_pos (by simpa using hcrc)]
      exact .pure ⟨rfl, rfl⟩
  | false =>
      rw [readCrc, if_neg (by simpa using hcrc)]
      have hread : Ends (nmiSpiRead 2) (c.to (.sentPacket rest true)) fun r t =>
          r.2 = m2mSuccess ∧ t = c.to (.sent rest true) := by
        refine nmSpiRw_ends (clock_cons ⟨0, _, rfl⟩ fun rx t hrx => ?_)
        cases hrx
        refine clock_cons ⟨0, _, rfl⟩ fun rx t hrx => ?_
        cases hrx
        exact ⟨_, rfl, rfl, rfl⟩
      exact hread.bind fun r t hr => .pure hr

/-- The data that comes in is the data the chip sends. -/
theorem spiDataRead_ends {crcOff clockless : Bool} {host : Int → UInt8} {b ix : Int}
    {data : List UInt8} (hix : 0 ≤ ix) (hlen : ix + data.length ≤ 32768) :
    Ends (spiDataRead crcOff clockless host b ix data.length)
      (c.to (.header data (!(clockless || crcOff)) 9)) fun r t =>
        r = (nOk, storeAt host (b + ix) data) ∧ t = c.to (.command []) := by
  rw [spiDataRead]
  refine Ends.bind (dataRsp_ends (by omega)) ?_
  rintro r t ⟨⟨left, hleft, rfl⟩, rfl⟩
  simp only
  rw [if_neg (by omega)]
  refine Ends.bind readPacket_ends ?_
  rintro r t ⟨rfl, rfl⟩
  simp only
  rw [if_neg (by simp)]
  refine Ends.bind readCrc_ends ?_
  rintro rc t ⟨rfl, rfl⟩
  rw [if_neg (by simp)]
  by_cases hmore : dataPktSz < data.length
  · -- a full packet, and more behind it
    have hne : data.drop dataPktSz ≠ [] := by
      rw [ne_eq, List.drop_eq_nil_iff]
      omega
    have hrest : (data.drop dataPktSz).length = data.length - dataPktSz := List.length_drop
    have hfull : (data.take dataPktSz).length = dataPktSz := by
      rw [List.length_take]
      omega
    have hpkt : dataPktSz = 8192 := rfl
    have hnext : toSint16 (ix + dataPktSz) = ix + dataPktSz := toSint16_of_lt (by omega) (by omega)
    rw [if_pos hmore, hnext, Phase.sent, if_neg hne, ← hrest]
    refine (spiDataRead_ends (by omega) (by omega)).mono ?_
    rintro r t ⟨rfl, rfl⟩
    refine ⟨?_, rfl⟩
    have hsplit := storeAt_append host (b + ix) (data.take dataPktSz) (data.drop dataPktSz)
    rw [hfull, List.take_append_drop] at hsplit
    rw [← Int.add_assoc, hsplit]
  · have hall : data.length ≤ dataPktSz := by omega
    rw [if_neg hmore, Phase.sent, if_pos (List.drop_eq_nil_of_le hall), List.take_of_length_le hall]
    exact .pure ⟨rfl, rfl⟩
termination_by data.length
decreasing_by
  rw [hrest, hpkt]
  omega

/-! ## Packets that go out -/

@[simp] theorem Chip.crcOff_store (adr : Nat) (l : List UInt8) :
    (c.store adr l).crcOff = c.crcOff := rfl

@[simp] theorem Chip.store_nil (adr : Nat) : c.store adr [] = c := rfl

theorem Chip.store_append (adr : Nat) (l l' : List UInt8) :
    c.store adr (l ++ l') = (c.store adr l).store (adr + l.length) l' := by
  rw [Chip.store, storeBytes_append]
  rfl

/-- The bytes of a packet are taken one behind the other. -/
theorem hears_body {left : Nat} : ∀ {l : List UInt8} {adr : Nat} {c : Chip}, l ≠ [] →
    Hears (c.to (.body adr l.length left)) l
      ((c.store adr l).to (.takenPacket c.crcOff (adr + l.length) left))
  | [], _, _, hne => absurd rfl hne
  | [b], adr, c, _ => ⟨_, fun _ => rfl, rfl⟩
  | b :: b' :: l, adr, c, _ => by
      have hadr : adr + (b :: b' :: l).length = adr + 1 + (b' :: l).length := by
        simp only [List.length_cons]
        omega
      have hrest : Hears ((c.store adr [b]).to (.body (adr + 1) (b' :: l).length left)) (b' :: l)
          (((c.store adr [b]).store (adr + 1) (b' :: l)).to
            (.takenPacket c.crcOff (adr + 1 + (b' :: l).length) left)) :=
        hears_body (List.cons_ne_nil _ _)
      rw [hadr]
      exact ⟨_, fun _ => rfl, hrest⟩

/-- A packet is taken as it is written. -/
theorem hears_packet (c : Chip) (adr : Nat) {left : Nat} {l : List UInt8} (hl : l.length = min left dataPktSz) :
    Hears (c.to (.takePacket c.crcOff adr left)) l
      ((c.store adr l).to (.takenPacket c.crcOff (adr + l.length) (left - l.length))) := by
  by_cases hzero : left = 0
  · obtain rfl : l = [] := List.eq_nil_of_length_eq_zero (by omega)
    rw [Phase.takePacket, if_pos hzero, hzero]
    rfl
  · have hne : l ≠ [] := by
      rintro rfl
      simp [dataPktSz] at hl
      omega
    rw [Phase.takePacket, if_neg hzero, ← hl]
    exact hears_body hne

theorem writeCrc_ends {crcOff : Bool} {adr left : Nat} :
    Ends (writeCrc crcOff) (c.to (.takenPacket crcOff adr left)) fun rc t =>
      rc = m2mSuccess ∧ t = c.to (.taken adr left) := by
  cases crcOff with
  | true => exact .pure ⟨rfl, rfl⟩
  | false => exact nmiSpiWrite_ends ⟨_, fun _ => rfl, _, fun _ => rfl, rfl⟩

/-- The header of a packet says which of the packets it is. -/
theorem hears_order {adr left : Nat} {ix : Int} {first : Bool} (hfirst : first = decide (ix = 0)) :
    Hears (c.to (.packet adr left first)) [0xf0 ||| order ix left]
      (c.to (.takePacket c.crcOff adr left)) := by
  refine ⟨_, fun _ => ?_, rfl⟩
  simp [Chip.exchange, Chip.to, order, hfirst, Chip.crcOff]

/-- The index behind a packet, from the place in the data it stands for. -/
theorem toSint16_add (p : Nat) :
    toSint16 (toSint16 p + dataPktSz) = toSint16 (p + dataPktSz : Nat) := by
  rw [toSint16, toSint16, Int.bmod_add_bmod, toSint16, Int.natCast_add]

/-- The index is zero at the first packet only. -/
theorem toSint16_eq_zero {p : Nat} (hp : p < 65536) : toSint16 p = 0 ↔ p = 0 := by
  rw [toSint16, Int.bmod_def]
  split <;> omega

/-- The bytes `spi_data_write` sends, packet by packet, from the place `p` in the data on. -/
def sentBytes (host : Int → UInt8) (b : Int) (p sz : Nat) : List UInt8 :=
  if dataPktSz < sz then
    bytesFrom host (b + toSint16 p) dataPktSz ++ sentBytes host b (p + dataPktSz) (sz - dataPktSz)
  else bytesFrom host (b + toSint16 p) sz
termination_by sz
decreasing_by simp only [dataPktSz] at *; omega

/-- The memory of the chip takes the bytes that are sent. -/
theorem spiDataWrite_ends (c : Chip) (host : Int → UInt8) (b : Int) (adr p sz : Nat)
    (hlen : p + sz < 65536) :
    Ends (spiDataWrite c.crcOff host b (toSint16 p) sz) (c.to (.packet adr sz (decide (p = 0))))
      fun rc t => rc = nOk ∧ t = (c.store adr (sentBytes host b p sz)).to (.command []) := by
  have hpkt : dataPktSz = 8192 := rfl
  have hfirst : decide (p = 0) = decide (toSint16 p = 0) := by
    rw [decide_eq_decide, toSint16_eq_zero (by omega)]
  rw [spiDataWrite, sentBytes]
  refine Ends.bind (nmiSpiWrite_ends (hears_order hfirst)) ?_
  rintro rc t ⟨rfl, rfl⟩
  rw [if_neg (by simp)]
  have hpacket := hears_packet c adr
    (length_bytesFrom host (b + toSint16 p) (min sz dataPktSz))
  rw [length_bytesFrom] at hpacket
  refine Ends.bind (nmiSpiWrite_ends hpacket) ?_
  rintro rc t ⟨rfl, rfl⟩
  rw [if_neg (by simp)]
  refine Ends.bind writeCrc_ends ?_
  rintro rc t ⟨rfl, rfl⟩
  rw [if_neg (by simp)]
  by_cases hmore : dataPktSz < sz
  · -- a full packet, and more behind it
    have hmin : min sz dataPktSz = dataPktSz := by omega
    obtain ⟨n, rfl⟩ := Nat.exists_eq_add_of_le (Nat.le_of_lt hmore)
    rw [if_pos hmore, if_pos hmore, toSint16_add, hmin, Phase.taken, if_neg (by omega),
      Nat.add_sub_cancel_left]
    have hrest := spiDataWrite_ends (c.store adr (bytesFrom host (b + toSint16 p) dataPktSz)) host b
      (adr + dataPktSz) (p + dataPktSz) n (by omega)
    rw [Chip.crcOff_store, decide_eq_false (by omega)] at hrest
    refine hrest.mono ?_
    rintro rc t ⟨rfl, rfl⟩
    refine ⟨rfl, ?_⟩
    rw [Chip.store_append, length_bytesFrom]
  · have hall : min sz dataPktSz = sz := by omega
    rw [if_neg hmore, if_neg hmore, hall, Phase.taken, if_pos (Nat.sub_self sz)]
    exact .pure ⟨rfl, rfl⟩
termination_by sz

/-- Up to 32 KB, what is sent is what is in the buffer. -/
theorem sentBytes_eq (host : Int → UInt8) (b : Int) {p sz : Nat} (h : p + sz ≤ 32768) :
    sentBytes host b p sz = bytesFrom host (b + p) sz := by
  have hpkt : dataPktSz = 8192 := rfl
  rw [sentBytes]
  by_cases hmore : dataPktSz < sz
  · obtain ⟨n, rfl⟩ := Nat.exists_eq_add_of_le (Nat.le_of_lt hmore)
    have hp : toSint16 p = p := toSint16_of_lt (Int.natCast_nonneg p) (by omega)
    rw [if_pos hmore, Nat.add_sub_cancel_left, hp, sentBytes_eq host b (by omega), bytesFrom_add,
      Int.natCast_add, Int.add_assoc]
  · rw [if_neg hmore]
    by_cases hzero : sz = 0
    · subst hzero
      simp [bytesFrom]
    · rw [toSint16_of_lt (Int.natCast_nonneg p) (by omega)]
termination_by sz

/-! ## Registers -/

/-- The registers without clock have small numbers. -/
theorem regOfField_internalField {addr : UInt32} (h : addr.toNat < 2 ^ 15) :
    regOfField (internalField addr true) = addr.toNat % 2 ^ 24 := by
  simp only [regOfField, internalField, if_true]
  omega

theorem spiWriteReg_ends (c : Chip) (addr u32data : UInt32) :
    Ends (spiWriteReg c.crcOff addr u32data) (c.to (.command [])) fun rc t =>
      rc = nOk ∧ t = (c.set (addr.toNat % 2 ^ 24) u32data).to (.command []) := by
  by_cases hclockless : addr ≤ 0x30
  · have hsmall : addr.toNat < 2 ^ 15 := by
      have hle : addr.toNat ≤ 48 := hclockless
      omega
    simp only [spiWriteReg, hclockless, decide_true, if_true]
    refine command_ends (c.set (addr.toNat % 2 ^ 24) u32data) (by decide) (by decide)
      (by decide) ?_ (.pure ⟨rfl, rfl⟩)
    simp [Cmd.asked, Chip.accept, regOfField_internalField hsmall]
  · simp only [spiWriteReg, hclockless, decide_false, Bool.false_eq_true, if_false]
    refine command_ends (c.set (addr.toNat % 2 ^ 24) u32data) (by decide) (by decide)
      (by decide) ?_ (.pure ⟨rfl, rfl⟩)
    simp [Cmd.asked, Chip.accept]

/-- What `spi_read_reg` makes of the four bytes in its buffer. -/
def wordOf (tmp : Int → UInt8) : UInt32 :=
  (tmp 0).toUInt32 ||| (tmp 1).toUInt32 <<< 8 ||| (tmp 2).toUInt32 <<< 16 |||
    (tmp 3).toUInt32 <<< 24

theorem wordOf_leBytes (v : UInt32) :
    wordOf (storeAt (fun _ => 0) (0 + 0) (leBytes 4 v.toNat)) = v := by
  refine UInt32.toNat_inj.mp ((toNat_or_four ..).trans ?_)
  exact leValue_leBytes_of_lt (k := 4) v.toNat_lt

/-- The four bytes of a register are read into the word they are the bytes of. -/
theorem readWord_ends {crcOff clockless : Bool} {v : UInt32} {post : Int × UInt32 → Chip → Prop}
    {f : Int × (Int → UInt8) → Wire (Int × UInt32)}
    (hf : ∀ tmp, wordOf tmp = v → Ends (f (nOk, tmp)) (c.to (.command [])) post) :
    Ends (spiDataRead crcOff clockless (fun _ => 0) 0 0 4 >>= f)
      (c.to (.header (leBytes 4 v.toNat) (!(clockless || crcOff)) 9)) post := by
  have hlen : (leBytes 4 v.toNat).length = 4 := length_leBytes 4 v.toNat
  have hread : Ends (spiDataRead crcOff clockless (fun _ => 0) 0 0 (leBytes 4 v.toNat).length)
      (c.to (.header (leBytes 4 v.toNat) (!(clockless || crcOff)) 9)) fun r t =>
        r = (nOk, storeAt (fun _ => 0) (0 + 0) (leBytes 4 v.toNat)) ∧ t = c.to (.command []) :=
    spiDataRead_ends (Int.le_refl 0) (by rw [hlen]; decide)
  rw [hlen] at hread
  refine hread.bind ?_
  rintro r t ⟨rfl, rfl⟩
  exact hf _ (wordOf_leBytes v)

theorem spiReadReg_ends (c : Chip) (addr u32data : UInt32) :
    Ends (spiReadReg c.crcOff addr u32data) (c.to (.command [])) fun r t =>
      r = (nOk, c.regs (addr.toNat % 2 ^ 24)) ∧ t = c.to (.command []) := by
  by_cases hclockless : addr ≤ 0xff
  · have hsmall : addr.toNat < 2 ^ 15 := by
      have hle : addr.toNat ≤ 255 := hclockless
      omega
    simp only [spiReadReg, hclockless, decide_true, if_true]
    refine command_ends c (by decide) (by decide) (by decide) ?_
      (readWord_ends (v := c.regs (addr.toNat % 2 ^ 24)) ?_)
    · simp [Cmd.asked, Chip.accept, regOfField_internalField hsmall]
    · rintro tmp htmp
      rw [if_neg (by simp)]
      exact .pure ⟨Prod.ext rfl htmp, rfl⟩
  · simp only [spiReadReg, hclockless, decide_false, Bool.false_eq_true, if_false]
    refine command_ends c (by decide) (by decide) (by decide) ?_
      (readWord_ends (v := c.regs (addr.toNat % 2 ^ 24)) ?_)
    · simp [Cmd.asked, Chip.accept]
    · rintro tmp htmp
      rw [if_neg (by simp)]
      exact .pure ⟨Prod.ext rfl htmp, rfl⟩

/-! ## Blocks -/

theorem storeByte_congr {adr adr' : Nat} (h : adr % 2 ^ 24 = adr' % 2 ^ 24) (mem : Nat → UInt8)
    (b : UInt8) : storeByte mem adr b = storeByte mem adr' b := by
  funext x
  simp only [storeByte, h]

theorem storeBytes_congr (l : List UInt8) :
    ∀ {adr adr' : Nat} (mem : Nat → UInt8), adr % 2 ^ 24 = adr' % 2 ^ 24 →
      storeBytes mem adr l = storeBytes mem adr' l := by
  induction l with
  | nil => intros; rfl
  | cons b l ih =>
      intro adr adr' mem h
      have hnext : (adr + 1) % 2 ^ 24 = (adr' + 1) % 2 ^ 24 := by omega
      rw [storeBytes, storeBytes, storeByte_congr h, ih _ hnext]

theorem loadBytes_congr {adr adr' : Nat} (h : adr % 2 ^ 24 = adr' % 2 ^ 24) (mem : Nat → UInt8)
    (n : Nat) : loadBytes mem adr n = loadBytes mem adr' n := by
  refine List.map_congr_left fun i _ => ?_
  rw [Nat.add_mod, h, ← Nat.add_mod]

@[simp] theorem length_loadBytes (mem : Nat → UInt8) (adr n : Nat) :
    (loadBytes mem adr n).length = n := by simp [loadBytes]

theorem loadBytes_add (mem : Nat → UInt8) (adr m n : Nat) :
    loadBytes mem adr (m + n) = loadBytes mem adr m ++ loadBytes mem (adr + m) n := by
  simp [loadBytes, List.range_add, Nat.add_assoc]

/-- The 24 bits of an address, and the size of a block. -/
theorem asked_block (addr : UInt32) (size : UInt16) :
    Cmd.dmaExtWrite.asked addr 0 size.toUInt32 false =
        .dmaExtWrite (addr.toNat % 2 ^ 24) size.toNat ∧
      Cmd.dmaExtRead.asked addr 0 size.toUInt32 false =
        .dmaExtRead (addr.toNat % 2 ^ 24) size.toNat := by
  have hsize : size.toUInt32.toNat % 2 ^ 24 = size.toNat := by
    have hlt : size.toNat < 2 ^ 16 := size.toNat_lt
    rw [UInt16.toNat_toUInt32]
    omega
  simp only [Cmd.asked, hsize, and_self]

theorem nmSpiWrite_ends_sent (c : Chip) (host : Int → UInt8) (addr : UInt32) (buf : Int)
    (size : UInt16) :
    Ends (nmSpiWrite c.crcOff host addr buf size) (c.to (.command [])) fun rc t =>
      rc = nOk ∧ t = (c.store addr.toNat (sentBytes host buf 0 size.toNat)).to (.command []) := by
  have hlen : 0 + size.toNat < 65536 := by
    rw [Nat.zero_add]
    exact size.toNat_lt
  refine command_ends c (by decide) (by decide) (by decide)
    (by rw [(asked_block addr size).1]; rfl) ?_
  refine Ends.bind (spiDataWrite_ends c host buf (addr.toNat % 2 ^ 24) 0 _ hlen) ?_
  rintro rc t ⟨rfl, rfl⟩
  rw [if_neg (by simp)]
  refine .pure ⟨rfl, ?_⟩
  rw [Chip.store, Chip.store, storeBytes_congr _ c.mem (Nat.mod_mod ..)]

theorem nmSpiWrite_ends (c : Chip) (host : Int → UInt8) (addr : UInt32) (buf : Int)
    (size : UInt16) (hsize : size.toNat ≤ 32768) :
    Ends (nmSpiWrite c.crcOff host addr buf size) (c.to (.command [])) fun rc t =>
      rc = nOk ∧ t = (c.store addr.toNat (bytesFrom host buf size.toNat)).to (.command []) := by
  have hsent := sentBytes_eq host buf (show 0 + size.toNat ≤ 32768 by omega)
  have hwrite := nmSpiWrite_ends_sent c host addr buf size
  rwa [hsent, Int.natCast_zero, Int.add_zero] at hwrite

theorem nmSpiRead_ends (c : Chip) (host : Int → UInt8) (addr : UInt32) (buf : Int)
    (size : UInt16) (hsize : size.toNat ≤ 32768) :
    Ends (nmSpiRead c.crcOff host addr buf size) (c.to (.command [])) fun r t =>
      r = (nOk, storeAt host buf (loadBytes c.mem addr.toNat size.toNat)) ∧
        t = c.to (.command []) := by
  have hlen : (loadBytes c.mem addr.toNat size.toNat).length = size.toNat := length_loadBytes ..
  have hread : Ends (spiDataRead c.crcOff false host buf 0
      (loadBytes c.mem addr.toNat size.toNat).length)
      (c.to (.header (loadBytes c.mem addr.toNat size.toNat) (!(false || c.crcOff)) 9)) fun r t =>
        r = (nOk, storeAt host (buf + 0) (loadBytes c.mem addr.toNat size.toNat)) ∧
          t = c.to (.command []) :=
    spiDataRead_ends (Int.le_refl 0) (by rw [hlen]; omega)
  rw [hlen] at hread
  refine command_ends c (by decide) (by decide) (by decide)
    (by rw [(asked_block addr size).2, Chip.accept, loadBytes_congr (Nat.mod_mod ..)]) ?_
  refine hread.bind ?_
  rintro r t ⟨rfl, rfl⟩
  simp only
  rw [if_neg (by simp), Int.add_zero]
  exact .pure ⟨rfl, rfl⟩

/-! ## How much can be written -/

theorem storeBytes_of_ne {x : Nat} : ∀ {l : List UInt8} {adr : Nat} {mem : Nat → UInt8},
    (∀ i < l.length, (adr + i) % 2 ^ 24 ≠ x) → storeBytes mem adr l x = mem x
  | [], _, _, _ => rfl
  | b :: l, adr, mem, h => by
      have hhead : x ≠ adr % 2 ^ 24 := (h 0 (Nat.succ_pos _)).symm
      rw [storeBytes, storeBytes_of_ne fun i hi => ?_, storeByte, if_neg hhead]
      have hnext := h (i + 1) (by rw [List.length_cons]; omega)
      rwa [Nat.add_assoc, Nat.add_comm 1]

/-- What is stored in the memory is loaded from it. -/
theorem loadBytes_storeBytes (mem : Nat → UInt8) (adr : Nat) {l : List UInt8}
    (h : l.length ≤ 2 ^ 24) : loadBytes (storeBytes mem adr l) adr l.length = l := by
  induction l generalizing adr mem with
  | nil => rfl
  | cons b l ih =>
      rw [List.length_cons] at h
      have hfirst : storeBytes (storeByte mem adr b) (adr + 1) l (adr % 2 ^ 24) = b := by
        rw [storeBytes_of_ne fun i hi => by omega, storeByte, if_pos rfl]
      have hcons : loadBytes (storeBytes (storeByte mem adr b) (adr + 1) l) adr (l.length + 1) =
          b :: loadBytes (storeBytes (storeByte mem adr b) (adr + 1) l) (adr + 1) l.length := by
        rw [Nat.add_comm l.length 1, loadBytes_add]
        exact congrArg (· :: _) hfirst
      rw [storeBytes, List.length_cons, hcons, ih _ _ (by omega)]

theorem length_sentBytes (host : Int → UInt8) (b : Int) (p sz : Nat) :
    (sentBytes host b p sz).length = sz := by
  rw [sentBytes]
  split
  · rename_i hmore
    rw [List.length_append, length_bytesFrom, length_sentBytes host b, Nat.add_sub_cancel'
      (Nat.le_of_lt hmore)]
  · exact length_bytesFrom ..
termination_by sz
decreasing_by simp only [dataPktSz] at *; omega

/-- A place in the data is read at the index kept for its packet. -/
theorem getElem_sentBytes (host : Int → UInt8) (b : Int) {p sz i : Nat} (h : i < sz) :
    (sentBytes host b p sz)[i]? =
      some (host (b + toSint16 (p + i / dataPktSz * dataPktSz : Nat) + (i % dataPktSz : Nat))) := by
  have hpkt : dataPktSz = 8192 := rfl
  rw [sentBytes]
  by_cases hmore : dataPktSz < sz
  · rw [if_pos hmore]
    by_cases hfirst : i < dataPktSz
    · have hdiv : i / dataPktSz = 0 := Nat.div_eq_of_lt hfirst
      have hmod : i % dataPktSz = i := Nat.mod_eq_of_lt hfirst
      rw [List.getElem?_append_left (by rwa [length_bytesFrom]), getElem?_bytesFrom _ _ hfirst,
        hdiv, hmod, Nat.zero_mul, Nat.add_zero]
    · have hplace : p + dataPktSz + (i - dataPktSz) / dataPktSz * dataPktSz =
          p + i / dataPktSz * dataPktSz := by
        rw [hpkt]
        omega
      have hmod : (i - dataPktSz) % dataPktSz = i % dataPktSz := by
        rw [hpkt]
        omega
      rw [List.getElem?_append_right (by rw [length_bytesFrom]; omega), length_bytesFrom,
        getElem_sentBytes host b (by omega), hplace, hmod]
  · by_cases hfull : i < dataPktSz
    · have hdiv : i / dataPktSz = 0 := Nat.div_eq_of_lt hfull
      have hmod : i % dataPktSz = i := Nat.mod_eq_of_lt hfull
      rw [if_neg hmore, getElem?_bytesFrom _ _ h, hdiv, hmod, Nat.zero_mul, Nat.add_zero]
    · omega
termination_by sz
decreasing_by simp only [dataPktSz] at *; omega

/-- `spi_data_write` sends the buffer, whatever is in it, exactly up to 32 KB. -/
theorem nmSpiWrite_exact (c : Chip) (addr : UInt32) (buf : Int) (size : UInt16) :
    (∀ host : Int → UInt8, Ends (nmSpiWrite c.crcOff host addr buf size) (c.to (.command []))
      fun _ t => t = (c.store addr.toNat (bytesFrom host buf size.toNat)).to (.command [])) ↔
      size.toNat ≤ 32768 := by
  constructor
  · intro h
    by_contra hlarge
    -- a byte that is in front of the buffer only
    have hends := h fun x => if x = buf - 32768 then 1 else 0
    obtain ⟨rc, t, ⟨-, rfl⟩, hstored⟩ := (nmSpiWrite_ends_sent c _ addr buf size).exists_both hends
    have hsize : size.toNat < 2 ^ 16 := size.toNat_lt
    have hmem := congrArg (fun d : Chip => loadBytes d.mem addr.toNat size.toNat) hstored
    have hsent := loadBytes_storeBytes c.mem addr.toNat
      (l := sentBytes (fun x => if x = buf - 32768 then 1 else 0) buf 0 size.toNat)
      (by rw [length_sentBytes]; omega)
    have hbuf := loadBytes_storeBytes c.mem addr.toNat
      (l := bytesFrom (fun x => if x = buf - 32768 then 1 else 0) buf size.toNat)
      (by rw [length_bytesFrom]; omega)
    rw [length_sentBytes] at hsent
    rw [length_bytesFrom] at hbuf
    have heq := hsent.symm.trans (hmem.trans hbuf)
    have hplace := congrArg (·[32768]?) heq
    simp only [getElem_sentBytes _ _ (show 32768 < size.toNat by omega),
      getElem?_bytesFrom _ _ (show 32768 < size.toNat by omega)] at hplace
    have hindex : toSint16 (0 + 32768 / dataPktSz * dataPktSz : Nat) = -32768 := by decide
    have hoffset : ((32768 % dataPktSz : Nat) : Int) = 0 := by decide
    rw [hindex, hoffset, if_pos (by omega), if_neg (by omega)] at hplace
    exact absurd hplace (by decide)
  · intro hsize host
    exact (nmSpiWrite_ends c host addr buf size hsize).mono fun _ _ ht => ht.2

end NmSpi

end Winc1500
