import MynewtArduinoZero.Flash.Nvm

/-!
# The flash driver

`hal_flash.c`.  A transfer is cut at page boundaries.  Each turn of the loop of
`samd21_flash_read` and `samd21_flash_write` reads one whole page into
`page_buffer` and uses the part of it the transfer covers; a write checks that
part for `0xff`, lays the source bytes over it and programs the whole page.

The loops take at most one turn per byte, so `num_bytes` is fuel enough
(`samd21FlashRead_eq`, `samd21FlashWrite_spec`).  `none` would be a loop that
has not ended.
-/

namespace HalFlash

open Align Cells

/-- `SAMD21_FLASH_START_ADDR`. -/
def samd21FlashStartAddr : Nat := 0
/-- `SAMD21_FLASH_PAGES_PER_ROW`. -/
def samd21FlashPagesPerRow : Nat := 4
/-- `SAMD21_FLASH_ROWS_PER_SECTOR`. -/
def samd21FlashRowsPerSector : Nat := 4
/-- `SAMD21_FLASH_PAGES_PER_SECTOR`. -/
def samd21FlashPagesPerSector : Nat := samd21FlashPagesPerRow * samd21FlashRowsPerSector

/-- `address & ~(params.page_size - 1)` on 32 bits. -/
def baseAddress (params : NvmParameters) (address : Nat) : Nat :=
  address &&& (2 ^ 32 - 1 ^^^ (params.pageSize - 1))

/-! ## Read -/

/-- The `while(num_bytes)` loop of `samd21_flash_read`, with the bytes copied to
`dst` so far. -/
def samd21FlashReadLoop (nvm : Nvm) :
    Nat → (address numBytes : Nat) → (pdst : List UInt8) → Option (Int × List UInt8)
  | _, _, 0, pdst => some (0, pdst)
  | 0, _, _ + 1, _ => none
  | fuel + 1, address, numBytes@(_ + 1), pdst =>
      let base := baseAddress nvm.params address
      let offset := address - base
      let readLen := min (nvm.params.pageSize - offset) numBytes
      match nvmReadBuffer nvm base nvm.params.pageSize with
      | .error _ => some (-1, pdst)
      | .ok pageBuffer =>
          samd21FlashReadLoop nvm fuel (address + readLen) (numBytes - readLen)
            (pdst ++ (pageBuffer.drop offset).take readLen)

/-- `samd21_flash_read`: the return code and the bytes copied to `dst`. -/
def samd21FlashRead (nvm : Nvm) (address numBytes : Nat) : Option (Int × List UInt8) :=
  samd21FlashReadLoop nvm numBytes address numBytes []

/-! ## Write -/

/-- The `while(write_len--)` loop: the source bytes laid over the page buffer from
`offset`, or `none` at the first byte that is not erased. -/
def fillPageBuffer : (pageBuffer : List UInt8) → (offset : Nat) → (psrc : List UInt8) →
    Option (List UInt8)
  | pageBuffer, _, [] => some pageBuffer
  | pageBuffer, offset, b :: psrc =>
      if pageBuffer.getD offset 0 ≠ 0xff then none
      else fillPageBuffer (pageBuffer.set offset b) (offset + 1) psrc

/-- The `while(len)` loop of `samd21_flash_write`; `psrc` holds the `len` bytes still
to be written. -/
def samd21FlashWriteLoop :
    Nat → (nvm : Nvm) → (address : Nat) → (psrc : List UInt8) → Option (Int × Nvm)
  | _, nvm, _, [] => some (0, nvm)
  | 0, _, _, _ :: _ => none
  | fuel + 1, nvm, address, psrc@(_ :: _) =>
      let base := baseAddress nvm.params address
      let offset := address - base
      let writeLen := min (nvm.params.pageSize - offset) psrc.length
      match nvmReadBuffer nvm base nvm.params.pageSize with
      | .error _ => some (-1, nvm)
      | .ok pageBuffer =>
          match fillPageBuffer pageBuffer offset (psrc.take writeLen) with
          | none => some (-1, nvm)
          | some filled =>
              match nvmWriteBuffer nvm base filled nvm.params.pageSize with
              | .error _ => some (-1, nvm)
              | .ok nvm' =>
                  samd21FlashWriteLoop fuel nvm' (address + writeLen) (psrc.drop writeLen)

/-- `samd21_flash_write`: the return code and the flash afterwards. -/
def samd21FlashWrite (nvm : Nvm) (address : Nat) (src : List UInt8) : Option (Int × Nvm) :=
  samd21FlashWriteLoop src.length nvm address src

/-! ## Sectors -/

/-- The `for` loop of `samd21_flash_erase_sector` over the rows in `rows`. -/
def eraseRows (sectorAddress : Nat) : (rows : List Nat) → (nvm : Nvm) → Int × Nvm
  | [], nvm => (0, nvm)
  | i :: rows, nvm =>
      match nvmEraseRow nvm (sectorAddress + i * samd21FlashPagesPerRow * nvm.params.pageSize) with
      | .error _ => (-1, nvm)
      | .ok nvm' => eraseRows sectorAddress rows nvm'

/-- `samd21_flash_erase_sector`: the return code and the flash afterwards. -/
def samd21FlashEraseSector (nvm : Nvm) (sectorAddress : Nat) : Int × Nvm :=
  eraseRows sectorAddress (List.range samd21FlashRowsPerSector) nvm

/-- `hf_sector_cnt`. -/
def sectorCnt (params : NvmParameters) : Nat :=
  params.nvmNumberOfPages / samd21FlashPagesPerSector

/-- The size of a sector. -/
def sectorSize (params : NvmParameters) : Nat := params.pageSize * samd21FlashPagesPerSector

/-- `samd21_flash_sector_info`: `*addr` and `*sz`, or `none` for the return code `-1`. -/
def samd21FlashSectorInfo (params : NvmParameters) (idx : Int) : Option (Nat × Nat) :=
  if idx ≥ sectorCnt params ∨ idx < 0 then none
  else some (idx.toNat * sectorSize params + samd21FlashStartAddr, sectorSize params)

/-! ## The page window of an address -/

section Window

variable (params : NvmParameters) {address : Nat}

theorem baseAddress_eq (h : address < 2 ^ 32) :
    baseAddress params address = alignDown params.pageSize address := by
  obtain ⟨k, hk6, hk⟩ := params.pageSize_pow
  rw [baseAddress, hk]
  exact land_not_eq_alignDown (by omega) h

theorem baseAddress_le (h : address < 2 ^ 32) : baseAddress params address ≤ address := by
  rw [baseAddress_eq params h]
  exact alignDown_le address

theorem lt_baseAddress_add (h : address < 2 ^ 32) :
    address < baseAddress params address + params.pageSize := by
  rw [baseAddress_eq params h]
  exact lt_alignDown_add params.pageSize_pos address

theorem baseAddress_mod (h : address < 2 ^ 32) :
    baseAddress params address % params.pageSize = 0 := by
  rw [baseAddress_eq params h]
  exact alignDown_mod address

end Window

/-! ## What a read returns -/

theorem samd21FlashReadLoop_eq (nvm : Nvm) :
    ∀ (fuel address numBytes : Nat) (pdst : List UInt8), numBytes ≤ fuel →
      address + numBytes ≤ nvm.params.hfSize →
      samd21FlashReadLoop nvm fuel address numBytes pdst
        = some (0, pdst ++ bytesAt nvm.mem address numBytes)
  | _, _, 0, pdst, _, _ => by simp [samd21FlashReadLoop]
  | 0, _, _ + 1, _, h, _ => by omega
  | fuel + 1, address, n + 1, pdst, hfuel, hrange => by
      have haddr : address < 2 ^ 32 := by have := nvm.params.hfSize_lt; omega
      have hle := baseAddress_le nvm.params haddr
      have hlt := lt_baseAddress_add nvm.params haddr
      have hread := nvmReadBuffer_page nvm (by omega : baseAddress nvm.params address ≤ _)
        (baseAddress_mod nvm.params haddr)
      simp only [samd21FlashReadLoop, hread]
      generalize hoff : address - baseAddress nvm.params address = offset
      generalize hlen : min (nvm.params.pageSize - offset) (n + 1) = readLen
      -- the window covers at least one byte of the transfer, so the fuel suffices
      have hlen1 : 1 ≤ readLen ∧ readLen ≤ n + 1 ∧ offset + readLen ≤ nvm.params.pageSize := by omega
      obtain ⟨r, hr⟩ : ∃ r, n + 1 = readLen + r := Nat.exists_eq_add_of_le hlen1.2.1
      rw [take_drop_bytesAt nvm.mem hlen1.2.2, samd21FlashReadLoop_eq nvm fuel _ _ _ (by omega)
        (by omega), List.append_assoc, show baseAddress nvm.params address + offset = address by
          omega, show n + 1 - readLen = r by omega, ← bytesAt_add, ← hr]

/-- A read inside the flash returns 0 and the bytes of its range. -/
theorem samd21FlashRead_eq (nvm : Nvm) {address numBytes : Nat}
    (h : address + numBytes ≤ nvm.params.hfSize) :
    samd21FlashRead nvm address numBytes = some (0, bytesAt nvm.mem address numBytes) := by
  rw [samd21FlashRead, samd21FlashReadLoop_eq nvm numBytes address numBytes [] (Nat.le_refl _) h,
    List.nil_append]

/-! ## What a write does -/

/-- Every byte of the `n` from `a` is erased. -/
def Blank (m : Nat → UInt8) (a n : Nat) : Prop := ∀ i < n, m (a + i) = 0xff

instance (m : Nat → UInt8) (a n : Nat) : Decidable (Blank m a n) :=
  inferInstanceAs (Decidable (∀ i < n, m (a + i) = 0xff))

theorem blank_add {m : Nat → UInt8} {a j n : Nat} :
    Blank m a (j + n) ↔ Blank m a j ∧ Blank m (a + j) n := by
  constructor
  · intro h
    refine ⟨fun i hi => h i (by omega), fun i hi => ?_⟩
    rw [Nat.add_assoc]
    exact h (j + i) (by omega)
  · rintro ⟨hl, hr⟩ i hi
    by_cases hij : i < j
    · exact hl i hij
    · have h := hr (i - j) (by omega)
      rwa [Nat.add_assoc, Nat.add_sub_cancel' (Nat.not_lt.mp hij)] at h

theorem blank_congr {m m' : Nat → UInt8} {a n : Nat}
    (h : ∀ x, a ≤ x → x < a + n → m' x = m x) : Blank m' a n ↔ Blank m a n := by
  constructor <;> intro hb i hi
  · rw [← h _ (by omega) (by omega)]
    exact hb i hi
  · rw [h _ (by omega) (by omega)]
    exact hb i hi

theorem fillPageBuffer_eq :
    ∀ (psrc pageBuffer : List UInt8) (offset : Nat), offset + psrc.length ≤ pageBuffer.length →
      fillPageBuffer pageBuffer offset psrc =
        if ∀ i < psrc.length, pageBuffer.getD (offset + i) 0 = 0xff then
          some (pageBuffer.take offset ++ psrc ++ pageBuffer.drop (offset + psrc.length))
        else none
  | [], pageBuffer, offset, _ => by simp [fillPageBuffer]
  | b :: psrc, pageBuffer, offset, h => by
      rw [List.length_cons] at h
      by_cases hb : pageBuffer.getD offset 0 = 0xff
      · rw [fillPageBuffer, if_neg (not_not.mpr hb),
          fillPageBuffer_eq psrc _ (offset + 1) (by rw [List.length_set]; omega)]
        have hiff : (∀ i < psrc.length, (pageBuffer.set offset b).getD (offset + 1 + i) 0 = 0xff) ↔
            ∀ i < (b :: psrc).length, pageBuffer.getD (offset + i) 0 = 0xff := by
          have hset : ∀ i, (pageBuffer.set offset b).getD (offset + 1 + i) 0
              = pageBuffer.getD (offset + (i + 1)) 0 := by
            intro i
            simp only [List.getD_eq_getElem?_getD]
            rw [List.getElem?_set_ne (by omega), show offset + 1 + i = offset + (i + 1) by omega]
          constructor
          · intro hall i hi
            cases i with
            | zero => exact hb
            | succ i => rw [← hset]; exact hall i (by simpa using hi)
          · intro hall i hi
            rw [hset]
            exact hall (i + 1) (by simpa using hi)
        have hsplit : (pageBuffer.set offset b).take (offset + 1) = pageBuffer.take offset ++ [b] := by
          rw [List.take_add_one, List.take_set_of_le (Nat.le_refl _),
            List.getElem?_set_self (by omega)]
          rfl
        have hrest : (pageBuffer.set offset b).drop (offset + 1 + psrc.length)
            = pageBuffer.drop (offset + (b :: psrc).length) := by
          rw [List.drop_set_of_lt (by omega), List.length_cons, Nat.add_assoc,
            Nat.add_comm 1 psrc.length]
        simp only [hiff, hsplit, hrest, List.append_assoc, List.cons_append, List.nil_append]
      · rw [fillPageBuffer, if_pos hb, if_neg]
        intro hall
        exact hb (hall 0 (by simp))

/-- A filled page buffer is accepted exactly where the flash is blank, and holds the
source bytes over the page's own. -/
theorem fillPageBuffer_page (nvm : Nvm) {base offset : Nat} {psrc : List UInt8}
    (h : offset + psrc.length ≤ nvm.params.pageSize) :
    fillPageBuffer (bytesAt nvm.mem base nvm.params.pageSize) offset psrc =
      if Blank nvm.mem (base + offset) psrc.length then
        some (bytesAt (overlay nvm.mem (base + offset) psrc) base nvm.params.pageSize)
      else none := by
  rw [fillPageBuffer_eq psrc _ offset (by simpa using h)]
  have hiff : (∀ i < psrc.length, (bytesAt nvm.mem base nvm.params.pageSize).getD (offset + i) 0
      = 0xff) ↔ Blank nvm.mem (base + offset) psrc.length := by
    refine forall₂_congr fun i hi => ?_
    rw [List.getD_eq_getElem _ _ (by rw [length_bytesAt]; omega), getElem_bytesAt, Nat.add_assoc]
  simp only [hiff]
  congr 2
  obtain ⟨r, hr⟩ := Nat.exists_eq_add_of_le h
  have hhead : (bytesAt nvm.mem base nvm.params.pageSize).take offset
      = bytesAt (overlay nvm.mem (base + offset) psrc) base offset := by
    rw [take_bytesAt _ (by omega), bytesAt_overlay_of_le (Nat.le_refl _)]
  have htail : (bytesAt nvm.mem base nvm.params.pageSize).drop (offset + psrc.length)
      = bytesAt (overlay nvm.mem (base + offset) psrc) (base + (offset + psrc.length)) r := by
    rw [hr, bytesAt_add, List.drop_left' (length_bytesAt ..), bytesAt_overlay_of_ge (by omega)]
  rw [hhead, htail, hr, Nat.add_assoc, bytesAt_add, bytesAt_add, Nat.add_assoc, List.append_assoc,
    bytesAt_overlay]

/-- Programming a page with its own bytes and new ones over blank cells stores the new
ones and keeps the rest. -/
theorem programmed_overlay {m : Nat → UInt8} {base a n : Nat} {psrc : List UInt8}
    (hblank : Blank m a psrc.length) (hlo : base ≤ a) (hhi : a + psrc.length ≤ base + n) :
    programmed m base (bytesAt (overlay m a psrc) base n) = overlay m a psrc := by
  funext x
  rw [programmed, length_bytesAt]
  by_cases hx : base ≤ x ∧ x < base + n
  · rw [if_pos hx, List.getD_eq_getElem _ _ (by rw [length_bytesAt]; omega), getElem_bytesAt,
      Nat.add_sub_cancel' hx.1]
    by_cases hin : a ≤ x ∧ x < a + psrc.length
    · have hff : m x = 0xff := by
        have := hblank (x - a) (by omega)
        rwa [Nat.add_sub_cancel' hin.1] at this
      rw [hff, show (0xff : UInt8) = -1 by rfl, UInt8.neg_one_and]
    · rw [overlay_of_not_mem hin, UInt8.and_self]
  · rw [if_neg hx, overlay_of_not_mem (by omega)]

/-- The bytes of a write at `a`, cut where its first page ends: `s` goes to the page of
`a`, and the rest `t` starts on the next page. -/
structure FirstPage (params : NvmParameters) (a : Nat) (s t : List UInt8) : Prop where
  /-- The first page takes at least one byte. -/
  pos : 0 < s.length
  /-- They end on the page of `a`. -/
  inside : a + s.length ≤ alignDown params.pageSize a + params.pageSize
  /-- With bytes left over, they fill it to its end. -/
  full : t ≠ [] → a + s.length = alignDown params.pageSize a + params.pageSize

/-- One turn of the loop: the part of the first page is stored if it is erased, and the
write fails otherwise. -/
theorem samd21FlashWriteLoop_turn (fuel : Nat) (nvm : Nvm) {address : Nat} {psrc : List UInt8}
    (hne : psrc ≠ []) (hrange : address + psrc.length ≤ nvm.params.hfSize) :
    ∃ s t, psrc = s ++ t ∧ FirstPage nvm.params address s t ∧
      samd21FlashWriteLoop (fuel + 1) nvm address psrc =
        if Blank nvm.mem address s.length then
          samd21FlashWriteLoop fuel { nvm with mem := overlay nvm.mem address s }
            (address + s.length) t
        else some (-1, nvm) := by
  have hpos : 1 ≤ psrc.length := List.length_pos_iff.mpr hne
  have haddr : address < 2 ^ 32 := by have := nvm.params.hfSize_lt; omega
  have hle := baseAddress_le nvm.params haddr
  have hlt := lt_baseAddress_add nvm.params haddr
  have hmod := baseAddress_mod nvm.params haddr
  have hpage : baseAddress nvm.params address ≤ nvm.params.hfSize := by omega
  have hread := nvmReadBuffer_page nvm hpage hmod
  obtain ⟨b, bs, hcons⟩ := List.exists_cons_of_ne_nil hne
  rw [hcons]
  simp only [samd21FlashWriteLoop, hread]
  rw [← hcons]
  generalize hoff : address - baseAddress nvm.params address = offset
  generalize hlen : min (nvm.params.pageSize - offset) psrc.length = writeLen
  have htake : (psrc.take writeLen).length = writeLen := by
    rw [List.length_take]
    omega
  have hbase : baseAddress nvm.params address + offset = address := by omega
  refine ⟨psrc.take writeLen, psrc.drop writeLen, (List.take_append_drop ..).symm, ?_, ?_⟩
  · rw [baseAddress_eq nvm.params haddr] at hlt hbase
    refine ⟨by omega, by omega, fun hrest => ?_⟩
    have hdrop : 0 < (psrc.drop writeLen).length := List.length_pos_iff.mpr hrest
    rw [List.length_drop] at hdrop
    omega
  · rw [fillPageBuffer_page nvm (by rw [htake]; omega), hbase]
    by_cases hblank : Blank nvm.mem address (psrc.take writeLen).length
    · have hprog := programmed_overlay (n := nvm.params.pageSize) hblank hle
        (by rw [htake]; omega)
      rw [if_pos hblank, if_pos hblank]
      simp only [nvmWriteBuffer_page nvm hpage hmod (length_bytesAt ..), hprog, htake]
    · rw [if_neg hblank, if_neg hblank]

/-- `x` lies on a page before every page on which the `n` bytes from `a` have one that is
not erased. -/
def Reached (params : NvmParameters) (m : Nat → UInt8) (a n x : Nat) : Prop :=
  ∀ i < n, m (a + i) ≠ 0xff → x < alignDown params.pageSize (a + i)

instance (params : NvmParameters) (m : Nat → UInt8) (a n x : Nat) :
    Decidable (Reached params m a n x) :=
  inferInstanceAs (Decidable (∀ i < n, m (a + i) ≠ 0xff → x < alignDown params.pageSize (a + i)))

/-- The flash a write of `src` at `a` leaves: the bytes of the pages it reached. -/
def afterWrite (params : NvmParameters) (m : Nat → UInt8) (a : Nat) (src : List UInt8) :
    Nat → UInt8 := fun x =>
  if Reached params m a src.length x then overlay m a src x else m x

theorem reached_of_blank {params : NvmParameters} {m : Nat → UInt8} {a n : Nat}
    (h : Blank m a n) (x : Nat) : Reached params m a n x :=
  fun i hi hset => absurd (h i hi) hset

theorem afterWrite_of_blank {params : NvmParameters} {m : Nat → UInt8} {a : Nat}
    {src : List UInt8} (h : Blank m a src.length) : afterWrite params m a src = overlay m a src :=
  funext fun x => if_pos (reached_of_blank h x)

/-- Where the first page is not erased nothing is reached. -/
theorem afterWrite_fail {params : NvmParameters} {m : Nat → UInt8} {a : Nat} {s t : List UInt8}
    (hpage : FirstPage params a s t) (h : ¬ Blank m a s.length) :
    afterWrite params m a (s ++ t) = m := by
  funext x
  rw [afterWrite]
  split
  · rename_i hreached
    obtain ⟨j, hj, hset⟩ : ∃ j, j < s.length ∧ m (a + j) ≠ 0xff := by simpa [Blank] using h
    have hx := hreached j (by rw [List.length_append]; omega) hset
    have hinside := hpage.inside
    rw [alignDown_eq_of_lt (Nat.le_add_right ..) (by omega)] at hx
    exact overlay_of_lt (Nat.lt_of_lt_of_le hx (alignDown_le a))
  · rfl

/-- Once the first page is stored, the rest of the write reaches what the whole reaches. -/
theorem reached_append {params : NvmParameters} {m : Nat → UInt8} {a : Nat} {s : List UInt8}
    (h : Blank m a s.length) (n x : Nat) :
    Reached params (overlay m a s) (a + s.length) n x ↔ Reached params m a (s.length + n) x := by
  constructor
  · intro hreached i hi hset
    have hge : s.length ≤ i := Nat.not_lt.mp fun hlt => hset (h i hlt)
    have hcell := hreached (i - s.length) (by omega)
    rw [overlay_of_le (by omega), show a + s.length + (i - s.length) = a + i by omega] at hcell
    exact hcell hset
  · intro hreached i hi hset
    rw [overlay_of_le (by omega), Nat.add_assoc] at hset
    rw [Nat.add_assoc]
    exact hreached (s.length + i) (by omega) hset

/-- An erased first page is reached. -/
theorem reached_first {params : NvmParameters} {m : Nat → UInt8} {a : Nat} {s t : List UInt8}
    (hpage : FirstPage params a s t) (h : Blank m a s.length) {x : Nat} (hx : x < a + s.length) :
    Reached params m a (s.length + t.length) x := by
  intro i hi hset
  have hge : s.length ≤ i := Nat.not_lt.mp fun hlt => hset (h i hlt)
  have hfull := hpage.full (List.length_pos_iff.mp (by omega))
  calc x < a + s.length := hx
    _ = alignDown params.pageSize (a + s.length) := by
        rw [hfull, alignDown_add_self]
    _ ≤ alignDown params.pageSize (a + i) := alignDown_mono (by omega)

/-- The first page stored, then the rest. -/
theorem afterWrite_append {params : NvmParameters} {m : Nat → UInt8} {a : Nat} {s t : List UInt8}
    (hpage : FirstPage params a s t) (h : Blank m a s.length) :
    afterWrite params (overlay m a s) (a + s.length) t = afterWrite params m a (s ++ t) := by
  funext x
  simp only [afterWrite, reached_append h, List.length_append, overlay_append]
  split
  · rfl
  · rename_i hnot
    have hx : ¬ x < a + s.length := fun hx => hnot (reached_first hpage h hx)
    exact overlay_of_le (by omega)

/-- The loop returns, with 0 exactly where its whole range is erased, and stores the
bytes of the pages it reached. -/
theorem samd21FlashWriteLoop_eq :
    ∀ (fuel : Nat) (nvm : Nvm) (address : Nat) (psrc : List UInt8), psrc.length ≤ fuel →
      address + psrc.length ≤ nvm.params.hfSize →
      samd21FlashWriteLoop fuel nvm address psrc =
        some (if Blank nvm.mem address psrc.length then 0 else -1,
          { nvm with mem := afterWrite nvm.params nvm.mem address psrc })
  | fuel, nvm, address, [], _, _ => by
      have hblank : Blank nvm.mem address ([] : List UInt8).length := by simp [Blank]
      rw [samd21FlashWriteLoop, if_pos hblank, afterWrite_of_blank hblank, overlay_nil]
  | 0, _, _, _ :: _, h, _ => by simp at h
  | fuel + 1, nvm, address, b :: bs, hfuel, hrange => by
      obtain ⟨s, t, hsplit, hpage, hturn⟩ :=
        samd21FlashWriteLoop_turn fuel nvm (List.cons_ne_nil b bs) hrange
      rw [hturn, hsplit]
      rw [hsplit, List.length_append] at hfuel hrange
      have hpos := hpage.pos
      by_cases hblank : Blank nvm.mem address s.length
      · have hrest : Blank (overlay nvm.mem address s) (address + s.length) t.length
            ↔ Blank nvm.mem address (s ++ t).length := by
          rw [List.length_append, blank_add, and_iff_right hblank]
          exact blank_congr fun x hlo _ => overlay_of_le hlo
        rw [if_pos hblank, samd21FlashWriteLoop_eq fuel _ _ t (by omega) (by simp only; omega),
          afterWrite_append hpage hblank]
        simp only [hrest]
      · have hall : ¬ Blank nvm.mem address (s ++ t).length := fun h =>
          hblank fun i hi => h i (by rw [List.length_append]; omega)
        rw [if_neg hblank, if_neg hall, afterWrite_fail hpage hblank]

theorem samd21FlashWrite_eq (nvm : Nvm) {address : Nat} {src : List UInt8}
    (h : address + src.length ≤ nvm.params.hfSize) :
    samd21FlashWrite nvm address src =
      some (if Blank nvm.mem address src.length then 0 else -1,
        { nvm with mem := afterWrite nvm.params nvm.mem address src }) :=
  samd21FlashWriteLoop_eq src.length nvm address src (Nat.le_refl _) h

/-- What a write of `src` at `a` may do: store exactly `src` when its range was blank,
and otherwise fail without touching a byte outside the range. -/
structure WriteSpec (m : Nat → UInt8) (a : Nat) (src : List UInt8) (rc : Int) (m' : Nat → UInt8) :
    Prop where
  /-- The write returns 0 or -1. -/
  code : rc = 0 ∨ rc = -1
  /-- It returns 0 exactly where the whole range was erased. -/
  ok_iff : rc = 0 ↔ Blank m a src.length
  /-- Then the range holds the source bytes. -/
  stored : rc = 0 → m' = overlay m a src
  /-- In any case the bytes outside the range are kept. -/
  frame : ∀ x, ¬ (a ≤ x ∧ x < a + src.length) → m' x = m x

/-- A write inside the flash returns and meets `WriteSpec`. -/
theorem samd21FlashWrite_spec (nvm : Nvm) {address : Nat} {src : List UInt8}
    (h : address + src.length ≤ nvm.params.hfSize) :
    ∃ rc m', samd21FlashWrite nvm address src = some (rc, { nvm with mem := m' }) ∧
      WriteSpec nvm.mem address src rc m' := by
  refine ⟨_, _, samd21FlashWrite_eq nvm h, ?_⟩
  by_cases hblank : Blank nvm.mem address src.length
  · rw [if_pos hblank, afterWrite_of_blank hblank]
    exact ⟨Or.inl rfl, iff_of_true rfl hblank, fun _ => rfl, fun _ hx => overlay_of_not_mem hx⟩
  · rw [if_neg hblank]
    refine ⟨Or.inr rfl, iff_of_false (by decide) hblank, fun h0 => absurd h0 (by decide), ?_⟩
    intro x hx
    rw [afterWrite]
    split
    · exact overlay_of_not_mem hx
    · rfl

end HalFlash
