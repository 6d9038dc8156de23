import MynewtArduinoZero.Flash.HalFlash
import Mathlib.Tactic.Ring
import Mathlib.Tactic.Linarith

/-!
# The flash driver is a flat byte array

`FlatStep` says what the calls mean on a plain array of bytes, with no pages
and no rows: a read returns its range, a write stores its range or fails
(`WriteSpec`), and an erase of a sector sets the bytes `samd21_flash_sector_info`
reports to `0xff`.  `flashRun_refines` says that every sequence of driver calls
with ranges inside the flash returns, and is a run of the flat array.

The sectors tile the flash from address 0 (`sectors_tile`).
-/

namespace HalFlash

open Cells

/-! ## Erasing a sector -/

theorem erased_append (m : Nat → UInt8) (a n k : Nat) :
    erased (erased m a n) (a + n) k = erased m a (n + k) := by
  funext x
  simp only [erased]
  by_cases hx : a ≤ x ∧ x < a + n
  · rw [if_neg (by omega), if_pos hx, if_pos (by omega)]
  · by_cases hx' : a + n ≤ x ∧ x < a + n + k
    · rw [if_pos hx', if_pos (by omega)]
    · rw [if_neg hx', if_neg hx, if_neg (by omega)]

theorem erased_zero (m : Nat → UInt8) (a : Nat) : erased m a 0 = m := by
  funext x
  rw [erased, if_neg (by omega)]

/-- The rows from the `j`-th on, erased one after the other. -/
theorem eraseRows_range' (sectorAddress : Nat) :
    ∀ (k j : Nat) (nvm : Nvm), sectorAddress % (nvm.params.pageSize * NvmParameters.rowPages) = 0 →
      sectorAddress + (j + k) * (nvm.params.pageSize * NvmParameters.rowPages)
        ≤ nvm.params.hfSize →
      eraseRows sectorAddress (List.range' j k) nvm = (0, { nvm with
        mem := erased nvm.mem
          (sectorAddress + j * (nvm.params.pageSize * NvmParameters.rowPages))
          (k * (nvm.params.pageSize * NvmParameters.rowPages)) })
  | 0, j, nvm, _, _ => by simp [eraseRows, erased_zero]
  | k + 1, j, nvm, halign, hrange => by
      have hrow : j * samd21FlashPagesPerRow * nvm.params.pageSize
          = j * (nvm.params.pageSize * NvmParameters.rowPages) := by
        rw [samd21FlashPagesPerRow, NvmParameters.rowPages, Nat.mul_assoc,
          Nat.mul_comm nvm.params.pageSize]
      generalize hsize : nvm.params.pageSize * NvmParameters.rowPages = rowSize at *
      have hmod : (sectorAddress + j * rowSize) % rowSize = 0 := by
        rw [Nat.add_mul_mod_self_right, halign]
      have hmul : (j + (k + 1)) * rowSize = j * rowSize + rowSize + k * rowSize := by ring
      have herase := nvmEraseRow_row nvm (a := sectorAddress + j * rowSize) (by omega)
        (by rw [hsize]; exact hmod)
      rw [List.range'_succ, eraseRows, hrow, herase]
      simp only
      rw [eraseRows_range' sectorAddress k (j + 1) _ (by simp only; rw [hsize]; exact halign)
        (by simp only; rw [hsize]; linarith)]
      simp only [hsize]
      rw [show sectorAddress + (j + 1) * rowSize = sectorAddress + j * rowSize + rowSize by ring,
        erased_append, show rowSize + k * rowSize = (k + 1) * rowSize by ring]

/-- Sector `idx` lies inside the flash. -/
theorem sectorSize_le (params : NvmParameters) {idx : Nat} (h : idx < sectorCnt params) :
    (idx + 1) * sectorSize params ≤ params.hfSize := by
  have hcnt : (idx + 1) * samd21FlashPagesPerSector ≤ params.nvmNumberOfPages :=
    Nat.le_trans (Nat.mul_le_mul_right _ h) (Nat.div_mul_le_self ..)
  calc (idx + 1) * sectorSize params
      = (idx + 1) * samd21FlashPagesPerSector * params.pageSize := by rw [sectorSize]; ring
    _ ≤ params.hfSize := Nat.mul_le_mul_right _ hcnt

theorem samd21FlashSectorInfo_eq (params : NvmParameters) {idx : Int} (h0 : 0 ≤ idx)
    (h : idx < sectorCnt params) :
    samd21FlashSectorInfo params idx = some (idx.toNat * sectorSize params, sectorSize params) := by
  rw [samd21FlashSectorInfo, if_neg (by omega), samd21FlashStartAddr, Nat.add_zero]

/-- Erasing a sector at the address `samd21_flash_sector_info` reports. -/
theorem samd21FlashEraseSector_eq (nvm : Nvm) {idx : Nat} (h : idx < sectorCnt nvm.params) :
    samd21FlashEraseSector nvm (idx * sectorSize nvm.params) = (0, { nvm with
      mem := erased nvm.mem (idx * sectorSize nvm.params) (sectorSize nvm.params) }) := by
  have hsize : sectorSize nvm.params
      = samd21FlashRowsPerSector * (nvm.params.pageSize * NvmParameters.rowPages) := by
    simp only [sectorSize, samd21FlashPagesPerSector, samd21FlashPagesPerRow,
      samd21FlashRowsPerSector, NvmParameters.rowPages]
    ring
  have hle := sectorSize_le nvm.params h
  rw [Nat.add_mul, Nat.one_mul] at hle
  have halign : idx * sectorSize nvm.params
      % (nvm.params.pageSize * NvmParameters.rowPages) = 0 := by
    rw [hsize, ← Nat.mul_assoc, Nat.mul_mod_left]
  rw [samd21FlashEraseSector, List.range_eq_range',
    eraseRows_range' _ _ 0 nvm halign (by rw [Nat.zero_add, ← hsize]; exact hle),
    ← hsize, Nat.zero_mul, Nat.add_zero]

/-! ## Sectors tile the flash -/

/-- The sectors are adjacent from address 0, disjoint, and inside the flash. -/
structure SectorsTile (params : NvmParameters) : Prop where
  /-- The first sector starts the flash. -/
  first : ∀ {a n}, samd21FlashSectorInfo params 0 = some (a, n) → a = 0
  /-- Each sector starts where the one before it ends. -/
  adjacent : ∀ {i a n b k}, samd21FlashSectorInfo params i = some (a, n) →
    samd21FlashSectorInfo params (i + 1) = some (b, k) → b = a + n
  /-- No address is in two sectors. -/
  disjoint : ∀ {i j a n b k}, i ≠ j → samd21FlashSectorInfo params i = some (a, n) →
    samd21FlashSectorInfo params j = some (b, k) → ∀ x, a ≤ x → x < a + n → ¬ (b ≤ x ∧ x < b + k)
  /-- Every sector is inside the flash. -/
  inside : ∀ {i a n}, samd21FlashSectorInfo params i = some (a, n) → a + n ≤ params.hfSize

theorem samd21FlashSectorInfo_some {params : NvmParameters} {idx : Int} {a n : Nat}
    (h : samd21FlashSectorInfo params idx = some (a, n)) :
    ∃ i : Nat, idx = i ∧ i < sectorCnt params ∧ a = i * sectorSize params ∧
      n = sectorSize params := by
  unfold samd21FlashSectorInfo at h
  split at h
  · cases h
  · rw [Option.some.injEq, Prod.mk.injEq, samd21FlashStartAddr, Nat.add_zero] at h
    exact ⟨idx.toNat, by omega, by omega, h.1.symm, h.2.symm⟩

theorem sectors_tile (params : NvmParameters) : SectorsTile params where
  first h := by
    obtain ⟨i, hi, _, ha, _⟩ := samd21FlashSectorInfo_some h
    rw [ha, show i = 0 by omega, Nat.zero_mul]
  adjacent hi hj := by
    obtain ⟨i, rfl, _, rfl, rfl⟩ := samd21FlashSectorInfo_some hi
    obtain ⟨j, hij, _, rfl, _⟩ := samd21FlashSectorInfo_some hj
    rw [show j = i + 1 by omega, Nat.add_mul, Nat.one_mul]
  disjoint hne hi hj x hlo hhi := by
    obtain ⟨i, rfl, _, rfl, rfl⟩ := samd21FlashSectorInfo_some hi
    obtain ⟨j, rfl, _, rfl, rfl⟩ := samd21FlashSectorInfo_some hj
    rintro ⟨hlo', hhi'⟩
    rw [← Nat.succ_mul] at hhi hhi'
    have hij : i < j + 1 := Nat.lt_of_mul_lt_mul_right (Nat.lt_of_le_of_lt hlo hhi')
    have hji : j < i + 1 := Nat.lt_of_mul_lt_mul_right (Nat.lt_of_le_of_lt hlo' hhi)
    omega
  inside h := by
    obtain ⟨i, _, hlt, rfl, rfl⟩ := samd21FlashSectorInfo_some h
    rw [← Nat.succ_mul]
    exact sectorSize_le params hlt

/-! ## Sequences of calls -/

/-- A call of the driver. -/
inductive FlashOp where
  /-- `samd21_flash_read`. -/
  | read (address numBytes : Nat)
  /-- `samd21_flash_write`. -/
  | write (address : Nat) (src : List UInt8)
  /-- `samd21_flash_erase_sector` at the address of sector `idx`. -/
  | erase (idx : Nat)

/-- What a call returns. -/
inductive FlashResult where
  /-- The code of a read and the bytes copied. -/
  | read (rc : Int) (bytes : List UInt8)
  /-- The code of a write. -/
  | write (rc : Int)
  /-- The code of an erase. -/
  | erase (rc : Int)

/-- The range of the call is inside the flash, or the sector is one of it. -/
def FlashOp.InRange (params : NvmParameters) : FlashOp → Prop
  | .read address numBytes => address + numBytes ≤ params.hfSize
  | .write address src => address + src.length ≤ params.hfSize
  | .erase idx => idx < sectorCnt params

instance (params : NvmParameters) : ∀ op : FlashOp, Decidable (op.InRange params)
  | .read address numBytes => inferInstanceAs (Decidable (address + numBytes ≤ params.hfSize))
  | .write address src => inferInstanceAs (Decidable (address + src.length ≤ params.hfSize))
  | .erase idx => inferInstanceAs (Decidable (idx < sectorCnt params))

/-- One call of the driver. -/
def flashStep (nvm : Nvm) : FlashOp → Option (Nvm × FlashResult)
  | .read address numBytes =>
      (samd21FlashRead nvm address numBytes).map fun r => (nvm, .read r.1 r.2)
  | .write address src =>
      (samd21FlashWrite nvm address src).map fun r => (r.2, .write r.1)
  | .erase idx =>
      (samd21FlashSectorInfo nvm.params idx).map fun info =>
        let r := samd21FlashEraseSector nvm info.1
        (r.2, .erase r.1)

/-- The calls of a list in order, with what each returned. -/
def flashRun : Nvm → List FlashOp → Option (Nvm × List FlashResult)
  | nvm, [] => some (nvm, [])
  | nvm, op :: ops =>
      (flashStep nvm op).bind fun r => (flashRun r.1 ops).map fun q => (q.1, r.2 :: q.2)

/-- A call on the flat array. -/
inductive FlatStep (params : NvmParameters) (m : Nat → UInt8) :
    FlashOp → FlashResult → (Nat → UInt8) → Prop where
  | read (a n : Nat) : FlatStep params m (.read a n) (.read 0 (bytesAt m a n)) m
  | write {a : Nat} {src : List UInt8} {rc : Int} {m' : Nat → UInt8} :
      WriteSpec m a src rc m' → FlatStep params m (.write a src) (.write rc) m'
  | erase {idx a n : Nat} : samd21FlashSectorInfo params idx = some (a, n) →
      FlatStep params m (.erase idx) (.erase 0) (erased m a n)

/-- A run of calls on the flat array. -/
inductive FlatRun (params : NvmParameters) :
    (Nat → UInt8) → List FlashOp → List FlashResult → (Nat → UInt8) → Prop where
  | nil (m : Nat → UInt8) : FlatRun params m [] [] m
  | cons {m m' m'' : Nat → UInt8} {op : FlashOp} {ops : List FlashOp} {r : FlashResult}
      {rs : List FlashResult} : FlatStep params m op r m' → FlatRun params m' ops rs m'' →
      FlatRun params m (op :: ops) (r :: rs) m''

/-- One driver call is one step of the flat array. -/
theorem flashStep_refines (nvm : Nvm) (op : FlashOp) (h : op.InRange nvm.params) :
    ∃ r m', flashStep nvm op = some ({ nvm with mem := m' }, r) ∧
      FlatStep nvm.params nvm.mem op r m' := by
  cases op with
  | read address numBytes =>
      refine ⟨_, nvm.mem, ?_, .read address numBytes⟩
      rw [flashStep, samd21FlashRead_eq nvm h]
      rfl
  | write address src =>
      obtain ⟨rc, m', hw, hspec⟩ := samd21FlashWrite_spec nvm h
      refine ⟨.write rc, m', ?_, .write hspec⟩
      rw [flashStep, hw]
      rfl
  | erase idx =>
      have hinfo := samd21FlashSectorInfo_eq nvm.params (Int.natCast_nonneg idx)
        (Int.ofNat_lt.mpr h)
      refine ⟨.erase 0, _, ?_, .erase hinfo⟩
      rw [flashStep, hinfo, Option.map_some, Int.toNat_natCast,
        samd21FlashEraseSector_eq nvm h]

theorem flashRun_refines :
    ∀ (ops : List FlashOp) (nvm : Nvm), (∀ op ∈ ops, op.InRange nvm.params) →
      ∃ rs m', flashRun nvm ops = some ({ nvm with mem := m' }, rs) ∧
        FlatRun nvm.params nvm.mem ops rs m'
  | [], nvm, _ => ⟨[], nvm.mem, rfl, .nil nvm.mem⟩
  | op :: ops, nvm, h => by
      obtain ⟨r, m', hstep, hflat⟩ := flashStep_refines nvm op (h op (List.mem_cons_self ..))
      obtain ⟨rs, m'', hrun, hflats⟩ := flashRun_refines ops { nvm with mem := m' }
        fun op' h' => h op' (List.mem_cons_of_mem _ h')
      refine ⟨r :: rs, m'', ?_, .cons hflat hflats⟩
      rw [flashRun, hstep, Option.bind_some, hrun, Option.map_some]

/-- The driver refines a flat byte array whose sectors tile it: every sequence of
calls inside the flash returns, with the results and the bytes of the array. -/
theorem flash_refines_flat_array (nvm : Nvm) (ops : List FlashOp)
    (h : ∀ op ∈ ops, op.InRange nvm.params) :
    (∃ rs m', flashRun nvm ops = some ({ nvm with mem := m' }, rs) ∧
      FlatRun nvm.params nvm.mem ops rs m') ∧
    SectorsTile nvm.params :=
  ⟨flashRun_refines ops nvm h, sectors_tile nvm.params⟩

/-- A blank flash of 32 pages of 8 bytes, two sectors. -/
def blankNvm : Nvm where
  params := ⟨8, 32, ⟨3, by decide, rfl⟩, by decide⟩
  mem := fun _ => 0xff

/-- A write over a page boundary, the same write again, and an erase. -/
def rewriteOps : List FlashOp :=
  [.write 5 [1, 2, 3, 4, 5], .write 9 [7], .read 4 7, .erase 0, .read 4 2]

theorem flash_refines_flat_array_rewrite :
    (∃ rs m', flashRun blankNvm rewriteOps = some ({ blankNvm with mem := m' }, rs) ∧
      FlatRun blankNvm.params blankNvm.mem rewriteOps rs m') ∧
    SectorsTile blankNvm.params :=
  flash_refines_flat_array blankNvm rewriteOps (by decide)

end HalFlash
