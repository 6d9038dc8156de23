import MynewtArduinoZero.Flash.Refinement

/-!
# Updates in place

`nvm_update_buffer` changes bytes of a page that has been programmed before.  It reads
the row, lays the bytes over it, erases the row and writes its four pages again.
Each of these steps checks its address, and the reads come first: a call that fails
has erased nothing.

With it the flash is a byte array whose bytes are overwritten where they are
(`nvmRun_refines`), while `samd21_flash_write` only stores over erased bytes.
-/

namespace HalFlash

open Align Cells

/-! ## The function -/

/-- The loop that reads the row. -/
def readRow (nvm : Nvm) (rowStartAddress : Nat) :
    (pages : List Nat) → Except StatusCode (List (List UInt8))
  | [] => .ok []
  | i :: pages =>
      match nvmReadBuffer nvm (rowStartAddress + i * nvm.params.pageSize) nvm.params.pageSize with
      | .error e => .error e
      | .ok page =>
          match readRow nvm rowStartAddress pages with
          | .error e => .error e
          | .ok rowBuffer => .ok (page :: rowBuffer)

/-- The loop that updates the bytes of a page. -/
def updatePage : (offset : Nat) → (buffer page : List UInt8) → List UInt8
  | _, [], page => page
  | offset, b :: buffer, page => updatePage (offset + 1) buffer (page.set offset b)

/-- The loop that writes the row, from page `i` on. -/
def writeRow (rowStartAddress : Nat) :
    (rowBuffer : List (List UInt8)) → (i : Nat) → Nvm → Except StatusCode Unit × Nvm
  | [], _, nvm => (.ok (), nvm)
  | page :: rowBuffer, i, nvm =>
      match nvmWriteBuffer nvm (rowStartAddress + i * nvm.params.pageSize) page
          nvm.params.pageSize with
      | .error e => (.error e, nvm)
      | .ok nvm' => writeRow rowStartAddress rowBuffer (i + 1) nvm'

/-- `destination_address & ~((page_size * NVMCTRL_ROW_PAGES) - 1)` on 32 bits. -/
def rowStart (params : NvmParameters) (destinationAddress : Nat) : Nat :=
  destinationAddress &&& (2 ^ 32 - 1 ^^^ (params.pageSize * NvmParameters.rowPages - 1))

/-- The page of its row that an address is in. -/
def pageInRow (params : NvmParameters) (destinationAddress : Nat) : Nat :=
  destinationAddress % (params.pageSize * NvmParameters.rowPages) / params.pageSize

/-- `nvm_update_buffer`, and the flash afterwards. -/
def nvmUpdateBuffer (nvm : Nvm) (destinationAddress : Nat) (buffer : List UInt8)
    (offset length : Nat) : Except StatusCode Unit × Nvm :=
  if offset + length > nvm.params.pageSize then (.error .errInvalidArg, nvm)
  else
    let rowStartAddress := rowStart nvm.params destinationAddress
    match readRow nvm rowStartAddress (List.range NvmParameters.rowPages) with
    | .error e => (.error e, nvm)
    | .ok rowBuffer =>
        let rowBuffer := rowBuffer.modify (pageInRow nvm.params destinationAddress)
          (updatePage offset (buffer.take length))
        match nvmEraseRow nvm rowStartAddress with
        | .error e => (.error e, nvm)
        | .ok nvm' => writeRow rowStartAddress rowBuffer 0 nvm'

/-! ## Rows -/

section Row

variable (params : NvmParameters) {a : Nat}

theorem rowStart_eq (h : a < 2 ^ 32) :
    rowStart params a = alignDown (params.pageSize * NvmParameters.rowPages) a := by
  obtain ⟨k, hk6, hk⟩ := params.pageSize_pow
  have hpow : params.pageSize * NvmParameters.rowPages = 2 ^ (k + 2) := by
    rw [hk, NvmParameters.rowPages, Nat.pow_add]
  rw [rowStart, hpow]
  exact land_not_eq_alignDown (by omega) h

/-- The page of an address starts where `page_in_row` says. -/
theorem rowStart_add_pageInRow (h : a < 2 ^ 32) :
    rowStart params a + pageInRow params a * params.pageSize = alignDown params.pageSize a := by
  have hrow : params.pageSize ∣ params.pageSize * NvmParameters.rowPages := Nat.dvd_mul_right _ _
  have hmod : a % (params.pageSize * NvmParameters.rowPages) % params.pageSize =
      a % params.pageSize := Nat.mod_mod_of_dvd a hrow
  have hpage := Nat.div_add_mod (a % (params.pageSize * NvmParameters.rowPages)) params.pageSize
  have hle := Nat.mod_le a (params.pageSize * NvmParameters.rowPages)
  rw [rowStart_eq params h, pageInRow, alignDown, alignDown, Nat.mul_comm _ params.pageSize]
  rw [hmod] at hpage
  omega

theorem pageInRow_lt : pageInRow params a < NvmParameters.rowPages :=
  Nat.div_lt_of_lt_mul (Nat.mod_lt _ (Nat.mul_pos params.pageSize_pos (by decide)))

theorem rowStart_mod (h : a < 2 ^ 32) :
    rowStart params a % (params.pageSize * NvmParameters.rowPages) = 0 := by
  rw [rowStart_eq params h]
  exact alignDown_mod a

/-- The pages of a row are pages. -/
theorem page_mod {r : Nat} (h : r % (params.pageSize * NvmParameters.rowPages) = 0) (i : Nat) :
    (r + i * params.pageSize) % params.pageSize = 0 := by
  have hdvd : params.pageSize ∣ r :=
    Nat.dvd_trans (Nat.dvd_mul_right _ _) (Nat.dvd_of_mod_eq_zero h)
  exact Nat.mod_eq_zero_of_dvd (Nat.dvd_add hdvd (Nat.dvd_mul_left _ _))

end Row

/-! ## The row is read -/

/-- The pages of a row, as they are in a memory. -/
def rowOf (params : NvmParameters) (m : Nat → UInt8) (r : Nat) (pages : List Nat) :
    List (List UInt8) :=
  pages.map fun i => bytesAt m (r + i * params.pageSize) params.pageSize

theorem readRow_ok (nvm : Nvm) {r : Nat}
    (hr : r % (nvm.params.pageSize * NvmParameters.rowPages) = 0) {pages : List Nat}
    (h : ∀ i ∈ pages, r + i * nvm.params.pageSize ≤ nvm.params.hfSize) :
    readRow nvm r pages = .ok (rowOf nvm.params nvm.mem r pages) := by
  induction pages with
  | nil => rfl
  | cons i pages ih =>
    rw [List.forall_mem_cons] at h
    rw [readRow, nvmReadBuffer_page nvm h.1 (page_mod nvm.params hr i), ih h.2]
    rfl

theorem readRow_error (nvm : Nvm) {r : Nat}
    (hr : r % (nvm.params.pageSize * NvmParameters.rowPages) = 0) {pages : List Nat} {i : Nat}
    (hi : i ∈ pages) (h : nvm.params.hfSize < r + i * nvm.params.pageSize) :
    readRow nvm r pages = .error .errBadAddress := by
  induction pages with
  | nil => exact absurd hi List.not_mem_nil
  | cons j pages ih =>
    rcases Nat.lt_or_ge nvm.params.hfSize (r + j * nvm.params.pageSize) with hout | hin
    · rw [readRow, nvmReadBuffer, if_pos hout]
    · have hmem : i ∈ pages := by
        rcases List.mem_cons.mp hi with rfl | hmem
        · exact absurd h (Nat.not_lt.mpr hin)
        · exact hmem
      rw [readRow, nvmReadBuffer_page nvm hin (page_mod nvm.params hr j), ih hmem]

/-! ## The page is updated -/

theorem set_bytesAt (m : Nat → UInt8) (a n : Nat) {o : Nat} (b : UInt8) :
    (bytesAt m a n).set o b = bytesAt (overlay m (a + o) [b]) a n := by
  refine List.ext_getElem (by simp) fun i hi hi' => ?_
  simp only [List.getElem_set, getElem_bytesAt, overlay_singleton]
  by_cases h : o = i
  · rw [if_pos h, if_pos (by omega)]
  · rw [if_neg h, if_neg (by omega)]

theorem updatePage_bytesAt (m : Nat → UInt8) (a n o : Nat) (buffer : List UInt8) :
    updatePage o buffer (bytesAt m a n) = bytesAt (overlay m (a + o) buffer) a n := by
  induction buffer generalizing m o with
  | nil => rw [updatePage, overlay_nil]
  | cons b buffer ih =>
    have happend := overlay_append m (a + o) [b] buffer
    rw [updatePage, set_bytesAt, ih]
    exact congrArg (fun m => bytesAt m a n) happend

/-- In the row, only the page with the bytes changes. -/
theorem modify_rowOf (params : NvmParameters) (m : Nat → UInt8) (r : Nat) {k o : Nat}
    {buffer : List UInt8} (h : o + buffer.length ≤ params.pageSize) (n : Nat) :
    (rowOf params m r (List.range n)).modify k (updatePage o buffer) =
      rowOf params (overlay m (r + k * params.pageSize + o) buffer) r (List.range n) := by
  refine List.ext_getElem (by simp [rowOf]) fun i hi hi' => ?_
  simp only [rowOf, List.getElem_modify, List.getElem_map, List.getElem_range]
  split
  · rename_i hik
    rw [updatePage_bytesAt, hik]
  · rename_i hik
    rcases Nat.lt_or_gt_of_ne hik with hlt | hgt
    · have hpages := Nat.mul_le_mul_right params.pageSize (Nat.succ_le_of_lt hlt)
      rw [Nat.succ_mul] at hpages
      rw [bytesAt_overlay_of_ge (by omega)]
    · have hpages := Nat.mul_le_mul_right params.pageSize (Nat.succ_le_of_lt hgt)
      rw [Nat.succ_mul] at hpages
      rw [bytesAt_overlay_of_le (by omega)]

/-! ## The row is written -/

/-- A row that is blank from page `j` on. -/
def blankFrom (params : NvmParameters) (m : Nat → UInt8) (r j : Nat) : Nat → UInt8 := fun x =>
  if r + j * params.pageSize ≤ x ∧ x < r + NvmParameters.rowPages * params.pageSize then 0xff
  else m x

/-- A page is written where it was blank. -/
theorem programmed_blankFrom (params : NvmParameters) (m : Nat → UInt8) (r : Nat) {j : Nat}
    (hj : j < NvmParameters.rowPages) :
    programmed (blankFrom params m r j) (r + j * params.pageSize)
        (bytesAt m (r + j * params.pageSize) params.pageSize) =
      blankFrom params m r (j + 1) := by
  have hnext : r + (j + 1) * params.pageSize = r + j * params.pageSize + params.pageSize := by
    rw [Nat.succ_mul, Nat.add_assoc]
  have hlast : r + j * params.pageSize + params.pageSize ≤
      r + NvmParameters.rowPages * params.pageSize := by
    have hpages := Nat.mul_le_mul_right params.pageSize (Nat.succ_le_of_lt hj)
    rw [Nat.succ_mul] at hpages
    omega
  funext x
  rw [programmed, length_bytesAt]
  by_cases hx : r + j * params.pageSize ≤ x ∧ x < r + j * params.pageSize + params.pageSize
  · have hbefore : blankFrom params m r j x = 0xff := if_pos ⟨hx.1, by omega⟩
    have hafter : blankFrom params m r (j + 1) x = m x := if_neg (by omega)
    rw [if_pos hx, hbefore, hafter, List.getD_eq_getElem _ _ (by rw [length_bytesAt]; omega),
      getElem_bytesAt, Nat.add_sub_cancel' hx.1, show (0xff : UInt8) = -1 by rfl,
      UInt8.neg_one_and]
  · rw [if_neg hx, blankFrom, blankFrom]
    exact if_congr (by omega) rfl rfl

theorem writeRow_eq (params : NvmParameters) (m : Nat → UInt8) {r : Nat}
    (hr : r % (params.pageSize * NvmParameters.rowPages) = 0) (n : Nat) {j : Nat}
    (hn : j + n = NvmParameters.rowPages)
    (h : ∀ i < NvmParameters.rowPages, r + i * params.pageSize ≤ params.hfSize) :
    writeRow r (rowOf params m r (List.range' j n)) j ⟨params, blankFrom params m r j⟩ =
      (.ok (), ⟨params, m⟩) := by
  induction n generalizing j with
  | zero =>
    have hall : blankFrom params m r j = m := by
      obtain rfl : j = NvmParameters.rowPages := hn
      funext x
      exact if_neg (by omega)
    rw [List.range'_zero, hall]
    rfl
  | succ n ih =>
    have hj : j < NvmParameters.rowPages := by omega
    have hwrite := nvmWriteBuffer_page ⟨params, blankFrom params m r j⟩ (h j hj)
      (page_mod params hr j) (length_bytesAt m (r + j * params.pageSize) params.pageSize)
    rw [programmed_blankFrom params m r hj] at hwrite
    rw [List.range'_succ]
    show writeRow r (_ :: rowOf params m r (List.range' (j + 1) n)) j _ = _
    rw [writeRow, hwrite]
    exact ih (by omega)

/-! ## The whole update -/

/-- An erased row is blank from its first page on. -/
theorem erased_eq_blankFrom (params : NvmParameters) {m w : Nat → UInt8} {r : Nat}
    (h : ∀ x, ¬ (r ≤ x ∧ x < r + params.pageSize * NvmParameters.rowPages) → w x = m x) :
    erased m r (params.pageSize * NvmParameters.rowPages) = blankFrom params w r 0 := by
  funext x
  rw [erased, blankFrom, Nat.zero_mul, Nat.add_zero, Nat.mul_comm NvmParameters.rowPages]
  split
  · rfl
  · rename_i hx
    exact (h x hx).symm

/-- What an update of a flat array returns, and the array afterwards. -/
def updated (params : NvmParameters) (m : Nat → UInt8) (destinationAddress : Nat)
    (buffer : List UInt8) (offset length : Nat) : Except StatusCode Unit × (Nat → UInt8) :=
  let row := alignDown (params.pageSize * NvmParameters.rowPages) destinationAddress
  if offset + length > params.pageSize then (.error .errInvalidArg, m)
  else if row + (NvmParameters.rowPages - 1) * params.pageSize > params.hfSize then
    (.error .errBadAddress, m)
  else (.ok (), overlay m (alignDown params.pageSize destinationAddress + offset)
    (buffer.take length))

/-- An update stores its bytes and keeps every other one, and a failed one keeps all. -/
theorem nvmUpdateBuffer_eq (nvm : Nvm) {destinationAddress : Nat} (buffer : List UInt8)
    (offset length : Nat) (h : destinationAddress < 2 ^ 32) :
    nvmUpdateBuffer nvm destinationAddress buffer offset length =
      ((updated nvm.params nvm.mem destinationAddress buffer offset length).1,
        { nvm with mem := (updated nvm.params nvm.mem destinationAddress buffer offset length).2 })
    := by
  have hrow := rowStart_eq nvm.params h
  have hmod := rowStart_mod nvm.params h
  have hpage := rowStart_add_pageInRow nvm.params h
  have hin := pageInRow_lt nvm.params (a := destinationAddress)
  rw [nvmUpdateBuffer, updated, ← hrow]
  generalize rowStart nvm.params destinationAddress = r at hmod hpage
  generalize pageInRow nvm.params destinationAddress = k at hpage hin
  split
  · rfl
  rename_i hlen
  dsimp only
  rcases Nat.lt_or_ge nvm.params.hfSize (r + (NvmParameters.rowPages - 1) * nvm.params.pageSize)
    with hout | hend
  · have hlast : NvmParameters.rowPages - 1 ∈ List.range NvmParameters.rowPages := by decide
    rw [readRow_error nvm hmod hlast hout, if_pos hout]
  have hpages : ∀ i < NvmParameters.rowPages, r + i * nvm.params.pageSize ≤ nvm.params.hfSize := by
    intro i hi
    have hle := Nat.mul_le_mul_right nvm.params.pageSize (Nat.le_sub_one_of_lt hi)
    omega
  have hfirst : r ≤ nvm.params.hfSize := by
    simpa using hpages 0 (by decide)
  have hbytes : offset + (buffer.take length).length ≤ nvm.params.pageSize := by
    rw [List.length_take]
    omega
  have herased := erased_eq_blankFrom nvm.params (r := r) (m := nvm.mem)
    (w := overlay nvm.mem (r + k * nvm.params.pageSize + offset) (buffer.take length)) (by
      intro x hx
      have hle := Nat.mul_le_mul_right nvm.params.pageSize (Nat.succ_le_of_lt hin)
      rw [Nat.succ_mul, Nat.mul_comm NvmParameters.rowPages] at hle
      exact overlay_of_not_mem (by omega))
  rw [readRow_ok nvm hmod fun i hi => hpages i (List.mem_range.mp hi),
    if_neg (Nat.not_lt.mpr hend)]
  simp only [modify_rowOf nvm.params nvm.mem r hbytes, nvmEraseRow_row nvm hfirst hmod, herased]
  rw [List.range_eq_range', writeRow_eq nvm.params _ hmod _ (Nat.zero_add _) hpages, hpage]

/-! ## Runs -/

/-- A call of the driver, or an update. -/
inductive NvmOp where
  /-- A call of the driver. -/
  | hal (op : FlashOp)
  /-- `nvm_update_buffer`. -/
  | update (destinationAddress : Nat) (buffer : List UInt8) (offset length : Nat)

/-- What a call returns. -/
inductive NvmResult where
  /-- The result of a call of the driver. -/
  | hal (result : FlashResult)
  /-- The status of an update. -/
  | update (status : Except StatusCode Unit)

/-- The call is inside the flash; an update may have any 32-bit address. -/
def NvmOp.InRange (params : NvmParameters) : NvmOp → Prop
  | .hal op => op.InRange params
  | .update destinationAddress _ _ _ => destinationAddress < 2 ^ 32

instance (params : NvmParameters) : ∀ op : NvmOp, Decidable (op.InRange params)
  | .hal op => inferInstanceAs (Decidable (op.InRange params))
  | .update destinationAddress _ _ _ => inferInstanceAs (Decidable (destinationAddress < 2 ^ 32))

/-- One call. -/
def nvmStep (nvm : Nvm) : NvmOp → Option (Nvm × NvmResult)
  | .hal op => (flashStep nvm op).map fun r => (r.1, .hal r.2)
  | .update destinationAddress buffer offset length =>
      let r := nvmUpdateBuffer nvm destinationAddress buffer offset length
      some (r.2, .update r.1)

/-- The calls of a list in order, with what each returned. -/
def nvmRun : Nvm → List NvmOp → Option (Nvm × List NvmResult)
  | nvm, [] => some (nvm, [])
  | nvm, op :: ops => (nvmStep nvm op).bind fun r => (nvmRun r.1 ops).map fun q => (q.1, r.2 :: q.2)

/-- A call on the flat array. -/
inductive FlatNvmStep (params : NvmParameters) (m : Nat → UInt8) :
    NvmOp → NvmResult → (Nat → UInt8) → Prop where
  | hal {op : FlashOp} {result : FlashResult} {m' : Nat → UInt8} :
      FlatStep params m op result m' → FlatNvmStep params m (.hal op) (.hal result) m'
  | update (destinationAddress : Nat) (buffer : List UInt8) (offset length : Nat) :
      FlatNvmStep params m (.update destinationAddress buffer offset length)
        (.update (updated params m destinationAddress buffer offset length).1)
        (updated params m destinationAddress buffer offset length).2

/-- A run of calls on the flat array. -/
inductive FlatNvmRun (params : NvmParameters) :
    (Nat → UInt8) → List NvmOp → List NvmResult → (Nat → UInt8) → Prop where
  | nil (m : Nat → UInt8) : FlatNvmRun params m [] [] m
  | cons {m m' m'' : Nat → UInt8} {op : NvmOp} {ops : List NvmOp} {r : NvmResult}
      {rs : List NvmResult} : FlatNvmStep params m op r m' → FlatNvmRun params m' ops rs m'' →
      FlatNvmRun params m (op :: ops) (r :: rs) m''

/-- One call is one step of the flat array. -/
theorem nvmStep_refines (nvm : Nvm) (op : NvmOp) (h : op.InRange nvm.params) :
    ∃ r m', nvmStep nvm op = some ({ nvm with mem := m' }, r) ∧
      FlatNvmStep nvm.params nvm.mem op r m' := by
  cases op with
  | hal op =>
    obtain ⟨result, m', hstep, hflat⟩ := flashStep_refines nvm op h
    refine ⟨.hal result, m', ?_, .hal hflat⟩
    rw [nvmStep, hstep, Option.map_some]
  | update destinationAddress buffer offset length =>
    refine ⟨_, _, ?_, .update destinationAddress buffer offset length⟩
    rw [nvmStep, nvmUpdateBuffer_eq nvm buffer offset length h]

/-- Bytes written, changed in place in the middle of their row, and one update that is
refused. -/
def changeOps : List NvmOp :=
  [.hal (.write 5 [1, 2, 3, 4, 5]), .update 8 [7, 6] 1 2, .update 250 [9] 8 1, .hal (.read 4 7)]

end HalFlash
