import MynewtArduinoZero.Lib.Align
import MynewtArduinoZero.Lib.Cells

/-!
# The NVM controller

The flash of the SAMD21 as `nvm.c` presents it: pages of `pageSize` bytes, four
pages to a row.  Programming a page clears bits and never sets one, so a byte
becomes `old AND new`.  Erasing a row sets its bytes to `0xff`.

The flash is a function from byte addresses to bytes.  The controller moves
16-bit words, low byte first, and a page is a whole number of words, so the
word loops of `nvm_read_buffer` and `nvm_write_buffer` are written here as the
byte runs they move.  The controller is taken to be ready between two commands,
so `STATUS_BUSY` is never returned.
-/

namespace HalFlash

open Cells

/-- The part of `enum status_code` the functions below return on failure. -/
inductive StatusCode where
  /-- `STATUS_ERR_BAD_ADDRESS`. -/
  | errBadAddress
  /-- `STATUS_ERR_INVALID_ARG`. -/
  | errInvalidArg
deriving DecidableEq, Repr

/-- `struct nvm_parameters`: what `nvm_get_parameters` reads off the chip.  The
page count is a 16-bit field, and the flash driver asserts that a page fits its
64-byte stack buffer. -/
structure NvmParameters where
  /-- Bytes per page. -/
  pageSize : Nat
  /-- Pages of the main array. -/
  nvmNumberOfPages : Nat
  /-- A page is a power of two of bytes, at most 64. -/
  pageSize_pow : ∃ k ≤ 6, pageSize = 2 ^ k
  /-- The page count fits its field. -/
  pages_lt : nvmNumberOfPages < 2 ^ 16

namespace NvmParameters

variable (params : NvmParameters)

/-- `NVMCTRL_ROW_PAGES`. -/
def rowPages : Nat := 4

/-- Bytes of the main array, `hf_size`. -/
def hfSize : Nat := params.nvmNumberOfPages * params.pageSize

theorem pageSize_pos : 0 < params.pageSize := by
  obtain ⟨k, _, hk⟩ := params.pageSize_pow
  rw [hk]
  exact Nat.two_pow_pos k

theorem pageSize_le : params.pageSize ≤ 64 := by
  obtain ⟨k, hk6, hk⟩ := params.pageSize_pow
  rw [hk]
  exact Nat.pow_le_pow_right (by omega) hk6

/-- Every address of the array fits in 32 bits. -/
theorem hfSize_lt : params.hfSize < 2 ^ 32 := by
  have hmul : params.nvmNumberOfPages * params.pageSize ≤ 2 ^ 16 * 64 :=
    Nat.mul_le_mul (Nat.le_of_lt params.pages_lt) params.pageSize_le
  unfold hfSize
  omega

end NvmParameters

/-- The controller: its parameters and the bytes of the main array. -/
structure Nvm where
  /-- What `nvm_get_parameters` returns. -/
  params : NvmParameters
  /-- The byte at each address. -/
  mem : Nat → UInt8

/-- `nvm_read_buffer`: the bytes read, or the status of the refusal. -/
def nvmReadBuffer (nvm : Nvm) (sourceAddress length : Nat) : Except StatusCode (List UInt8) :=
  if sourceAddress > nvm.params.hfSize then .error .errBadAddress
  else if sourceAddress &&& (nvm.params.pageSize - 1) ≠ 0 then .error .errBadAddress
  else if length > nvm.params.pageSize then .error .errInvalidArg
  else .ok (bytesAt nvm.mem sourceAddress length)

/-- The array after the page buffer `buffer` is programmed at `a`. -/
def programmed (m : Nat → UInt8) (a : Nat) (buffer : List UInt8) : Nat → UInt8 := fun x =>
  if a ≤ x ∧ x < a + buffer.length then m x &&& buffer.getD (x - a) 0xff else m x

/-- `nvm_write_buffer`: the controller after the page program. -/
def nvmWriteBuffer (nvm : Nvm) (destinationAddress : Nat) (buffer : List UInt8) (length : Nat) :
    Except StatusCode Nvm :=
  if destinationAddress > nvm.params.hfSize then .error .errBadAddress
  else if destinationAddress &&& (nvm.params.pageSize - 1) ≠ 0 then .error .errBadAddress
  else if length > nvm.params.pageSize then .error .errInvalidArg
  else .ok { nvm with mem := programmed nvm.mem destinationAddress (buffer.take length) }

/-- The array after the `n` bytes from `a` are erased. -/
def erased (m : Nat → UInt8) (a n : Nat) : Nat → UInt8 := fun x =>
  if a ≤ x ∧ x < a + n then 0xff else m x

/-- `nvm_erase_row`: the controller after the row erase. -/
def nvmEraseRow (nvm : Nvm) (rowAddress : Nat) : Except StatusCode Nvm :=
  if rowAddress > nvm.params.hfSize then .error .errBadAddress
  else if rowAddress &&& (nvm.params.pageSize * NvmParameters.rowPages - 1) ≠ 0 then
    .error .errBadAddress
  else .ok { nvm with
    mem := erased nvm.mem rowAddress (nvm.params.pageSize * NvmParameters.rowPages) }

/-! ## Accepted commands -/

/-- The alignment test of a page address, as a remainder. -/
theorem land_pageSize_sub_one (params : NvmParameters) (a : Nat) :
    a &&& (params.pageSize - 1) = a % params.pageSize := by
  obtain ⟨k, _, hk⟩ := params.pageSize_pow
  rw [hk, Nat.and_two_pow_sub_one_eq_mod]

/-- The alignment test of a row address, as a remainder. -/
theorem land_rowSize_sub_one (params : NvmParameters) (a : Nat) :
    a &&& (params.pageSize * NvmParameters.rowPages - 1)
      = a % (params.pageSize * NvmParameters.rowPages) := by
  obtain ⟨k, _, hk⟩ := params.pageSize_pow
  rw [hk, NvmParameters.rowPages, show 2 ^ k * 4 = 2 ^ (k + 2) by rw [Nat.pow_add],
    Nat.and_two_pow_sub_one_eq_mod]

theorem nvmReadBuffer_page (nvm : Nvm) {a : Nat} (ha : a ≤ nvm.params.hfSize)
    (halign : a % nvm.params.pageSize = 0) :
    nvmReadBuffer nvm a nvm.params.pageSize = .ok (bytesAt nvm.mem a nvm.params.pageSize) := by
  simp [nvmReadBuffer, land_pageSize_sub_one, halign, Nat.not_lt.mpr ha]

theorem nvmWriteBuffer_page (nvm : Nvm) {a : Nat} {buffer : List UInt8}
    (ha : a ≤ nvm.params.hfSize) (halign : a % nvm.params.pageSize = 0)
    (hlen : buffer.length = nvm.params.pageSize) :
    nvmWriteBuffer nvm a buffer nvm.params.pageSize
      = .ok { nvm with mem := programmed nvm.mem a buffer } := by
  simp [nvmWriteBuffer, land_pageSize_sub_one, halign, Nat.not_lt.mpr ha,
    List.take_of_length_le (Nat.le_of_eq hlen)]

theorem nvmEraseRow_row (nvm : Nvm) {a : Nat} (ha : a ≤ nvm.params.hfSize)
    (halign : a % (nvm.params.pageSize * NvmParameters.rowPages) = 0) :
    nvmEraseRow nvm a = .ok { nvm with
      mem := erased nvm.mem a (nvm.params.pageSize * NvmParameters.rowPages) } := by
  simp [nvmEraseRow, land_rowSize_sub_one, halign, Nat.not_lt.mpr ha]

end HalFlash
