import MynewtArduinoZero.Lib.ShiftRegister

/-!
# The CRC of SPI commands

`crc7` runs over a buffer byte by byte with a table of 256 syndromes.  The table
is the one of the shift register of seven bits that feeds back at `x^3` and `1`,
so the CRC of a buffer is what the register holds after the bits of the buffer,
and a burst of up to seven bits changes it.
-/

namespace Winc1500

namespace NmSpi

open ShiftRegister

/-- `crc7_syndrome_table`. -/
def crc7SyndromeTable : List UInt8 :=
  [ 0x00, 0x09, 0x12, 0x1b, 0x24, 0x2d, 0x36, 0x3f, 0x48, 0x41, 0x5a, 0x53, 0x6c, 0x65, 0x7e, 0x77,
    0x19, 0x10, 0x0b, 0x02, 0x3d, 0x34, 0x2f, 0x26, 0x51, 0x58, 0x43, 0x4a, 0x75, 0x7c, 0x67, 0x6e,
    0x32, 0x3b, 0x20, 0x29, 0x16, 0x1f, 0x04, 0x0d, 0x7a, 0x73, 0x68, 0x61, 0x5e, 0x57, 0x4c, 0x45,
    0x2b, 0x22, 0x39, 0x30, 0x0f, 0x06, 0x1d, 0x14, 0x63, 0x6a, 0x71, 0x78, 0x47, 0x4e, 0x55, 0x5c,
    0x64, 0x6d, 0x76, 0x7f, 0x40, 0x49, 0x52, 0x5b, 0x2c, 0x25, 0x3e, 0x37, 0x08, 0x01, 0x1a, 0x13,
    0x7d, 0x74, 0x6f, 0x66, 0x59, 0x50, 0x4b, 0x42, 0x35, 0x3c, 0x27, 0x2e, 0x11, 0x18, 0x03, 0x0a,
    0x56, 0x5f, 0x44, 0x4d, 0x72, 0x7b, 0x60, 0x69, 0x1e, 0x17, 0x0c, 0x05, 0x3a, 0x33, 0x28, 0x21,
    0x4f, 0x46, 0x5d, 0x54, 0x6b, 0x62, 0x79, 0x70, 0x07, 0x0e, 0x15, 0x1c, 0x23, 0x2a, 0x31, 0x38,
    0x41, 0x48, 0x53, 0x5a, 0x65, 0x6c, 0x77, 0x7e, 0x09, 0x00, 0x1b, 0x12, 0x2d, 0x24, 0x3f, 0x36,
    0x58, 0x51, 0x4a, 0x43, 0x7c, 0x75, 0x6e, 0x67, 0x10, 0x19, 0x02, 0x0b, 0x34, 0x3d, 0x26, 0x2f,
    0x73, 0x7a, 0x61, 0x68, 0x57, 0x5e, 0x45, 0x4c, 0x3b, 0x32, 0x29, 0x20, 0x1f, 0x16, 0x0d, 0x04,
    0x6a, 0x63, 0x78, 0x71, 0x4e, 0x47, 0x5c, 0x55, 0x22, 0x2b, 0x30, 0x39, 0x06, 0x0f, 0x14, 0x1d,
    0x25, 0x2c, 0x37, 0x3e, 0x01, 0x08, 0x13, 0x1a, 0x6d, 0x64, 0x7f, 0x76, 0x49, 0x40, 0x5b, 0x52,
    0x3c, 0x35, 0x2e, 0x27, 0x18, 0x11, 0x0a, 0x03, 0x74, 0x7d, 0x66, 0x6f, 0x50, 0x59, 0x42, 0x4b,
    0x17, 0x1e, 0x05, 0x0c, 0x33, 0x3a, 0x21, 0x28, 0x5f, 0x56, 0x4d, 0x44, 0x7b, 0x72, 0x69, 0x60,
    0x0e, 0x07, 0x1c, 0x15, 0x2a, 0x23, 0x38, 0x31, 0x46, 0x4f, 0x54, 0x5d, 0x62, 0x6b, 0x70, 0x79 ]

def crc7Byte (crc data : UInt8) : UInt8 :=
  crc7SyndromeTable.getD ((crc.toNat <<< 1) ^^^ data.toNat) 0

def crc7 (crc : UInt8) (buffer : List UInt8) : UInt8 := buffer.foldl crc7Byte crc

/-! ## The shift register of the table -/

/-- The feedback of the register. -/
def crc7Poly : BitVec 7 := 0x09#7

/-- The value of the register, in the byte the code keeps it in. -/
def ofReg (s : BitVec 7) : UInt8 := ⟨s.setWidth 8⟩

theorem getD_crc7SyndromeTable :
    ∀ x : BitVec 8, crc7SyndromeTable.getD x.toNat 0 = ofReg (run crc7Poly 0#7 (msbs 8 x)) := by
  decide +kernel

/-- The bits of the register, in front of the byte that is taken to it. -/
theorem msbs_setWidth (s : BitVec 7) : msbs 8 (s.setWidth 8 <<< 1) = msbs 8 s := by
  revert s
  decide +kernel

/-- The index into the table, which a register of seven bits keeps inside. -/
theorem crc7_index (s : BitVec 7) (data : UInt8) :
    ((ofReg s).toNat <<< 1) ^^^ data.toNat = (data.toBitVec ^^^ (s.setWidth 8 <<< 1)).toNat := by
  have hreg : (ofReg s).toNat = s.toNat := by
    change (s.setWidth 8).toNat = s.toNat
    rw [BitVec.toNat_setWidth, Nat.mod_eq_of_lt (by omega)]
  have hshift : (s.setWidth 8 <<< 1).toNat = s.toNat <<< 1 := by
    rw [BitVec.toNat_shiftLeft, BitVec.toNat_setWidth,
      Nat.mod_eq_of_lt (show s.toNat < 2 ^ 8 by omega)]
    exact Nat.mod_eq_of_lt (by rw [Nat.shiftLeft_eq]; omega)
  rw [BitVec.toNat_xor, hreg, hshift, Nat.xor_comm]
  rfl

/-- A look-up is eight steps of the register. -/
theorem crc7Byte_ofReg (s : BitVec 7) (data : UInt8) :
    crc7Byte (ofReg s) data = ofReg (run crc7Poly s (msbs 8 data.toBitVec)) := by
  rw [crc7Byte, crc7_index, getD_crc7SyndromeTable, msbs_xor, msbs_setWidth,
    ← run_eq_run_zero (by omega) (length_msbs ..)]

/-- The bits of a buffer, in the order in which they go over the wire. -/
def bitsOf (l : List UInt8) : List Bool := l.flatMap fun b => msbs 8 b.toBitVec

theorem bitsOf_cons (b : UInt8) (l : List UInt8) :
    bitsOf (b :: l) = msbs 8 b.toBitVec ++ bitsOf l := rfl

/-- The CRC of a buffer is what the register holds behind its bits. -/
theorem crc7_ofReg (s : BitVec 7) (l : List UInt8) :
    crc7 (ofReg s) l = ofReg (run crc7Poly s (bitsOf l)) := by
  induction l generalizing s with
  | nil => rfl
  | cons b l ih =>
      rw [crc7, List.foldl_cons, ← crc7, crc7Byte_ofReg, ih, bitsOf_cons, run_append]

theorem crc7_append (crc : UInt8) (l l' : List UInt8) :
    crc7 crc (l ++ l') = crc7 (crc7 crc l) l' := List.foldl_append

/-! ## Bursts -/

theorem ofReg_inj {s t : BitVec 7} (h : ofReg s = ofReg t) : s = t := by
  have hwide : s.setWidth 8 = t.setWidth 8 := congrArg UInt8.toBitVec h
  have hnarrow := congrArg (BitVec.setWidth 7) hwide
  simpa using hnarrow

/-- Two buffers with one CRC do not differ in a burst of up to seven bits. -/
theorem burst_eq_of_crc7_eq {s : BitVec 7} {l l' : List UInt8} {before es fs behind : List Bool}
    (hl : bitsOf l = before ++ es ++ behind) (hl' : bitsOf l' = before ++ fs ++ behind)
    (hlen : es.length = fs.length) (hburst : es.length ≤ 7)
    (h : crc7 (ofReg s) l = crc7 (ofReg s) l') : es = fs := by
  rw [crc7_ofReg, crc7_ofReg] at h
  have hrun := ofReg_inj h
  rw [hl, hl'] at hrun
  exact eq_of_run_eq (by decide) hlen hburst hrun

/-- A buffer followed by its CRC takes the register to zero. -/
theorem crc7_append_self (s : BitVec 7) (l : List UInt8) :
    crc7 (ofReg s) (l ++ [crc7 (ofReg s) l <<< 1]) = 0 := by
  rw [crc7_append, crc7_ofReg]
  have hzero : ∀ t : BitVec 7, crc7 (ofReg t) [ofReg t <<< 1] = 0 := by decide +kernel
  exact hzero _

end NmSpi

end Winc1500
