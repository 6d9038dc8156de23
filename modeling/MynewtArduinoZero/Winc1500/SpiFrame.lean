import MynewtArduinoZero.Lib.LittleEndian
import MynewtArduinoZero.Winc1500.NmSpi

/-!
# Frames of commands

What the chip reads off a frame.  The fields of a command are as wide as its
frame has them: an address has 24 bits, the number of a register without clock
15 with a mark above them.  A frame read back is the command that was asked for,
with or without the CRC, and with it no frame is turned into another one by a
burst of up to seven bits.
-/

namespace Winc1500

namespace NmSpi

open LittleEndian

/-- What a frame asks of the chip. -/
inductive Command where
  | dmaWrite (adr sz : Nat)
  | dmaRead (adr sz : Nat)
  | internalWrite (field data : Nat)
  | internalRead (field : Nat)
  | terminate
  | «repeat»
  | dmaExtWrite (adr sz : Nat)
  | dmaExtRead (adr sz : Nat)
  | singleWrite (adr data : Nat)
  | singleRead (adr : Nat)
  | reset
deriving DecidableEq, Repr

/-! ## Reading a frame -/

def cmds : List Cmd :=
  [.dmaWrite, .dmaRead, .internalWrite, .internalRead, .terminate, .repeat, .dmaExtWrite,
    .dmaExtRead, .singleWrite, .singleRead, .reset]

def Cmd.ofCode (b : UInt8) : Option Cmd := cmds.find? fun cmd => cmd.code = b

@[simp] theorem Cmd.ofCode_code (cmd : Cmd) : Cmd.ofCode cmd.code = some cmd := by
  cases cmd <;> rfl

/-- The bytes between the code and the CRC. -/
def Cmd.fields : Cmd → Nat
  | .internalRead | .terminate | .repeat | .singleRead | .reset => 3
  | .dmaWrite | .dmaRead => 5
  | .internalWrite | .dmaExtWrite | .dmaExtRead => 6
  | .singleWrite => 7

/-- The command with its fields. -/
def Cmd.withFields : Cmd → List UInt8 → Option Command
  | .dmaWrite, [a₂, a₁, a₀, s₁, s₀] => some (.dmaWrite (leValue [a₀, a₁, a₂]) (leValue [s₀, s₁]))
  | .dmaRead, [a₂, a₁, a₀, s₁, s₀] => some (.dmaRead (leValue [a₀, a₁, a₂]) (leValue [s₀, s₁]))
  | .internalWrite, [f₁, f₀, d₃, d₂, d₁, d₀] =>
      some (.internalWrite (leValue [f₀, f₁]) (leValue [d₀, d₁, d₂, d₃]))
  | .internalRead, [f₁, f₀, _] => some (.internalRead (leValue [f₀, f₁]))
  | .terminate, [_, _, _] => some .terminate
  | .repeat, [_, _, _] => some .repeat
  | .dmaExtWrite, [a₂, a₁, a₀, s₂, s₁, s₀] =>
      some (.dmaExtWrite (leValue [a₀, a₁, a₂]) (leValue [s₀, s₁, s₂]))
  | .dmaExtRead, [a₂, a₁, a₀, s₂, s₁, s₀] =>
      some (.dmaExtRead (leValue [a₀, a₁, a₂]) (leValue [s₀, s₁, s₂]))
  | .singleWrite, [a₂, a₁, a₀, d₃, d₂, d₁, d₀] =>
      some (.singleWrite (leValue [a₀, a₁, a₂]) (leValue [d₀, d₁, d₂, d₃]))
  | .singleRead, [a₂, a₁, a₀] => some (.singleRead (leValue [a₀, a₁, a₂]))
  | .reset, [_, _, _] => some .reset
  | _, _ => none

/-- The frame without its CRC, which has to be right. -/
def strip (crcOff : Bool) (l : List UInt8) : Option (List UInt8) :=
  if crcOff then some l
  else if l.getLast? = some (crc7 0x7f l.dropLast <<< 1) then some l.dropLast else none

def decode (crcOff : Bool) (l : List UInt8) : Option Command :=
  (strip crcOff l).bind fun
    | [] => none
    | code :: fields => (Cmd.ofCode code).bind fun cmd => cmd.withFields fields

/-! ## What was asked for -/

/-- The number of a register, with the mark of those without clock. -/
def internalField (adr : UInt32) (clockless : Bool) : Nat :=
  if clockless then adr.toNat % 2 ^ 15 + 2 ^ 15 else adr.toNat % 2 ^ 16

/-- The arguments of `spi_cmd` that go into the frame, as far as they do. -/
def Cmd.asked (cmd : Cmd) (adr u32data sz : UInt32) (clockless : Bool) : Command :=
  match cmd with
  | .dmaWrite => .dmaWrite (adr.toNat % 2 ^ 24) (sz.toNat % 2 ^ 16)
  | .dmaRead => .dmaRead (adr.toNat % 2 ^ 24) (sz.toNat % 2 ^ 16)
  | .internalWrite => .internalWrite (internalField adr clockless) u32data.toNat
  | .internalRead => .internalRead (internalField adr clockless)
  | .terminate => .terminate
  | .repeat => .repeat
  | .dmaExtWrite => .dmaExtWrite (adr.toNat % 2 ^ 24) (sz.toNat % 2 ^ 24)
  | .dmaExtRead => .dmaExtRead (adr.toNat % 2 ^ 24) (sz.toNat % 2 ^ 24)
  | .singleWrite => .singleWrite (adr.toNat % 2 ^ 24) u32data.toNat
  | .singleRead => .singleRead (adr.toNat % 2 ^ 24)
  | .reset => .reset

theorem toUInt8_shiftRight (x : UInt32) (k : UInt32) (hk : k < 32) :
    (x >>> k).toUInt8 = UInt8.ofNat (x.toNat / 2 ^ k.toNat) := by
  have hlt : k.toNat < 32 := hk
  refine UInt8.toNat_inj.mp ?_
  rw [UInt32.toNat_toUInt8, UInt32.toNat_shiftRight, UInt8.toNat_ofNat', Nat.shiftRight_eq_div_pow,
    Nat.mod_eq_of_lt hlt]

theorem leValue_two (x : UInt32) : leValue [x.toUInt8, (x >>> 8).toUInt8] = x.toNat % 2 ^ 16 := by
  have hbytes : leBytes 2 x.toNat = [x.toUInt8, (x >>> 8).toUInt8] := by
    rw [toUInt8_shiftRight x 8 (by decide)]
    rfl
  rw [← hbytes]
  exact leValue_leBytes 2 x.toNat

theorem leValue_three (x : UInt32) :
    leValue [x.toUInt8, (x >>> 8).toUInt8, (x >>> 16).toUInt8] = x.toNat % 2 ^ 24 := by
  have hbytes : leBytes 3 x.toNat = [x.toUInt8, (x >>> 8).toUInt8, (x >>> 16).toUInt8] := by
    rw [toUInt8_shiftRight x 8 (by decide), toUInt8_shiftRight x 16 (by decide), leBytes, leBytes,
      leBytes, leBytes, Nat.div_div_eq_div_mul]
    rfl
  rw [← hbytes]
  exact leValue_leBytes 3 x.toNat

theorem leValue_four (x : UInt32) :
    leValue [x.toUInt8, (x >>> 8).toUInt8, (x >>> 16).toUInt8, (x >>> 24).toUInt8] = x.toNat := by
  have hbytes : leBytes 4 x.toNat =
      [x.toUInt8, (x >>> 8).toUInt8, (x >>> 16).toUInt8, (x >>> 24).toUInt8] := by
    rw [toUInt8_shiftRight x 8 (by decide), toUInt8_shiftRight x 16 (by decide),
      toUInt8_shiftRight x 24 (by decide), leBytes, leBytes, leBytes, leBytes, leBytes,
      Nat.div_div_eq_div_mul, Nat.div_div_eq_div_mul]
    rfl
  rw [← hbytes, leValue_leBytes_of_lt x.toNat_lt]

/-- The mark is the highest bit. -/
theorem toNat_mark (b : UInt8) : (b ||| 0x80).toNat = b.toNat % 128 + 128 := by
  have hmark : ∀ x : BitVec 8, (x ||| 0x80#8).toNat = x.toNat % 128 + 128 := by decide +kernel
  exact hmark b.toBitVec

theorem leValue_clocklessByte (adr : UInt32) (clockless : Bool) :
    leValue [adr.toUInt8, clocklessByte adr clockless] = internalField adr clockless := by
  cases clockless with
  | false => exact leValue_two adr
  | true =>
      have hlow : adr.toUInt8.toNat < 256 := adr.toUInt8.toNat_lt
      have htwo := leValue_two adr
      simp only [clocklessByte, internalField, if_true, leValue] at htwo ⊢
      rw [toNat_mark]
      omega

/-! ## A frame read back -/

theorem strip_frame (crcOff : Bool) (bc : List UInt8) : strip crcOff (frame crcOff bc) = some bc := by
  cases crcOff with
  | true => rfl
  | false => simp [strip, frame]

/-- The chip reads off a frame what was asked for. -/
theorem decode_frame (crcOff : Bool) (cmd : Cmd) (adr u32data sz : UInt32) (clockless : Bool) :
    decode crcOff (frame crcOff (spiCmdBytes cmd adr u32data sz clockless)) =
      some (cmd.asked adr u32data sz clockless) := by
  rw [decode, strip_frame, Option.bind_some]
  cases cmd <;>
    simp only [spiCmdBytes, Cmd.ofCode_code, Option.bind_some, Cmd.withFields, Cmd.asked,
      leValue_two, leValue_three, leValue_four, leValue_clocklessByte]

/-! ## Damaged frames -/

/-- A frame that passes the check takes the register to zero. -/
theorem crc7_of_strip {l bc : List UInt8} (h : strip false l = some bc) : crc7 0x7f l = 0 := by
  rw [strip, if_neg Bool.false_ne_true] at h
  split at h
  · rename_i hlast
    obtain ⟨init, hl⟩ := List.getLast?_eq_some_iff.mp hlast
    have hinit : l.dropLast = init := by rw [hl, List.dropLast_concat]
    rw [hinit] at hl
    rw [hl]
    exact crc7_append_self 0x7f#7 init
  · cases h

end NmSpi

end Winc1500
