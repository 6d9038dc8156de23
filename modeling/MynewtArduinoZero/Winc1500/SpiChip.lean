import Mathlib.Data.List.Basic
import MynewtArduinoZero.Winc1500.SpiFrame

/-!
# The chip behind the bus

What the driver takes the chip for: registers and a memory, with addresses of 24
bits, and the protocol by which they are read and written.  The chip takes a
frame byte by byte, lets the driver wait for the echo of the command and for the
zero behind it, and then sends or takes packets.

How long the chip lets the driver wait is up to the chip, within the polls of the
driver: ten bytes in front of the echo and the zero, nine in front of a packet.
What it sends while it listens is up to it as well.
-/

namespace Winc1500

namespace NmSpi

open Dialogue LittleEndian

/-! ## Memory -/

def storeByte (mem : Nat → UInt8) (adr : Nat) (b : UInt8) : Nat → UInt8 := fun x =>
  if x = adr % 2 ^ 24 then b else mem x

/-- Bytes stored one behind the other. -/
def storeBytes (mem : Nat → UInt8) : (adr : Nat) → List UInt8 → Nat → UInt8
  | _, [] => mem
  | adr, b :: l => storeBytes (storeByte mem adr b) (adr + 1) l

def loadBytes (mem : Nat → UInt8) (adr n : Nat) : List UInt8 :=
  (List.range n).map fun i => mem ((adr + i) % 2 ^ 24)

/-- A word stored in a register. -/
def setReg (regs : Nat → UInt32) (adr : Nat) (val : UInt32) : Nat → UInt32 := fun x =>
  if x = adr then val else regs x

/-! ## Phases -/

/-- Where the chip is in a command. -/
inductive Phase where
  /-- It takes a frame, and has some of it. -/
  | command (got : List UInt8)
  | echo (code : UInt8) (patience : Nat) (behind : Phase)
  | status (patience : Nat) (behind : Phase)
  /-- It has data left to send, in packets with a CRC or without. -/
  | header (data : List UInt8) (crc : Bool) (patience : Nat)
  | sending (packet rest : List UInt8) (crc : Bool)
  | sendingCrc (n : Nat) (rest : List UInt8)
  /-- It has bytes left to take, from `adr` on. -/
  | packet (adr left : Nat) (first : Bool)
  | body (adr n left : Nat)
  | bodyCrc (n adr left : Nat)
deriving DecidableEq, Repr

structure Chip where
  phase : Phase
  regs : Nat → UInt32
  mem : Nat → UInt8

/-- The chip checks no CRC, and sends none. -/
def Chip.crcOff (c : Chip) : Bool := c.regs nmiSpiProtocolConfig.toNat &&& 0xc == 0

/-- A packet has been sent. -/
def Phase.sent (rest : List UInt8) (crc : Bool) : Phase :=
  if rest = [] then .command [] else .header rest crc 9

def Phase.sentPacket (rest : List UInt8) (crc : Bool) : Phase :=
  if crc then .sendingCrc 2 rest else .sent rest crc

/-- The header of a packet has been sent. -/
def Phase.sendPacket (data : List UInt8) (crc : Bool) : Phase :=
  if data = [] then .sentPacket [] crc
  else .sending (data.take dataPktSz) (data.drop dataPktSz) crc

/-- A packet has been taken. -/
def Phase.taken (adr left : Nat) : Phase :=
  if left = 0 then .command [] else .packet adr left false

def Phase.takenPacket (crcOff : Bool) (adr left : Nat) : Phase :=
  if crcOff then .taken adr left else .bodyCrc 2 adr left

/-- The header of a packet has been taken. -/
def Phase.takePacket (crcOff : Bool) (adr left : Nat) : Phase :=
  if left = 0 then .takenPacket crcOff adr 0
  else .body adr (min left dataPktSz) (left - min left dataPktSz)

def Chip.set (c : Chip) (adr : Nat) (val : UInt32) : Chip :=
  { c with regs := setReg c.regs adr val }

/-- Bytes stored in the memory of the chip. -/
def Chip.store (c : Chip) (adr : Nat) (l : List UInt8) : Chip :=
  { c with mem := storeBytes c.mem adr l }

/-! ## Commands -/

def Chip.to (c : Chip) (p : Phase) : Chip := { c with phase := p }

/-- The chip has taken a command that is answered with data or takes some. -/
def Chip.begin (c : Chip) (code : UInt8) (behind : Phase) : Chip := c.to (.echo code 10 behind)

/-- The registers without clock are the ones under their number. -/
def regOfField (field : Nat) : Nat := field % 2 ^ 15

/-- What the chip does with a command of the driver's. -/
def Chip.accept (c : Chip) : Command → Option Chip
  | .internalRead field =>
      some (c.begin Cmd.internalRead.code
        (.header (leBytes 4 (c.regs (regOfField field)).toNat) false 9))
  | .singleRead adr =>
      some (c.begin Cmd.singleRead.code (.header (leBytes 4 (c.regs adr).toNat) (!c.crcOff) 9))
  | .internalWrite field data =>
      some ((c.set (regOfField field) (.ofNat data)).begin Cmd.internalWrite.code (.command []))
  | .singleWrite adr data =>
      some ((c.set adr (.ofNat data)).begin Cmd.singleWrite.code (.command []))
  | .dmaExtRead adr sz =>
      some (c.begin Cmd.dmaExtRead.code (.header (loadBytes c.mem adr sz) (!c.crcOff) 9))
  | .dmaExtWrite adr sz => some (c.begin Cmd.dmaExtWrite.code (.packet adr sz true))
  | _ => none

/-- The length of the frame that begins with a byte. -/
def frameLength (crcOff : Bool) (code : UInt8) : Option Nat :=
  (Cmd.ofCode code).map fun cmd => 1 + cmd.fields + if crcOff then 0 else 1

/-- A byte of a frame. -/
def Chip.hear (c : Chip) (got : List UInt8) : Option Chip :=
  (frameLength c.crcOff (got.headD 0)).bind fun n =>
    if got.length < n then some (c.to (.command got))
    else (decode c.crcOff got).bind c.accept

/-! ## One byte each way -/

/-- The driver polls: either the byte it waits for has come, or it has to wait on. -/
def wait (come : Bool) (patience : Nat) (behind : Phase) (again : Nat → Phase) : Option Phase :=
  if come then some behind
  else match patience with
    | 0 => none
    | k + 1 => some (again k)

/-- The chip after an exchange, where it may send `rx` then. -/
def Chip.exchange (c : Chip) (tx rx : UInt8) : Option Chip :=
  match c.phase with
  | .command got => c.hear (got ++ [tx])
  | .echo code patience behind =>
      (wait (rx == code) patience (.status 10 behind) (.echo code · behind)).map c.to
  | .status patience behind => (wait (rx == 0) patience behind (.status · behind)).map c.to
  | .header data crc patience =>
      (wait (rx >>> 4 == 0xf) patience (.sendPacket data crc) (.header data crc ·)).map c.to
  | .sending [] _ _ => none
  | .sending (b :: l) rest crc =>
      if rx ≠ b then none
      else some (c.to (if l = [] then .sentPacket rest crc else .sending l rest crc))
  | .sendingCrc n rest =>
      some (c.to (if n ≤ 1 then .sent rest true else .sendingCrc (n - 1) rest))
  | .packet adr left first =>
      if tx = 0xf0 ||| (if left ≤ dataPktSz then 0x3 else if first then 0x1 else 0x2) then
        some (c.to (.takePacket c.crcOff adr left))
      else none
  | .body adr n left =>
      some ((c.store adr [tx]).to
        (if n ≤ 1 then .takenPacket c.crcOff (adr + 1) left else .body (adr + 1) (n - 1) left))
  | .bodyCrc n adr left =>
      if tx ≠ 0 then none
      else some (c.to (if n ≤ 1 then .taken adr left else .bodyCrc (n - 1) adr left))

/-- The chip, and whether it is selected. -/
structure Slave where
  selected : Bool
  chip : Chip

/-- What the chip may answer.  It exchanges bytes only while it is selected. -/
def Slave.Step (s : Slave) : HalCall → Option UInt8 → Slave → Prop
  | .ssn value, _, t => t = ⟨!value, s.chip⟩
  | .txrx tx, x, t =>
      s.selected = true ∧ ∃ rx c, x = some rx ∧ s.chip.exchange tx rx = some c ∧ t = ⟨true, c⟩

/-- A part of the driver that finds the chip deselected never asks it in vain, and leaves it
deselected, as `post` says. -/
def Ends {α : Type} (d : Wire α) (c : Chip) (post : α → Chip → Prop) : Prop :=
  Ensures Slave.Step d ⟨false, c⟩ fun a s => ∃ t, s = ⟨false, t⟩ ∧ post a t

end NmSpi

end Winc1500
