import MynewtArduinoZero.Lib.Dialogue
import MynewtArduinoZero.Winc1500.Crc7
import MynewtArduinoZero.Winc1500.Hif

/-!
# The SPI protocol of the chip

The driver talks to the chip over two calls of the HAL, the chip select and the
exchange of one byte.  A command is a frame of four to nine bytes, with a CRC
until the chip is told to check none.  The driver then polls for the command's
echo and for a zero, and data goes over in packets of up to 8 KB, each behind a
byte of its own.

Buffers are read and written in a memory of the host that a pointer is an
integer of, because `spi_data_read` and `spi_data_write` keep their index in
sixteen bits with a sign.
-/

namespace Winc1500

namespace NmSpi

open Dialogue
open Hif (m2mSuccess m2mErrBusFail)

def nOk : Int := 1
def nFail : Int := 0

/-- `DATA_PKT_SZ`. -/
def dataPktSz : Nat := 8192

/-! ## The bus -/

/-- A call of the HAL. -/
inductive HalCall where
  /-- `hal_gpio_write` of `WINC1500_SPI_SSN`. -/
  | ssn (value : Bool)
  /-- `hal_spi_txrx` of one byte. -/
  | txrx (tx : UInt8)
deriving DecidableEq, Repr

/-- Programs on the bus.  `hal_spi_txrx` answers the byte that came in, or fails. -/
abbrev Wire (α : Type) := Dialogue HalCall (Option UInt8) α

def halGpioWrite (value : Bool) : Wire Unit := do
  let _ ← put (.ssn value)

def halSpiTxrx (tx : UInt8) : Wire (Option UInt8) := put (.txrx tx)

/-- The loop of `nm_spi_rw`: what came in, up to the first byte that fails. -/
def clock : List UInt8 → Wire (List UInt8 × Int)
  | [] => return ([], m2mSuccess)
  | tx :: mosi => do
      match ← halSpiTxrx tx with
      | none => return ([], m2mErrBusFail)
      | some rx => do
          let (miso, rc) ← clock mosi
          return (rx :: miso, rc)

def nmSpiRw (mosi : List UInt8) : Wire (List UInt8 × Int) := do
  halGpioWrite false
  let r ← clock mosi
  halGpioWrite true
  return r

def nmiSpiRead (sz : Nat) : Wire (List UInt8 × Int) := nmSpiRw (List.replicate sz 0)

def nmiSpiWrite (b : List UInt8) : Wire Int := do
  let (_, rc) ← nmSpiRw b
  return rc

/-! ## Buffers -/

/-- The bytes of the host's memory from `p`. -/
def bytesFrom (host : Int → UInt8) (p : Int) (n : Nat) : List UInt8 :=
  (List.range n).map fun i : Nat => host (p + i)

/-- The host's memory after bytes are stored from `p`. -/
def storeAt (host : Int → UInt8) (p : Int) (l : List UInt8) : Int → UInt8 := fun x =>
  if p ≤ x then (l[(x - p).toNat]?).getD (host x) else host x

/-- What a `sint16` keeps. -/
def toSint16 (x : Int) : Int := x.bmod 65536

/-! ## Commands -/

inductive Cmd where
  | dmaWrite
  | dmaRead
  | internalWrite
  | internalRead
  | terminate
  | «repeat»
  | dmaExtWrite
  | dmaExtRead
  | singleWrite
  | singleRead
  | reset
deriving DecidableEq, Repr

def Cmd.code : Cmd → UInt8
  | .dmaWrite => 0xc1
  | .dmaRead => 0xc2
  | .internalWrite => 0xc3
  | .internalRead => 0xc4
  | .terminate => 0xc5
  | .repeat => 0xc6
  | .dmaExtWrite => 0xc7
  | .dmaExtRead => 0xc8
  | .singleWrite => 0xc9
  | .singleRead => 0xca
  | .reset => 0xcf

/-- The high byte of the address of a register, marked where the register has no clock. -/
def clocklessByte (adr : UInt32) (clockless : Bool) : UInt8 :=
  if clockless then (adr >>> 8).toUInt8 ||| 0x80 else (adr >>> 8).toUInt8

/-- `bc[0]` to `bc[len - 2]` of `spi_cmd`. -/
def spiCmdBytes (cmd : Cmd) (adr u32data sz : UInt32) (clockless : Bool) : List UInt8 :=
  match cmd with
  | .singleRead => [cmd.code, (adr >>> 16).toUInt8, (adr >>> 8).toUInt8, adr.toUInt8]
  | .internalRead => [cmd.code, clocklessByte adr clockless, adr.toUInt8, 0x00]
  | .terminate | .repeat => [cmd.code, 0x00, 0x00, 0x00]
  | .reset => [cmd.code, 0xff, 0xff, 0xff]
  | .dmaWrite | .dmaRead =>
      [cmd.code, (adr >>> 16).toUInt8, (adr >>> 8).toUInt8, adr.toUInt8,
        (sz >>> 8).toUInt8, sz.toUInt8]
  | .dmaExtWrite | .dmaExtRead =>
      [cmd.code, (adr >>> 16).toUInt8, (adr >>> 8).toUInt8, adr.toUInt8,
        (sz >>> 16).toUInt8, (sz >>> 8).toUInt8, sz.toUInt8]
  | .internalWrite =>
      [cmd.code, clocklessByte adr clockless, adr.toUInt8, (u32data >>> 24).toUInt8,
        (u32data >>> 16).toUInt8, (u32data >>> 8).toUInt8, u32data.toUInt8]
  | .singleWrite =>
      [cmd.code, (adr >>> 16).toUInt8, (adr >>> 8).toUInt8, adr.toUInt8, (u32data >>> 24).toUInt8,
        (u32data >>> 16).toUInt8, (u32data >>> 8).toUInt8, u32data.toUInt8]

/-- The bytes that go out, with the CRC while `gu8Crc_off` is clear. -/
def frame (crcOff : Bool) (bc : List UInt8) : List UInt8 :=
  if crcOff then bc else bc ++ [crc7 0x7f bc <<< 1]

def spiCmd (crcOff : Bool) (cmd : Cmd) (adr u32data sz : UInt32) (clockless : Bool) :
    Wire Int := do
  let rc ← nmiSpiWrite (frame crcOff (spiCmdBytes cmd adr u32data sz clockless))
  return if rc = m2mSuccess then nOk else nFail

/-- Polls for a byte, at most `retry + 1` times.  Only the bus can fail it. -/
def waitRsp (want : UInt8) : (retry : Nat) → Wire Int
  | 0 => do
      let (_, rc) ← nmiSpiRead 1
      return if rc = m2mSuccess then nOk else nFail
  | retry + 1 => do
      let (rsp, rc) ← nmiSpiRead 1
      if rc ≠ m2mSuccess then
        return nFail
      else if rsp.headD 0 = want then
        return nOk
      else
        waitRsp want retry

/-- The byte that is skipped behind some of the commands. -/
def skipRsp (cmd : Cmd) : Wire Int := do
  if cmd = .reset ∨ cmd = .terminate ∨ cmd = .repeat then
    let (_, rc) ← nmiSpiRead 1
    return if rc = m2mSuccess then nOk else nFail
  else
    return nOk

def spiCmdRsp (cmd : Cmd) : Wire Int := do
  if (← skipRsp cmd) ≠ nOk then
    return nFail
  else if (← waitRsp cmd.code 10) ≠ nOk then
    return nFail
  else
    waitRsp 0x00 10

/-- Sent where a command has gone wrong. -/
def spiReset (crcOff : Bool) : Wire Unit := do
  let _ ← spiCmd crcOff .reset 0 0 0 false

/-! ## Data -/

/-- Polls for the header of a packet, and what is left of `retry` then. -/
def dataRsp : (retry : Nat) → Wire (Option Int)
  | 0 => do
      let (rsp, rc) ← nmiSpiRead 1
      if rc ≠ m2mSuccess then
        return none
      else
        return some (if rsp.headD 0 >>> 4 = 0xf then 0 else -1)
  | retry + 1 => do
      let (rsp, rc) ← nmiSpiRead 1
      if rc ≠ m2mSuccess then
        return none
      else if rsp.headD 0 >>> 4 = 0xf then
        return some (retry + 1)
      else
        dataRsp retry

/-- The two bytes behind a packet that the driver does not look at. -/
def readCrc (crcOff clockless : Bool) : Wire Int := do
  if clockless ∨ crcOff then
    return m2mSuccess
  else
    let (_, rc) ← nmiSpiRead 2
    return rc

/-- `spi_data_read` from `ix` on. -/
def spiDataRead (crcOff clockless : Bool) (host : Int → UInt8) (b ix : Int) (sz : Nat) :
    Wire (Int × (Int → UInt8)) := do
  match ← dataRsp 10 with
  | none => return (nFail, host)
  | some retry =>
      if retry ≤ 0 then
        return (nFail, host)
      else
        let (miso, rc) ← nmiSpiRead (min sz dataPktSz)
        let host := storeAt host (b + ix) miso
        if rc ≠ m2mSuccess then
          return (nFail, host)
        else if (← readCrc crcOff clockless) ≠ m2mSuccess then
          return (nFail, host)
        else if dataPktSz < sz then
          spiDataRead crcOff clockless host b (toSint16 (ix + dataPktSz)) (sz - dataPktSz)
        else
          return (nOk, host)
termination_by sz
decreasing_by simp only [dataPktSz] at *; omega

/-- The header of a packet: whether it is the first, the last, or one between. -/
def order (ix : Int) (sz : Nat) : UInt8 :=
  if sz ≤ dataPktSz then 0x3 else if ix = 0 then 0x1 else 0x2

def writeCrc (crcOff : Bool) : Wire Int :=
  if crcOff then return m2mSuccess else nmiSpiWrite [0, 0]

/-- `spi_data_write` from `ix` on. -/
def spiDataWrite (crcOff : Bool) (host : Int → UInt8) (b ix : Int) (sz : Nat) : Wire Int := do
  if (← nmiSpiWrite [0xf0 ||| order ix sz]) ≠ m2mSuccess then
    return nFail
  else if (← nmiSpiWrite (bytesFrom host (b + ix) (min sz dataPktSz))) ≠ m2mSuccess then
    return nFail
  else if (← writeCrc crcOff) ≠ m2mSuccess then
    return nFail
  else if dataPktSz < sz then
    spiDataWrite crcOff host b (toSint16 (ix + dataPktSz)) (sz - dataPktSz)
  else
    return nOk
termination_by sz
decreasing_by simp only [dataPktSz] at *; omega

/-! ## Registers and blocks -/

def spiWriteReg (crcOff : Bool) (addr u32data : UInt32) : Wire Int := do
  let clockless : Bool := addr ≤ 0x30
  let cmd := if clockless then Cmd.internalWrite else Cmd.singleWrite
  if (← spiCmd crcOff cmd addr u32data 4 clockless) ≠ nOk then
    return nFail
  else if (← spiCmdRsp cmd) ≠ nOk then
    spiReset crcOff
    return nFail
  else
    return nOk

/-- It returns `N_OK` also where the data did not go out. -/
def nmSpiWrite (crcOff : Bool) (host : Int → UInt8) (addr : UInt32) (buf : Int) (size : UInt16) :
    Wire Int := do
  if (← spiCmd crcOff .dmaExtWrite addr 0 size.toUInt32 false) ≠ nOk then
    return nFail
  else if (← spiCmdRsp .dmaExtWrite) ≠ nOk then
    spiReset crcOff
    return nFail
  else if (← spiDataWrite crcOff host buf 0 size.toNat) ≠ nOk then
    spiReset crcOff
    return nOk
  else
    return nOk

/-- `spi_read_reg`, with what is in `*u32data` before. -/
def spiReadReg (crcOff : Bool) (addr u32data : UInt32) : Wire (Int × UInt32) := do
  let clockless : Bool := addr ≤ 0xff
  let cmd := if clockless then Cmd.internalRead else Cmd.singleRead
  if (← spiCmd crcOff cmd addr 0 4 clockless) ≠ nOk then
    return (nFail, u32data)
  else if (← spiCmdRsp cmd) ≠ nOk then
    spiReset crcOff
    return (nFail, u32data)
  else
    let (rc, tmp) ← spiDataRead crcOff clockless (fun _ => 0) 0 0 4
    if rc ≠ nOk then
      spiReset crcOff
      return (nFail, u32data)
    else
      return (nOk, (tmp 0).toUInt32 ||| (tmp 1).toUInt32 <<< 8 ||| (tmp 2).toUInt32 <<< 16 |||
        (tmp 3).toUInt32 <<< 24)

def nmSpiRead (crcOff : Bool) (host : Int → UInt8) (addr : UInt32) (buf : Int) (size : UInt16) :
    Wire (Int × (Int → UInt8)) := do
  if (← spiCmd crcOff .dmaExtRead addr 0 size.toUInt32 false) ≠ nOk then
    return (nFail, host)
  else if (← spiCmdRsp .dmaExtRead) ≠ nOk then
    spiReset crcOff
    return (nFail, host)
  else
    let (rc, host) ← spiDataRead crcOff false host buf 0 size.toNat
    if rc ≠ nOk then
      spiReset crcOff
      return (nFail, host)
    else
      return (nOk, host)

/-! ## The interface of the bus -/

/-- `M2M_SUCCESS` or `M2M_ERR_BUS_FAIL`. -/
def ret (rc : Int) : Int := if rc = nOk then m2mSuccess else m2mErrBusFail

/-- With what the stack holds where the value is expected, which is returned when the bus fails. -/
def nmSpiReadReg (crcOff : Bool) (u32Addr stale : UInt32) : Wire UInt32 := do
  let (_, u32Val) ← spiReadReg crcOff u32Addr stale
  return u32Val

def nmSpiReadRegWithRet (crcOff : Bool) (u32Addr pu32RetVal : UInt32) : Wire (Int × UInt32) := do
  let (rc, u32Val) ← spiReadReg crcOff u32Addr pu32RetVal
  return (ret rc, u32Val)

def nmSpiWriteReg (crcOff : Bool) (u32Addr u32Val : UInt32) : Wire Int := do
  return ret (← spiWriteReg crcOff u32Addr u32Val)

def nmSpiReadBlock (crcOff : Bool) (host : Int → UInt8) (u32Addr : UInt32) (puBuf : Int)
    (u16Sz : UInt16) : Wire (Int × (Int → UInt8)) := do
  let (rc, host) ← nmSpiRead crcOff host u32Addr puBuf u16Sz
  return (ret rc, host)

def nmSpiWriteBlock (crcOff : Bool) (host : Int → UInt8) (u32Addr : UInt32) (puBuf : Int)
    (u16Sz : UInt16) : Wire Int := do
  return ret (← nmSpiWrite crcOff host u32Addr puBuf u16Sz)

/-! ## Initialisation -/

/-- `NMI_SPI_PROTOCOL_CONFIG`. -/
def nmiSpiProtocolConfig : UInt32 := 0xe824

/-- `NMI_CHIPID`. -/
def nmiChipid : UInt32 := 0x1000

/-- The packet size in `NMI_SPI_PROTOCOL_CONFIG`, for packets of 8 KB. -/
def withPktSz (val32 : UInt32) : UInt32 := (val32 &&& ~~~ (0x70 : UInt32)) ||| 0x50

def spiInitPktSz (crcOff : Bool) (stale : UInt32) : Wire Unit := do
  let val32 ← nmSpiReadReg crcOff nmiSpiProtocolConfig stale
  let _ ← nmSpiWriteReg crcOff nmiSpiProtocolConfig (withPktSz val32)

/-- The configuration with the checks of the CRC taken out. -/
def withoutCrc (reg : UInt32) : UInt32 := (reg &&& ~~~ (0xc : UInt32) &&& ~~~ (0x70 : UInt32)) ||| 0x50

/-- Behind the trials: the chip's identity is read, and the size of a packet set. -/
def nmSpiIdentify (stale : UInt32) : Wire (Int × Bool) := do
  let (rc, _) ← spiReadReg true nmiChipid stale
  if rc = nFail then
    return (m2mErrBusFail, true)
  else
    spiInitPktSz true stale
    return (m2mSuccess, true)

/-- The result and `gu8Crc_off` then.  Where the protocol register cannot be read or written the
result is `0`, which is `M2M_SUCCESS`. -/
def nmSpiInit (stale : UInt32) : Wire (Int × Bool) := do
  let (rc, reg) ← spiReadReg false nmiSpiProtocolConfig 0
  if rc = nFail then
    -- once more without the CRC
    let (rc, _) ← spiReadReg true nmiSpiProtocolConfig 0
    if rc = nFail then
      return (0, true)
    else
      nmSpiIdentify stale
  else if (← spiWriteReg false nmiSpiProtocolConfig (withoutCrc reg)) = nFail then
    return (0, false)
  else
    nmSpiIdentify stale

end NmSpi

end Winc1500
