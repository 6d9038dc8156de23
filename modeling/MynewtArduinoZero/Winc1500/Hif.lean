import Mathlib.Data.Option.Basic

/-!
# Host interface transactions

`hif_send` passes a request to the chip in a handshake of several bus accesses:
it wakes the chip, announces the length in `NMI_STATE_REG`, asks for memory in
`WIFI_HOST_RCV_CTRL_2`, polls until the chip has answered, writes the request to
the address it got, rings `WIFI_HOST_RCV_CTRL_3` and lets the chip sleep.

A transaction runs against the answers of the bus, given in order, and records
its accesses.  An access past the last answer fails.  What a block of memory
holds is left out.
-/

namespace Winc1500

namespace Hif

def m2mSuccess : Int := 0
def m2mErrMemAlloc : Int := -3
def m2mErrBusFail : Int := -6

def nmiStateReg : UInt32 := 0x108c
def wifiHostRcvCtrl2 : UInt32 := 0x1078
def wifiHostRcvCtrl3 : UInt32 := 0x106c
def wakeReg : UInt32 := 0x1074
def wakeValue : UInt32 := 0x5678
def sleepValue : UInt32 := 0x4321

/-- `M2M_HIF_HDR_OFFSET`: the header and four bytes. -/
def m2mHifHdrOffset : UInt16 := 8

/-- An access to the bus. -/
inductive Access where
  | readReg (addr : UInt32)
  | writeReg (addr val : UInt32)
  | readBlock (addr : UInt32) (size : UInt16)
  | writeBlock (addr : UInt32) (size : UInt16)
deriving DecidableEq, Repr

/-- What an access returns. -/
structure Answer where
  ok : Bool
  value : UInt32
deriving DecidableEq, Repr

/-- `tenuPowerSaveModes`. -/
inductive PowerSaveMode where
  | noPs
  | automatic
  | hAutomatic
  | deepAutomatic
  | manual
deriving DecidableEq, Repr

/-- The modes in which the chip is woken and put to sleep. -/
def PowerSaveMode.sleeps : PowerSaveMode → Bool
  | .deepAutomatic | .manual => true
  | _ => false

/-- The globals of the host interface and its bus. -/
structure Chip where
  gu8ChipMode : PowerSaveMode
  gu8ChipSleep : UInt8
  clkStatusRegAdr : UInt32
  /-- What the accesses to come return. -/
  answers : List Answer
  /-- The accesses made. -/
  trace : List Access
deriving DecidableEq, Repr

/-! ## The bus -/

def access (a : Access) : StateM Chip Answer := fun chip =>
  match chip.answers with
  | [] => (⟨false, 0⟩, { chip with trace := chip.trace ++ [a] })
  | x :: xs => (x, { chip with answers := xs, trace := chip.trace ++ [a] })

/-- `M2M_SUCCESS` or `M2M_ERR_BUS_FAIL`. -/
def Answer.ret (x : Answer) : Int := if x.ok then m2mSuccess else m2mErrBusFail

def nmReadRegWithRet (addr : UInt32) : StateM Chip Answer := access (.readReg addr)

def nmWriteReg (addr val : UInt32) : StateM Chip Int := do
  return (← access (.writeReg addr val)).ret

def nmWriteBlock (addr : UInt32) (size : UInt16) : StateM Chip Int := do
  return (← access (.writeBlock addr size)).ret

/-! ## Waking the chip -/

/-- The clock status, from the first of its three registers that answers with a value. -/
def clkStatus : StateM Chip Answer := do
  let status ← nmReadRegWithRet (← get).clkStatusRegAdr
  if status.ok ∧ status.value ≠ 0 then return status
  modify fun chip => { chip with clkStatusRegAdr := 0xe }
  let status ← nmReadRegWithRet 0xe
  if status.ok ∧ status.value ≠ 0 then return status
  modify fun chip => { chip with clkStatusRegAdr := 0x13 }
  nmReadRegWithRet 0x13

/-- The clocks run. -/
def clksEnabled (status : UInt32) : Bool := status &&& 0x4 != 0

/-- The inner loop of `nm_clkless_wake`: every third trial reads the status once more. -/
def waitClks (trials : Nat) (status : UInt32) : StateM Chip (Nat × UInt32) := do
  if clksEnabled status then return (trials, status)
  if (trials + 1) % 3 = 0 then
    let again := (← nmReadRegWithRet (← get).clkStatusRegAdr).value
    return (if clksEnabled again then trials + 1 else trials + 2, again)
  return (trials + 1, status)

/-- The outer loop of `nm_clkless_wake`.  It goes on while the bus answers and the clocks do not
run, and takes at least two answers each time. -/
def wakeLoop (reg : UInt32) : (fuel trials : Nat) → StateM Chip Int
  | 0, _ => return m2mErrBusFail
  | fuel + 1, trials => do
      let _ ← nmWriteReg 0x1 (reg ||| 0x2)
      let status ← clkStatus
      if ¬ status.ok then return m2mErrBusFail
      let (trials, status) ← waitClks trials status.value
      if clksEnabled status then return m2mSuccess
      let _ ← nmWriteReg 0x1 (reg ||| 0x2)
      wakeLoop reg fuel trials

def nmClklessWake : StateM Chip Int := do
  let reg ← nmReadRegWithRet 0x1
  if ¬ reg.ok then return reg.ret
  wakeLoop reg.value ((← get).answers.length + 1) 0

def hifChipWake : StateM Chip Int := do
  if (← get).gu8ChipSleep = 0 ∧ (← get).gu8ChipMode.sleeps then
    let ret ← nmClklessWake
    if ret ≠ m2mSuccess then return ret
    let ret ← nmWriteReg wakeReg wakeValue
    if ret ≠ m2mSuccess then return ret
  modify fun chip => { chip with gu8ChipSleep := chip.gu8ChipSleep + 1 }
  return m2mSuccess

def hifChipSleep : StateM Chip Int := do
  if 1 ≤ (← get).gu8ChipSleep then
    modify fun chip => { chip with gu8ChipSleep := chip.gu8ChipSleep - 1 }
  if (← get).gu8ChipSleep = 0 ∧ (← get).gu8ChipMode.sleeps then
    let ret ← nmWriteReg wakeReg sleepValue
    if ret ≠ m2mSuccess then return ret
    let reg ← nmReadRegWithRet 0x1
    if ¬ reg.ok then return reg.ret
    if reg.value &&& 0x2 ≠ 0 then
      return ← nmWriteReg 0x1 (reg.value &&& ~~~ 0x2)
  return m2mSuccess

/-! ## `hif_send` -/

/-- The arguments of `hif_send`, with the sizes of its buffers. -/
structure Request where
  u8Gid : UInt8
  u8Opcode : UInt8
  /-- `pu8CtrlBuf`.  It is given with a size, and `NULL` with none. -/
  ctrlBuf : Option UInt16
  /-- `pu8DataBuf` with its size, and `u16DataOffset`. -/
  dataBuf : Option (UInt16 × UInt16)
deriving DecidableEq, Repr

def Request.ctrlBufSize (r : Request) : UInt16 := r.ctrlBuf.getD 0

def Request.u16Length (r : Request) : UInt16 :=
  match r.dataBuf with
  | some (size, offset) => m2mHifHdrOffset + (offset + size)
  | none => m2mHifHdrOffset + r.ctrlBufSize

/-- The polls of `WIFI_HOST_RCV_CTRL_2`, and the address the chip gives, or `0`. -/
def pollDmaAddr : Nat → StateM Chip UInt32
  | 0 => return 0
  | cnt + 1 => do
      let reg ← nmReadRegWithRet wifiHostRcvCtrl2
      if ¬ reg.ok then return 0
      if reg.value &&& 0x2 ≠ 0 then
        pollDmaAddr cnt
      else
        let dmaAddr ← nmReadRegWithRet 0x150400
        return if dmaAddr.ok then dmaAddr.value else 0

/-- The header, the control buffer and the data, in the memory the chip gave. -/
def writeRequest (r : Request) (dmaAddr : UInt32) : StateM Chip Int := do
  let ret ← nmWriteBlock dmaAddr m2mHifHdrOffset
  if ret ≠ m2mSuccess then return ret
  let mut currAddr := dmaAddr + m2mHifHdrOffset.toUInt32
  if let some size := r.ctrlBuf then
    let ret ← nmWriteBlock currAddr size
    if ret ≠ m2mSuccess then return ret
    currAddr := currAddr + size.toUInt32
  if let some (size, offset) := r.dataBuf then
    currAddr := currAddr + (offset.toUInt32 - r.ctrlBufSize.toUInt32)
    let ret ← nmWriteBlock currAddr size
    if ret ≠ m2mSuccess then return ret
  return m2mSuccess

def hifSend (r : Request) : StateM Chip Int := do
  let ret ← hifChipWake
  if ret ≠ m2mSuccess then return ret
  let state := r.u8Gid.toUInt32 ||| r.u8Opcode.toUInt32 <<< 8 ||| r.u16Length.toUInt32 <<< 16
  let ret ← nmWriteReg nmiStateReg state
  if ret ≠ m2mSuccess then return ret
  let ret ← nmWriteReg wifiHostRcvCtrl2 0x2
  if ret ≠ m2mSuccess then return ret
  let dmaAddr ← pollDmaAddr 1000
  if dmaAddr = 0 then return m2mErrMemAlloc
  let ret ← writeRequest r dmaAddr
  if ret ≠ m2mSuccess then return ret
  let ret ← nmWriteReg wifiHostRcvCtrl3 (dmaAddr <<< 2 ||| 0x2)
  if ret ≠ m2mSuccess then return ret
  hifChipSleep

end Hif

end Winc1500
