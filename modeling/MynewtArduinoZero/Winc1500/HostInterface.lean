import MynewtArduinoZero.Lib.Dialogue
import MynewtArduinoZero.Lib.LittleEndian
import MynewtArduinoZero.Winc1500.Hif

/-!
# The host interface

`m2m_hif.c` over its bus: requests to the chip with `hif_send`, messages from the
chip with `hif_isr`, which hands them to the callback of their group, and the
counter `gu8ChipSleep` of those who need the chip awake.  The build has
`NM_LEVEL_INTERRUPT`: the interrupt is masked when it comes, and enabled again
when the memory of the message is given back.

The peer answers the calls of the bus.  While it does, the chip may interrupt, and
`isr` runs.  What callbacks and the application do with the host interface is a
dialogue of its own, so that any program may stand for it.
-/

namespace Winc1500

namespace HostIf

open Hif LittleEndian

def m2mErrRcv : Int := -2
def m2mErrFail : Int := -12

def wifiHostRcvCtrl0 : UInt32 := 0x1070
def wifiHostRcvCtrl1 : UInt32 := 0x1084

/-- The address of the memory for a request, in the chip. -/
def dmaAddrReg : UInt32 := 0x150400

/-! ## What is passed -/

/-- A buffer whose size fits in 16 bits. -/
structure Buffer where
  bytes : List UInt8
  fits : bytes.length < 2 ^ 16

def Buffer.size (b : Buffer) : UInt16 := UInt16.ofNat b.bytes.length

/-- The arguments of `hif_send`. -/
structure Message where
  u8Gid : UInt8
  u8Opcode : UInt8
  /-- `pu8CtrlBuf` with `u16CtrlBufSize`, or `NULL` and none. -/
  ctrlBuf : Option Buffer
  /-- `pu8DataBuf` with `u16DataSize`. -/
  dataBuf : Option Buffer
  u16DataOffset : UInt16
  /-- What lies behind the header on the stack: four bytes more are written than it has. -/
  behindHdr : Vector UInt8 4

def Message.ctrlBufSize (r : Message) : UInt16 :=
  match r.ctrlBuf with
  | some b => b.size
  | none => 0

/-- `strHif.u16Length`. -/
def Message.u16Length (r : Message) : UInt16 :=
  match r.dataBuf with
  | some b => m2mHifHdrOffset + (r.u16DataOffset + b.size)
  | none => m2mHifHdrOffset + r.ctrlBufSize

/-- What `NMI_STATE_REG` announces. -/
def Message.state (r : Message) : UInt32 :=
  r.u8Gid.toUInt32 ||| r.u8Opcode.toUInt32 <<< 8 ||| r.u16Length.toUInt32 <<< 16

/-- The header, as the eight bytes that are written. -/
def Message.header (r : Message) : List UInt8 :=
  [r.u8Gid, r.u8Opcode &&& 0x7f] ++ leBytes 2 r.u16Length.toNat ++ r.behindHdr.toList

/-- What a callback asks of the host interface. -/
inductive HostCall where
  | send (r : Message)
  /-- `hif_receive`, with `pu8Buf` or `NULL`. -/
  | receive (u32Addr : UInt32) (pu8Buf : Bool) (u16Sz : UInt16) (isDone : Bool)
  /-- `m2m_wifi_set_sleep_mode`, with its request. -/
  | setSleepMode (psTyp : PowerSaveMode) (r : Message)
  | flowCtrl (stop : Bool)

structure HostAnswer where
  ret : Int
  /-- What `hif_receive` has read. -/
  bytes : List UInt8

/-- A callback: the opcode, the size and the address of a message, and what it does then. -/
abbrev HifCallBack := UInt8 → UInt16 → UInt32 → Dialogue HostCall HostAnswer Unit

/-- The groups with a callback. -/
inductive Group where
  | wifi
  | ip
  | hif
  | ota
  | crypto
  | sigma
deriving DecidableEq, Repr

/-- `hif_isr`'s choice by `u8Gid`.  `M2M_REQ_GROUP_HIF` has a callback, but none is called. -/
def Group.ofGid (u8Gid : UInt8) : Option Group :=
  if u8Gid = 1 then some .wifi
  else if u8Gid = 2 then some .ip
  else if u8Gid = 4 then some .ota
  else if u8Gid = 6 then some .crypto
  else if u8Gid = 7 then some .sigma
  else none

/-! ## The peer -/

/-- What the host interface does that can be seen: calls of the bus and of the board, and, as
marks only, the calls made to it and the messages it hands on. -/
inductive Act where
  | clklessWake
  | readReg (addr : UInt32)
  | writeReg (addr val : UInt32)
  | readBlock (addr : UInt32) (sz : UInt16)
  | writeBlock (addr : UInt32) (bytes : List UInt8)
  | interruptCtrl (enable : Bool)
  /-- Nothing, while time passes. -/
  | idle
  | entered (q : HostCall) (nested : Bool) (gu8ChipMode : PowerSaveMode) (gu8ChipSleep : UInt8)
      (gu8HifSizeDone : Bool)
  | dispatched (grp : Group) (u8OpCode : UInt8) (u16DataSize : UInt16) (u32Addr : UInt32)

/-- What a call of the bus returns. -/
structure Answer where
  ok : Bool
  value : UInt32
  block : Nat → UInt8
  /-- The chip has interrupted meanwhile. -/
  irq : Bool

/-- `M2M_SUCCESS` or `M2M_ERR_BUS_FAIL`. -/
def Answer.ret (x : Answer) : Int := if x.ok then m2mSuccess else m2mErrBusFail

/-- The variables of the host interface. -/
structure Globals where
  gu8ChipMode : PowerSaveMode
  gu8ChipSleep : UInt8
  gu8HifSizeDone : Bool
  gu8Interrupt : UInt8
  gu8FlowCtrl : Bool
  /-- `pfWifiCb` and the others. -/
  callback : Group → Option HifCallBack

abbrev Routine (α : Type) := Dialogue.Routine Act Answer Globals α

def act (a : Act) : Routine Answer := Dialogue.Routine.call a

def isr : Routine Unit := do
  modify fun g => { g with gu8Interrupt := g.gu8Interrupt + 1 }
  let _ ← act (.interruptCtrl false)
  return ()

/-- A call of the bus or the board, and the interrupt that came during it. -/
def bus (a : Act) : Routine Answer := do
  let x ← act a
  if x.irq then
    isr
    return x
  else return x

def nmClklessWake : Routine Int := do
  return (← bus .clklessWake).ret

def nmReadRegWithRet (addr : UInt32) : Routine Answer := bus (.readReg addr)

def nmWriteReg (addr val : UInt32) : Routine Int := do
  return (← bus (.writeReg addr val)).ret

def nmReadBlock (addr : UInt32) (sz : UInt16) : Routine Answer := bus (.readBlock addr sz)

def nmWriteBlock (addr : UInt32) (bytes : List UInt8) : Routine Int := do
  return (← bus (.writeBlock addr bytes)).ret

def nmBspInterruptCtrl (enable : Bool) : Routine Unit := do
  let _ ← bus (.interruptCtrl enable)
  return ()

/-! ## Awake and asleep -/

def hifChipWake : Routine Int := do
  let g ← get
  if g.gu8ChipSleep = 0 ∧ g.gu8ChipMode.sleeps then
    let ret ← nmClklessWake
    if ret ≠ m2mSuccess then return ret
    else
      let ret ← nmWriteReg wakeReg wakeValue
      if ret ≠ m2mSuccess then return ret
      else
        modify fun g => { g with gu8ChipSleep := g.gu8ChipSleep + 1 }
        return m2mSuccess
  else
    modify fun g => { g with gu8ChipSleep := g.gu8ChipSleep + 1 }
    return m2mSuccess

/-- One less, down to `0`. -/
def oneLess (gu8ChipSleep : UInt8) : UInt8 := if 1 ≤ gu8ChipSleep then gu8ChipSleep - 1 else 0

def hifChipSleep : Routine Int := do
  modify fun g => { g with gu8ChipSleep := oneLess g.gu8ChipSleep }
  let g ← get
  if g.gu8ChipSleep = 0 ∧ g.gu8ChipMode.sleeps then
    let ret ← nmWriteReg wakeReg sleepValue
    if ret ≠ m2mSuccess then return ret
    else
      let reg ← nmReadRegWithRet 0x1
      if reg.ret ≠ m2mSuccess then return reg.ret
      else if reg.value &&& 0x2 ≠ 0 then nmWriteReg 0x1 (reg.value &&& ~~~ 0x2)
      else return m2mSuccess
  else return m2mSuccess

/-! ## Requests -/

/-- The polls of `WIFI_HOST_RCV_CTRL_2`, and the address the chip gives, or `0`. -/
def pollDmaAddr : Nat → Routine UInt32
  | 0 => return 0
  | cnt + 1 => do
      let reg ← nmReadRegWithRet wifiHostRcvCtrl2
      if reg.ret ≠ m2mSuccess then return 0
      else if reg.value &&& 0x2 ≠ 0 then pollDmaAddr cnt
      else
        let dmaAddr ← nmReadRegWithRet dmaAddrReg
        return if dmaAddr.ret = m2mSuccess then dmaAddr.value else 0

/-- The control buffer, and the address behind it. -/
def writeCtrlBuf (addr : UInt32) : Option Buffer → Routine (Int × UInt32)
  | none => return (m2mSuccess, addr)
  | some b => do
      let ret ← nmWriteBlock addr b.bytes
      return (ret, addr + b.size.toUInt32)

def writeDataBuf (addr : UInt32) : Option Buffer → Routine Int
  | none => return m2mSuccess
  | some b => nmWriteBlock addr b.bytes

/-- The header, the control buffer and the data, in the memory the chip gave. -/
def writeMessage (r : Message) (dmaAddr : UInt32) : Routine Int := do
  let ret ← nmWriteBlock dmaAddr r.header
  if ret ≠ m2mSuccess then return ret
  else
    let (ret, currAddr) ← writeCtrlBuf (dmaAddr + m2mHifHdrOffset.toUInt32) r.ctrlBuf
    if ret ≠ m2mSuccess then return ret
    else writeDataBuf (currAddr + (r.u16DataOffset.toUInt32 - r.ctrlBufSize.toUInt32)) r.dataBuf

/-- `hif_send` while the chip is awake. -/
def sendAwake (r : Message) : Routine Int := do
  let ret ← nmWriteReg nmiStateReg r.state
  if ret ≠ m2mSuccess then return ret
  else
    let ret ← nmWriteReg wifiHostRcvCtrl2 0x2
    if ret ≠ m2mSuccess then return ret
    else
      let dmaAddr ← pollDmaAddr 1000
      if dmaAddr = 0 then return m2mErrMemAlloc
      else
        let ret ← writeMessage r dmaAddr
        if ret ≠ m2mSuccess then return ret
        else nmWriteReg wifiHostRcvCtrl3 (dmaAddr <<< 2 ||| 0x2)

def hifSend (r : Message) : Routine Int := do
  let ret ← hifChipWake
  if ret ≠ m2mSuccess then return ret
  else
    let ret ← sendAwake r
    if ret ≠ m2mSuccess then return ret else hifChipSleep

/-! ## Messages of the chip -/

def hifSetRxDone : Routine Int := do
  let reg ← nmReadRegWithRet wifiHostRcvCtrl0
  if reg.ret ≠ m2mSuccess then return reg.ret
  else
    let ret ← nmWriteReg wifiHostRcvCtrl0 (reg.value ||| 0x2)
    if ret ≠ m2mSuccess then return ret
    else
      nmBspInterruptCtrl true
      return m2mSuccess

/-- `hif_set_rx_done`, noted in `gu8HifSizeDone`. -/
def sizeDone : Routine Int := do
  modify fun g => { g with gu8HifSizeDone := true }
  hifSetRxDone

/-- The size of a message, in `WIFI_HOST_RCV_CTRL_0`. -/
def rxSize (reg : UInt32) : UInt16 := (reg >>> 2 &&& 0xfff).toUInt16

/-- The part asked for begins and ends inside the message, as far as the sums do not wrap. -/
def inMessage (address : UInt32) (size : UInt16) (u32Addr : UInt32) (u16Sz : UInt16) : Bool :=
  decide (u16Sz ≤ size) && decide (address ≤ u32Addr) &&
    decide (u32Addr + u16Sz.toUInt32 ≤ address + size.toUInt32)

/-- The part ends where the message does: the difference of the two is not above zero. -/
def isLast (address : UInt32) (size : UInt16) (u32Addr : UInt32) (u16Sz : UInt16) : Bool :=
  decide (address + size.toUInt32 - (u32Addr + u16Sz.toUInt32) = 0)

def hifReceive (u32Addr : UInt32) (pu8Buf : Bool) (u16Sz : UInt16) (isDone : Bool) :
    Routine HostAnswer := do
  if u32Addr = 0 ∨ ¬ pu8Buf ∨ u16Sz = 0 then
    if isDone then
      return ⟨← sizeDone, []⟩
    else return ⟨m2mErrFail, []⟩
  else
    let reg ← nmReadRegWithRet wifiHostRcvCtrl0
    if reg.ret ≠ m2mSuccess then return ⟨reg.ret, []⟩
    else
      let size := rxSize reg.value
      let address ← nmReadRegWithRet wifiHostRcvCtrl1
      if address.ret ≠ m2mSuccess then return ⟨address.ret, []⟩
      else if ¬ inMessage address.value size u32Addr u16Sz then return ⟨m2mErrFail, []⟩
      else
        let part ← nmReadBlock u32Addr u16Sz
        if part.ret ≠ m2mSuccess then return ⟨part.ret, []⟩
        else
          let bytes := Cells.bytesAt part.block 0 u16Sz.toNat
          if isLast address.value size u32Addr u16Sz ∨ isDone then
            return ⟨← sizeDone, bytes⟩
          else return ⟨m2mSuccess, bytes⟩

/-- The call, without its mark. -/
def callBody : HostCall → Routine HostAnswer
  | .send r => do return ⟨← hifSend r, []⟩
  | .receive u32Addr pu8Buf u16Sz isDone => hifReceive u32Addr pu8Buf u16Sz isDone
  | .setSleepMode psTyp r => do
      let ret ← hifSend r
      modify fun g => { g with gu8ChipMode := psTyp }
      return ⟨ret, []⟩
  | .flowCtrl stop => do
      modify fun g => { g with gu8FlowCtrl := stop }
      return ⟨m2mSuccess, []⟩

def hostCall (nested : Bool) (q : HostCall) : Routine HostAnswer := do
  let g ← get
  let _ ← act (.entered q nested g.gu8ChipMode g.gu8ChipSleep g.gu8HifSizeDone)
  callBody q

/-- `strHif` as it is read, with `u16Length`. -/
structure Header where
  u8Gid : UInt8
  u8Opcode : UInt8
  u16Length : UInt16

def Header.ofBlock (block : Nat → UInt8) : Header :=
  ⟨block 0, block 1, le16At block 2⟩

/-- A length may stay up to four bytes under the size, or be above it. -/
def Header.corrupted (hdr : Header) (size : UInt16) : Bool :=
  decide (hdr.u16Length ≠ size) && decide ((size.toNat : Int) - hdr.u16Length.toNat > 4)

/-- The callback of a group, if there is one. -/
def callBack (u8OpCode : UInt8) (u16DataSize : UInt16) (u32Addr : UInt32) :
    Option HifCallBack → Routine Unit
  | some cb => (cb u8OpCode u16DataSize u32Addr).interp (hostCall true)
  | none => return ()

/-- The memory of a message given back, where the callback has not done so. -/
def giveBack : Routine Unit := do
  let g ← get
  if g.gu8HifSizeDone then return ()
  else
    let _ ← hifSetRxDone
    return ()

/-- A message for its callback. -/
def handOn (hdr : Header) (grp : Group) (address : UInt32) : Routine Unit := do
  let u16DataSize := hdr.u16Length - m2mHifHdrOffset
  let u32Addr := address + m2mHifHdrOffset.toUInt32
  let _ ← act (.dispatched grp hdr.u8Opcode u16DataSize u32Addr)
  let g ← get
  callBack hdr.u8Opcode u16DataSize u32Addr (g.callback grp)
  giveBack

/-- The message in the chip's memory.  A failure of `hif_set_rx_done` goes unnoticed. -/
def takeMessage (size : UInt16) : Routine Int := do
  let address ← nmReadRegWithRet wifiHostRcvCtrl1
  if address.ret ≠ m2mSuccess then
    nmBspInterruptCtrl true
    return address.ret
  else
    let part ← nmReadBlock address.value 4
    let hdr := Header.ofBlock part.block
    if part.ret ≠ m2mSuccess then
      nmBspInterruptCtrl true
      return part.ret
    else if hdr.corrupted size then
      nmBspInterruptCtrl true
      return m2mErrBusFail
    else
      match Group.ofGid hdr.u8Gid with
      | none => return m2mErrBusFail
      | some grp =>
          handOn hdr grp address.value
          return m2mSuccess

/-- `hif_isr` while the chip is awake. -/
def isrAwake : Routine Int := do
  let reg ← nmReadRegWithRet wifiHostRcvCtrl0
  if reg.ret ≠ m2mSuccess then return reg.ret
  else if reg.value &&& 0x1 = 0 then return m2mSuccess
  else
    nmBspInterruptCtrl false
    let ret ← nmWriteReg wifiHostRcvCtrl0 (reg.value &&& ~~~ 0x1)
    if ret ≠ m2mSuccess then return ret
    else
      modify fun g => { g with gu8HifSizeDone := false }
      let size := rxSize (reg.value &&& ~~~ 0x1)
      if size = 0 then return m2mErrRcv else takeMessage size

def hifIsr : Routine Int := do
  let ret ← hifChipWake
  if ret ≠ m2mSuccess then return ret
  else
    let ret ← isrAwake
    if ret ≠ m2mSuccess then return ret else hifChipSleep

/-- `hif_isr`, and again until it succeeds, up to a number of times. -/
def hifIsrAgain : Nat → Routine Bool
  | 0 => do return decide ((← hifIsr) = m2mSuccess)
  | again + 1 => do
      let ret ← hifIsr
      if ret = m2mSuccess then return true else hifIsrAgain again

/-- `hif_handle_isr`, up to a number of turns and of further trials in each.  It says whether it
has come to its end, where it returns `M2M_SUCCESS`. -/
def hifHandleIsr (again : Nat) : Nat → Routine Bool
  | 0 => return false
  | turns + 1 => do
      let g ← get
      if g.gu8Interrupt = 0 ∨ g.gu8FlowCtrl then return true
      else
        modify fun g => { g with gu8Interrupt := g.gu8Interrupt - 1 }
        if ← hifIsrAgain again then hifHandleIsr again turns else return false

/-! ## The beginning -/

def hifRegisterCb (grp : Group) (fn : Option HifCallBack) : Routine Unit :=
  modify fun g => { g with callback := fun k => if k = grp then fn else g.callback k }

/-- `m2m_hif_cb`. -/
def m2mHifCb : HifCallBack := fun _ _ _ => .done ()

/-- `hif_init`.  It leaves `pfOtaCb`, `pfCryptoCb` and `pfSigmaCb` as they are. -/
def hifInit : Routine Unit := do
  modify fun g =>
    { g with
      callback := fun k => if k = .wifi ∨ k = .ip then none else g.callback k
      gu8ChipSleep := 0
      gu8ChipMode := .noPs
      gu8Interrupt := 0 }
  nmBspInterruptCtrl true
  hifRegisterCb .hif (some m2mHifCb)

/-! ## The application -/

/-- What the application asks of the host interface. -/
inductive AppCall where
  | host (q : HostCall)
  | handleIsr (again turns : Nat)
  | registerCb (grp : Group) (fn : Option HifCallBack)
  | idle

def appCall : AppCall → Routine HostAnswer
  | .host q => hostCall false q
  | .handleIsr again turns => do
      let _ ← hifHandleIsr again turns
      return ⟨m2mSuccess, []⟩
  | .registerCb grp fn => do
      hifRegisterCb grp fn
      return ⟨m2mSuccess, []⟩
  | .idle => do
      let _ ← bus .idle
      return ⟨m2mSuccess, []⟩

/-- The application, from `hif_init` on. -/
def run (d : Dialogue AppCall HostAnswer Unit) : Routine Unit := do
  hifInit
  d.interp appCall

/-! ## What requests are made of -/

/-- The acts of a request, while the chip is awake. -/
def Act.plain : Act → Bool
  | .readReg _ | .readBlock .. | .writeBlock .. => true
  | .writeReg addr _ => decide (addr ≠ wakeReg) && decide (addr ≠ wifiHostRcvCtrl0)
  | _ => false

/-- The acts that are not about messages of the chip. -/
def Act.aside : Act → Bool
  | .readReg _ | .readBlock .. | .writeBlock .. | .clklessWake | .idle => true
  | .writeReg addr _ => decide (addr ≠ wifiHostRcvCtrl0)
  | _ => false

theorem Act.aside_of_plain {a : Act} (h : a.plain) : a.aside := by
  cases a with
  | writeReg addr val => exact (Bool.and_eq_true_iff.mp h).2
  | clklessWake | interruptCtrl | idle | entered | dispatched => cases h
  | readReg | readBlock | writeBlock => rfl

/-- The acts of waking the chip and of letting it sleep. -/
def Act.power : Act → Bool
  | .clklessWake => true
  | .readReg addr => decide (addr = 0x1)
  | .writeReg addr _ => decide (addr = wakeReg) || decide (addr = 0x1)
  | _ => false

theorem Act.aside_of_power {a : Act} (h : a.power) : a.aside := by
  cases a with
  | writeReg addr val =>
      obtain h | h := Bool.or_eq_true_iff.mp h
      · rw [of_decide_eq_true h]
        rfl
      · rw [of_decide_eq_true h]
        rfl
  | clklessWake | readReg => rfl
  | readBlock | writeBlock | interruptCtrl | idle | entered | dispatched => cases h

section

open Dialogue.Routine

variable {σ : Type} {Step : σ → Act → Answer → σ → Prop} {inv : Globals → σ → Prop}

theorem nmWriteReg_keeps {addr val : UInt32} (h : Keeps Step inv (bus (.writeReg addr val))) :
    Keeps Step inv (nmWriteReg addr val) :=
  h.bind fun _ => .pure _

theorem nmWriteBlock_keeps {addr : UInt32} {bytes : List UInt8}
    (h : Keeps Step inv (bus (.writeBlock addr bytes))) :
    Keeps Step inv (nmWriteBlock addr bytes) :=
  h.bind fun _ => .pure _

theorem pollDmaAddr_keeps (h : ∀ addr, Keeps Step inv (nmReadRegWithRet addr)) :
    ∀ cnt : Nat, Keeps Step inv (pollDmaAddr cnt)
  | 0 => .pure 0
  | cnt + 1 =>
      (h _).bind fun _ => .ite (.pure 0) <| .ite (pollDmaAddr_keeps h cnt) <|
        (h _).bind fun _ => .pure _

theorem writeCtrlBuf_keeps (h : ∀ addr bytes, Keeps Step inv (nmWriteBlock addr bytes))
    (addr : UInt32) : ∀ b : Option Buffer, Keeps Step inv (writeCtrlBuf addr b)
  | none => .pure _
  | some _ => (h _ _).bind fun _ => .pure _

theorem writeDataBuf_keeps (h : ∀ addr bytes, Keeps Step inv (nmWriteBlock addr bytes))
    (addr : UInt32) : ∀ b : Option Buffer, Keeps Step inv (writeDataBuf addr b)
  | none => .pure _
  | some _ => h _ _

theorem writeMessage_keeps (h : ∀ addr bytes, Keeps Step inv (nmWriteBlock addr bytes))
    (r : Message) (dmaAddr : UInt32) : Keeps Step inv (writeMessage r dmaAddr) :=
  (h _ _).bind fun _ => .ite (.pure _) <|
    (writeCtrlBuf_keeps h _ _).bind fun _ => .ite (.pure _) (writeDataBuf_keeps h _ _)

/-- What plain acts keep, a request keeps. -/
theorem sendAwake_keeps (h : ∀ a : Act, a.plain → Keeps Step inv (bus a)) (r : Message) :
    Keeps Step inv (sendAwake r) := by
  have hwrite (addr val : UInt32) (ha : (Act.writeReg addr val).plain) :
      Keeps Step inv (nmWriteReg addr val) := nmWriteReg_keeps (h _ ha)
  have hblock (addr : UInt32) (bytes : List UInt8) : Keeps Step inv (nmWriteBlock addr bytes) :=
    nmWriteBlock_keeps (h _ rfl)
  refine (hwrite _ _ rfl).bind fun _ => .ite (.pure _) ?_
  refine (hwrite _ _ rfl).bind fun _ => .ite (.pure _) ?_
  refine (pollDmaAddr_keeps (fun addr => h (.readReg addr) rfl) _).bind fun dmaAddr =>
    .ite (.pure _) ?_
  exact (writeMessage_keeps hblock r dmaAddr).bind fun _ => .ite (.pure _) (hwrite _ _ rfl)

theorem hifChipWake_keeps (h : ∀ a : Act, a.power → Keeps Step inv (bus a))
    (hcounter : ∀ g s c, inv g s → inv { g with gu8ChipSleep := c } s) :
    Keeps Step inv hifChipWake := by
  have hused : Keeps Step inv (do
      modify fun g => { g with gu8ChipSleep := g.gu8ChipSleep + 1 }
      return m2mSuccess) := .bind (.modify fun g s => hcounter g s _) fun _ => .pure _
  refine .get_bind fun g => .ite ?_ hused
  refine ((h .clklessWake rfl).bind fun _ => .pure _).bind fun _ => .ite (.pure _) ?_
  exact (nmWriteReg_keeps (h _ rfl)).bind fun _ => .ite (.pure _) hused

theorem hifChipSleep_keeps (h : ∀ a : Act, a.power → Keeps Step inv (bus a))
    (hcounter : ∀ g s c, inv g s → inv { g with gu8ChipSleep := c } s) :
    Keeps Step inv hifChipSleep := by
  refine .bind (.modify fun g s => hcounter g s _) fun _ => .get_bind fun g => .ite ?_ (.pure _)
  refine (nmWriteReg_keeps (h _ rfl)).bind fun _ => .ite (.pure _) ?_
  exact (h (.readReg 0x1) rfl).bind fun _ => .ite (.pure _) <|
    .ite (nmWriteReg_keeps (h _ rfl)) (.pure _)

theorem hifSend_keeps (h : ∀ a : Act, a.aside → Keeps Step inv (bus a))
    (hcounter : ∀ g s c, inv g s → inv { g with gu8ChipSleep := c } s) (r : Message) :
    Keeps Step inv (hifSend r) := by
  have hpower (a : Act) (ha : a.power) : Keeps Step inv (bus a) := h a (Act.aside_of_power ha)
  refine (hifChipWake_keeps hpower hcounter).bind fun _ => .ite (.pure _) ?_
  refine (sendAwake_keeps (fun a ha => h a (Act.aside_of_plain ha)) r).bind fun _ => ?_
  exact .ite (.pure _) (hifChipSleep_keeps hpower hcounter)

end

end HostIf

end Winc1500
