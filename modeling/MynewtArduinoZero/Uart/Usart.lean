import MynewtArduinoZero.Lib.Cells
import Mathlib.Data.UInt

/-!
# The USART driver

`usart.c` and `usart_interrupt.c`, the side that transmits.  A character that is
written to DATA moves on to the shift register when that is empty, and from
there onto the wire.  DRE is set while DATA is empty.  TXC is set when the shift
register has run empty with nothing in DATA, and a write of DATA clears it.

DATA is to be written while DRE is set.  Which of the two characters is lost
where it is not, is left open: `taken` says that the new one replaces the old.
-/

namespace HalUart

open Cells

/-! ## The data -/

/-- Who wrote a character to DATA.  For the statements only. -/
inductive Origin where
  /-- The interrupt handler, for a write job. -/
  | job
  /-- `usart_write_wait`, for the blocking call with this number. -/
  | blocking (k : Nat)
deriving DecidableEq

/-- A character in the transmitter. -/
structure Frame where
  char : UInt16
  origin : Origin
deriving DecidableEq

/-- The transmitter of a SERCOM. -/
structure Transmitter where
  /-- DATA. -/
  data : Option Frame
  /-- The shift register. -/
  shift : Option Frame
  /-- INTFLAG.TXC. -/
  txc : Bool
  /-- INTEN.DRE. -/
  intenDre : Bool
  /-- INTEN.TXC. -/
  intenTxc : Bool
  /-- What has gone out on the wire, oldest first. -/
  sent : List Frame
deriving DecidableEq

/-- The members of `enum status_code` in use here. -/
inductive Status where
  | ok | busy | errInvalidArg | errDenied
deriving DecidableEq

/-- `enum usart_character_size`. -/
inductive CharacterSize where
  | bits5 | bits6 | bits7 | bits8 | bits9
deriving DecidableEq

/-- `SERCOM_USART_DATA_MASK`. -/
def dataMask : UInt16 := 0x1ff

/-- `struct usart_module`, without its receiver.  Of the callbacks there is
`USART_CALLBACK_BUFFER_TRANSMITTED`. -/
structure UsartModule where
  hw : Transmitter
  characterSize : CharacterSize
  transmitterEnabled : Bool
  /-- `tx_buffer_ptr`, as an offset into the memory of the buffer. -/
  txBufferPtr : Nat
  remainingTxBufferLength : Nat
  txStatus : Status
  /-- The bit of the callback in `callback_reg_mask`. -/
  callbackReg : Bool
  /-- The bit of the callback in `callback_enable_mask`. -/
  callbackEnable : Bool
  /-- The buffers of the jobs that were accepted, oldest first.  For the statements only. -/
  jobs : List (List UInt8)

/-! ## The hardware -/

namespace Transmitter

/-- INTFLAG.DRE. -/
def dre (hw : Transmitter) : Bool := hw.data.isNone

/-- DATA is written. -/
def writeData (hw : Transmitter) (f : Frame) (taken : Bool) : Transmitter :=
  { hw with
    data := some (if taken then f else hw.data.getD f)
    txc := false }

/-- DATA moves on to the empty shift register. -/
def load (hw : Transmitter) : Option Transmitter :=
  match hw.data, hw.shift with
  | some f, none => some { hw with data := none, shift := some f }
  | _, _ => none

/-- The last bit of the shift register is out. -/
def shiftOut (hw : Transmitter) : Option Transmitter :=
  hw.shift.map fun f =>
    { hw with shift := none, txc := hw.txc || hw.data.isNone, sent := hw.sent ++ [f] }

/-- What has been written to DATA and was not lost, oldest first. -/
def line (hw : Transmitter) : List Frame := hw.sent ++ hw.shift.toList ++ hw.data.toList

@[simp] theorem isSome_writeData (hw : Transmitter) (f : Frame) (taken : Bool) :
    (hw.writeData f taken).data.isSome = true := rfl

@[simp] theorem txc_writeData (hw : Transmitter) (f : Frame) (taken : Bool) :
    (hw.writeData f taken).txc = false := rfl

@[simp] theorem intenDre_writeData (hw : Transmitter) (f : Frame) (taken : Bool) :
    (hw.writeData f taken).intenDre = hw.intenDre := rfl

@[simp] theorem intenTxc_writeData (hw : Transmitter) (f : Frame) (taken : Bool) :
    (hw.writeData f taken).intenTxc = hw.intenTxc := rfl

end Transmitter

/-! ## The functions of the driver -/

namespace UsartModule

/-- `usart_enable_callback`. -/
def usartEnableCallback (m : UsartModule) : UsartModule := { m with callbackEnable := true }

/-- `usart_disable_callback`. -/
def usartDisableCallback (m : UsartModule) : UsartModule := { m with callbackEnable := false }

/-- `_usart_write_buffer`, with the memory that `tx_data` points into. -/
def usartWriteBuffer (m : UsartModule) (mem : Nat → UInt8) (txData length : Nat) :
    Status × UsartModule :=
  if 0 < m.remainingTxBufferLength then (.busy, m)
  else
    (.ok,
      { m with
        remainingTxBufferLength := length
        txBufferPtr := txData
        txStatus := .busy
        hw := { m.hw with intenDre := true }
        jobs := m.jobs ++ [bytesAt mem txData length] })

/-- `usart_write_buffer_job`. -/
def usartWriteBufferJob (m : UsartModule) (mem : Nat → UInt8) (txData length : Nat) :
    Status × UsartModule :=
  if length = 0 then (.errInvalidArg, m)
  else if m.transmitterEnabled then m.usartWriteBuffer mem txData length
  else (.errDenied, m)

/-- `usart_write_wait` up to its write of DATA. -/
def usartWriteWaitStatus (m : UsartModule) : Status :=
  if m.transmitterEnabled then
    if 0 < m.remainingTxBufferLength then .busy else .ok
  else .errDenied

/-- The bytes of a character in the buffer. -/
def width (m : UsartModule) : Nat := if m.characterSize = .bits9 then 2 else 1

/-- The character at `tx_buffer_ptr`. -/
def dataToSend (m : UsartModule) (mem : Nat → UInt8) : UInt16 :=
  let low := (mem m.txBufferPtr).toUInt16
  dataMask &&&
    if m.characterSize = .bits9 then low ||| ((mem (m.txBufferPtr + 1)).toUInt16 <<< 8) else low

/-- The part of `_usart_interrupt_handler` for DRE. -/
def dataRegisterEmpty (m : UsartModule) (mem : Nat → UInt8) : UsartModule :=
  if 0 < m.remainingTxBufferLength then
    let hw := m.hw.writeData ⟨m.dataToSend mem, .job⟩ true
    { m with
      txBufferPtr := m.txBufferPtr + m.width
      remainingTxBufferLength := m.remainingTxBufferLength - 1
      hw :=
        if m.remainingTxBufferLength = 1 then { hw with intenDre := false, intenTxc := true }
        else hw }
  else { m with hw := { m.hw with intenDre := false } }

end UsartModule

end HalUart
