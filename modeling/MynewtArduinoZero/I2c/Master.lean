import MynewtArduinoZero.Lib.Dialogue

/-!
# The I2C master

`hal_i2c.c` and the blocking functions of `i2c_master.c`.  A transfer is a dialogue with
the registers of the SERCOM: what they answer depends on the slave, on other masters and
on the time, and is left open.  `packet->data` is a pointer without a length, so the
stores to it are kept as they are made, with their index.

A wait for synchronisation is one access.  That it ends is up to the hardware.
-/

namespace I2c

open Dialogue Routine

/-- The members of `enum status_code` in use here. -/
inductive Status where
  | ok
  | errTimeout
  | errPacketCollision
  | errBadAddress
  | errOverflow
deriving DecidableEq, Repr

/-- An access to the registers. -/
inductive Access where
  /-- INTFLAG is read. -/
  | intflag
  | clearSb
  | clearMb
  /-- STATUS is read. -/
  | status
  /-- CTRLB.ACKACT is set or cleared. -/
  | ackact (nack : Bool)
  /-- CTRLB.CMD is written with 3. -/
  | stop
  /-- ADDR is written. -/
  | addr (value : UInt32)
  /-- `_i2c_master_wait_for_sync`. -/
  | waitForSync
  /-- DATA is read. -/
  | data
  /-- DATA is written. -/
  | putData (value : UInt8)
deriving DecidableEq, Repr

/-- `SERCOM_I2CM_INTFLAG_MB`. -/
def intflagMb : UInt32 := 0x01
/-- `SERCOM_I2CM_INTFLAG_SB`. -/
def intflagSb : UInt32 := 0x02
/-- `SERCOM_I2CM_STATUS_ARBLOST`. -/
def statusArblost : UInt32 := 0x02
/-- `SERCOM_I2CM_STATUS_RXNACK`. -/
def statusRxnack : UInt32 := 0x04
/-- `SERCOM_I2CM_STATUS_BUSSTATE(2)`. -/
def statusBusstate2 : UInt32 := 0x20
/-- `SERCOM_I2CM_ADDR_TENBITEN`. -/
def addrTenbiten : UInt32 := 0x8000

/-- `struct i2c_master_module`, with CTRLA.SCLSM. -/
structure Module where
  bufferTimeout : UInt16
  sendStop : Bool
  sendNack : Bool
  sclsm : Bool

/-- `struct i2c_master_packet`. -/
structure Packet where
  address : UInt16
  dataLength : UInt16
  /-- The memory from `data` on. -/
  data : Nat → UInt8
  tenBitAddress : Bool
  highSpeed : Bool
  hsMasterCode : UInt8

/-- A function of the driver, with the stores to `packet->data`. -/
abbrev Bus := Routine Access UInt32 (List (Nat × UInt8))

/-! ## The driver -/

/-- A turn of the loop of `_i2c_master_wait_for_bus` up to the check of its counter. -/
def waitTurn (late : Bus Status) : Bus Status := do
  if (← call .intflag) &&& intflagMb ≠ 0 then pure .ok
  else if (← call .intflag) &&& intflagSb ≠ 0 then pure .ok
  else late

/-- The loop of `_i2c_master_wait_for_bus`, where `buffer_timeout` is `left` ahead of the
counter. -/
def waitLoop : (left : Nat) → Bus Status
  | 0 => waitTurn (pure .errTimeout)
  | 1 => waitTurn (pure .errTimeout)
  | left + 2 => waitTurn (waitLoop (left + 1))

/-- `_i2c_master_wait_for_bus`. -/
def waitForBus (m : Module) : Bus Status := waitLoop m.bufferTimeout.toNat

/-- `_i2c_master_address_response`. -/
def addressResponse : Bus Status := do
  if (← call .intflag) &&& intflagSb ≠ 0 then
    let _ ← call .clearSb
    if (← call .status) &&& statusArblost ≠ 0 then pure .errPacketCollision else pure .ok
  else if (← call .status) &&& statusRxnack ≠ 0 then
    let _ ← call .stop
    pure .errBadAddress
  else pure .ok

/-- `_i2c_master_send_hs_master_code`. -/
def sendHsMasterCode (m : Module) (hsMasterCode : UInt8) : Bus Status := do
  let _ ← call (.ackact true)
  let _ ← call (.addr hsMasterCode.toUInt32)
  let tmpStatus ← waitForBus m
  let _ ← call .clearMb
  pure tmpStatus

/-- A switch to high speed, if there is one. -/
def switchToHighSpeed (m : Module) (p : Packet) : Bus Unit := do
  if p.highSpeed then
    let _ ← sendHsMasterCode m p.hsMasterCode

/-- `packet->high_speed << SERCOM_I2CM_ADDR_HS_Pos`. -/
def Packet.hsBit (p : Packet) : UInt32 := if p.highSpeed then 0x4000 else 0

/-- The wait for an answer to an address. -/
def addressAnswered (m : Module) : Bus Status := do
  let tmpStatus ← waitForBus m
  if tmpStatus = .ok then addressResponse else pure tmpStatus

/-- The same in `_i2c_master_read_packet`, which sets the action to ACK once more. -/
def readAddressAnswered (m : Module) : Bus Status := do
  let tmpStatus ← waitForBus m
  let _ ← call (.ackact false)
  if tmpStatus = .ok then addressResponse else pure tmpStatus

/-- The part of `_i2c_master_read_packet` for the address. -/
def readAddress (m : Module) (p : Packet) : Bus Status := do
  switchToHighSpeed m p
  let _ ← call (.ackact false)
  if p.tenBitAddress then
    let _ ← call (.addr (p.address.toUInt32 <<< 1 ||| p.hsBit ||| addrTenbiten))
    let tmpStatus ← readAddressAnswered m
    if tmpStatus = .ok then
      let _ ← call (.addr (((p.address.toUInt32 >>> 8) ||| 0x78) <<< 1 ||| p.hsBit ||| 1))
      readAddressAnswered m
    else pure tmpStatus
  else
    let _ ← call (.addr (p.address.toUInt32 <<< 1 ||| 1 ||| p.hsBit))
    readAddressAnswered m

/-- DATA is read into `packet->data[counter]`. -/
def save (counter : Nat) : Bus Unit := do
  let _ ← call .waitForSync
  let value ← call .data
  modify fun stores => stores ++ [(counter, value.toUInt8)]

/-- The condition under which a turn of the read loop sets the action to NACK and saves
nothing.  `tmpDataLength` has been counted down. -/
def Module.nackTurn (m : Module) (tmpDataLength : Nat) : Bool :=
  m.sendNack && ((!m.sclsm && tmpDataLength == 0) || (m.sclsm && tmpDataLength == 1))

/-- The loop of `_i2c_master_read_packet`: its status and `counter`, or `none` where bus
ownership is lost. -/
def readLoop (m : Module) : (tmpDataLength counter : Nat) → Bus (Option (Status × Nat))
  | 0, counter => pure (some (.ok, counter))
  | tmpDataLength + 1, counter => do
      if (← call .status) &&& statusBusstate2 = 0 then pure none
      else if m.nackTurn tmpDataLength then
        let _ ← call (.ackact true)
        readLoop m tmpDataLength counter
      else
        save counter
        let tmpStatus ← waitForBus m
        if tmpStatus ≠ .ok then pure (some (tmpStatus, counter + 1))
        else readLoop m tmpDataLength (counter + 1)

/-- A stop command, if there is to be one. -/
def stopIf (sendStop : Bool) : Bus Unit := do
  if sendStop then
    let _ ← call .waitForSync
    let _ ← call .stop

/-- `_i2c_master_read_packet`. -/
def readPacket (m : Module) (p : Packet) : Bus Status := do
  let tmpStatus ← readAddress m p
  if tmpStatus = .ok then
    match ← readLoop m p.dataLength.toNat 0 with
    | none => pure .errPacketCollision
    | some (tmpStatus, counter) =>
        stopIf m.sendStop
        save counter
        pure tmpStatus
  else pure tmpStatus

/-- The part of `_i2c_master_write_packet` for the address. -/
def writeAddress (m : Module) (p : Packet) : Bus Status := do
  let _ ← call .waitForSync
  switchToHighSpeed m p
  let _ ← call (.ackact false)
  if p.tenBitAddress then
    let _ ← call (.addr (p.address.toUInt32 <<< 1 ||| 0 ||| p.hsBit ||| addrTenbiten))
  else
    let _ ← call (.addr (p.address.toUInt32 <<< 1 ||| 0 ||| p.hsBit))
  addressAnswered m

/-- The loop of `_i2c_master_write_packet`, or `none` where bus ownership is lost. -/
def writeLoop (m : Module) (p : Packet) : (tmpDataLength bufferCounter : Nat) → Bus (Option Status)
  | 0, _ => pure (some .ok)
  | tmpDataLength + 1, bufferCounter => do
      if (← call .status) &&& statusBusstate2 = 0 then pure none
      else
        let _ ← call .waitForSync
        let _ ← call (.putData (p.data bufferCounter))
        let tmpStatus ← waitForBus m
        if tmpStatus ≠ .ok then pure (some tmpStatus)
        else if (← call .status) &&& statusRxnack ≠ 0 then pure (some .errOverflow)
        else writeLoop m p tmpDataLength (bufferCounter + 1)

/-- `_i2c_master_write_packet`. -/
def writePacket (m : Module) (p : Packet) : Bus Status := do
  let tmpStatus ← writeAddress m p
  if tmpStatus = .ok then
    match ← writeLoop m p p.dataLength.toNat 0 with
    | none => pure .errPacketCollision
    | some tmpStatus =>
        stopIf m.sendStop
        pure tmpStatus
  else pure tmpStatus

/-- `i2c_master_read_packet_wait`. -/
def readPacketWait (m : Module) (p : Packet) : Bus Status :=
  readPacket { m with sendStop := true, sendNack := true } p

/-- `i2c_master_read_packet_wait_no_stop`. -/
def readPacketWaitNoStop (m : Module) (p : Packet) : Bus Status :=
  readPacket { m with sendStop := false, sendNack := true } p

/-- `i2c_master_read_packet_wait_no_nack`. -/
def readPacketWaitNoNack (m : Module) (p : Packet) : Bus Status :=
  readPacket { m with sendStop := false, sendNack := false } p

/-- `i2c_master_write_packet_wait`. -/
def writePacketWait (m : Module) (p : Packet) : Bus Status :=
  writePacket { m with sendStop := true, sendNack := true } p

/-- `i2c_master_write_packet_wait_no_stop`. -/
def writePacketWaitNoStop (m : Module) (p : Packet) : Bus Status :=
  writePacket { m with sendStop := false, sendNack := true } p

/-! ## The HAL -/

/-- `struct hal_i2c_master_data`. -/
structure MasterData where
  address : UInt8
  len : UInt16
  /-- The memory from `buffer` on. -/
  buffer : Nat → UInt8

/-- What the functions of the HAL return. -/
inductive Rc where
  | zero
  | einval
  | status (status : Status)
deriving DecidableEq, Repr

/-- A packet, after the `memset`. -/
def MasterData.packet (d : MasterData) : Packet where
  address := d.address.toUInt16
  dataLength := d.len
  data := d.buffer
  tenBitAddress := false
  highSpeed := false
  hsMasterCode := 0

/-- What is made of a status. -/
def rcOf (status : Status) : Rc := if status ≠ .ok then .status status else .zero

/-- `SAMD21_I2C_RESOLVE`, and what is done with the port. -/
def resolve (samd21HalI2cs : List (Option Module)) (i2cNum : UInt8) (f : Module → Bus Status) :
    Bus Rc :=
  match (samd21HalI2cs[i2cNum.toNat]?).join with
  | none => pure .einval
  | some i2c => do
      let status ← f i2c
      pure (rcOf status)

/-- `hal_i2c_master_write`. -/
def halI2cMasterWrite (ports : List (Option Module)) (i2cNum : UInt8) (ppkt : MasterData)
    (lastOp : Bool) : Bus Rc :=
  resolve ports i2cNum fun i2c =>
    if lastOp then writePacketWait i2c ppkt.packet else writePacketWaitNoStop i2c ppkt.packet

/-- `hal_i2c_master_read`. -/
def halI2cMasterRead (ports : List (Option Module)) (i2cNum : UInt8) (ppkt : MasterData)
    (lastOp : Bool) : Bus Rc :=
  resolve ports i2cNum fun i2c =>
    if lastOp then readPacketWait i2c ppkt.packet else readPacketWaitNoStop i2c ppkt.packet

/-- `hal_i2c_master_probe`, where `packet->data` is its one byte `buf`. -/
def halI2cMasterProbe (ports : List (Option Module)) (i2cNum address : UInt8) : Bus Rc :=
  resolve ports i2cNum fun i2c =>
    readPacketWait i2c (MasterData.packet ⟨address, 0, fun _ => 0⟩)

end I2c
