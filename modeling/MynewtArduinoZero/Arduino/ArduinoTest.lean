import Mathlib.Data.Int.Notation
import Mathlib.Tactic.Common

/-!
# The Arduino test

`pin_map` lists the pins: a name, the number of the device in the system, and
an `entry_id`.  `interface_map` holds what each pin is set to: a type, a value
and a union of the number of a gpio pin and of pointers.  The functions that
store a pointer are not compiled.

The functions here work on the two entries that they take from the tables.  The
HAL is asked for its return codes, and what it is called for is listed with the
pointers that are freed.
-/

namespace ArduinoTest

/-! ## The tables -/

inductive Board where
  | zero | zeroPro
deriving DecidableEq

/-- `struct arduino_pin_map_entry`. -/
structure PinMapEntry where
  name : String
  sysid : Int
  entryId : Int
deriving DecidableEq

/-- `ARDUINO_NUM_DEVS`. -/
abbrev arduinoNumDevs : Nat := 15

/-- `pin_map`.  The boards differ in the devices of D2 and D4. -/
def pinMap (board : Board) : Vector PinMapEntry arduinoNumDevs :=
  #v[⟨"D2", if board = .zero then 14 else 8, 6⟩,
    ⟨"D3", 9, 7⟩,
    ⟨"D4", if board = .zero then 8 else 14, 8⟩,
    ⟨"D5", 15, 9⟩,
    ⟨"D6", 20, 10⟩,
    ⟨"D7", 21, 11⟩,
    ⟨"D8", 6, 12⟩,
    ⟨"D9", 7, 13⟩,
    ⟨"D10", 18, 14⟩,
    ⟨"D11", 16, 15⟩,
    ⟨"D12", 19, 16⟩,
    ⟨"D13", 17, 17⟩,
    ⟨"SPI0", 0, 18⟩,
    ⟨"SPI1", 1, 19⟩,
    ⟨"I2C", 4, 20⟩]

/-- `enum interface_type`. -/
inductive InterfaceType where
  | uninitialized | gpioOut | gpioIn | spi | i2c
deriving DecidableEq, Repr

/-- The type that an `int` is, if it is one. -/
def interfaceType : Int → Option InterfaceType
  | 0 => some .uninitialized
  | 1 => some .gpioOut
  | 2 => some .gpioIn
  | 3 => some .spi
  | 4 => some .i2c
  | _ => none

/-- `interface_into_t`. -/
structure InterfaceInfo where
  name : String
  minValue : Int
  maxValue : Int
deriving DecidableEq

/-- `INTERFACE_CNT`. -/
abbrev interfaceCnt : Nat := 5

/-- `interface_info`. -/
def interfaceInfo : Vector InterfaceInfo interfaceCnt :=
  #v[⟨"none", 0, -1⟩, ⟨"gpio_out", 0, 1⟩, ⟨"gpio_in", 0, -1⟩, ⟨"spi", 0, 255⟩, ⟨"i2c", 0, 255⟩]

/-- `interface_info[type]`. -/
def InterfaceType.info : InterfaceType → InterfaceInfo
  | .uninitialized => interfaceInfo[0]
  | .gpioOut => interfaceInfo[1]
  | .gpioIn => interfaceInfo[2]
  | .spi => interfaceInfo[3]
  | .i2c => interfaceInfo[4]

/-- `interfaces_t`.  The word is the union, read as `gpio_pin`. -/
structure Interface where
  type : InterfaceType
  value : Int
  word : Int
deriving DecidableEq, Repr

/-- All bytes zero. -/
def Interface.zero : Interface := ⟨.uninitialized, 0, 0⟩

/-! ## The HAL -/

inductive HalCall where
  | gpioInitOut (pin val : Int)
  /-- With no pull. -/
  | gpioInitIn (pin : Int)
  | gpioWrite (pin val : Int)
  | gpioRead (pin : Int)
  /-- Mode 0, the most significant bit first, words of 8 bits and a baud rate of 1000000. -/
  | spiConfig (spiNum : Int)
  | spiTxVal (spiNum val : Int)
  /-- One byte, `0x17`. -/
  | i2cMasterWrite (i2cNum address : Int)
  /-- One byte. -/
  | i2cMasterRead (i2cNum address : Int)
deriving DecidableEq, Repr

/-- The device that a call is for. -/
def HalCall.device : HalCall → Int
  | .gpioInitOut pin _ => pin
  | .gpioInitIn pin => pin
  | .gpioWrite pin _ => pin
  | .gpioRead pin => pin
  | .spiConfig spiNum => spiNum
  | .spiTxVal spiNum _ => spiNum
  | .i2cMasterWrite i2cNum _ => i2cNum
  | .i2cMasterRead i2cNum _ => i2cNum

/-- What the HAL answers. -/
structure Hal where
  rc : HalCall → Int
  /-- What is in the buffer behind a `hal_i2c_master_read`. -/
  byte : HalCall → UInt8

/-! ## The functions -/

inductive Effect where
  | hal (call : HalCall)
  | free (word : Int)
  /-- The name in `interface_info[entry_id]` is printed, for a pin that is set already.  The table
  has five rows and `entry_id` goes up to 14: what is read and printed behind it is left out. -/
  | warn (row : Int)
deriving DecidableEq, Repr

/-- What a function returns, the entry behind it, and its effects in order. -/
structure Outcome (α : Type) where
  result : α
  pint : Interface
  effects : List Effect
deriving DecidableEq

/-- `arduino_free_device`. -/
def arduinoFreeDevice (hal : Hal) (pmap : PinMapEntry) (pint : Interface) : Outcome Int :=
  match pint.type with
  | .gpioIn | .gpioOut =>
      ⟨hal.rc (.gpioInitIn pmap.sysid), pint, [.hal (.gpioInitIn pmap.sysid)]⟩
  | .i2c | .spi => ⟨0, Interface.zero, [.free pint.word]⟩
  | .uninitialized => ⟨0, pint, []⟩

/-- The `switch` of `arduino_set_device`.  The type of an SPI is set before its configuration. -/
def switchDevice (hal : Hal) (pmap : PinMapEntry) (pint : Interface) (devtype : Int) :
    Outcome Int :=
  match interfaceType devtype with
  | some .gpioOut =>
      let rc := hal.rc (.gpioInitOut pmap.sysid 0)
      ⟨rc, if rc = 0 then { pint with word := pmap.sysid, type := .gpioOut } else pint,
        [.hal (.gpioInitOut pmap.sysid 0)]⟩
  | some .gpioIn =>
      let rc := hal.rc (.gpioInitIn pmap.sysid)
      ⟨rc, if rc = 0 then { pint with word := pmap.sysid, type := .gpioIn } else pint,
        [.hal (.gpioInitIn pmap.sysid)]⟩
  | some .spi =>
      ⟨if hal.rc (.spiConfig pmap.sysid) ≠ 0 then -5 else 0, { pint with type := .spi },
        [.hal (.spiConfig pmap.sysid)]⟩
  | some .i2c => ⟨0, { pint with type := .i2c }, []⟩
  | some .uninitialized => arduinoFreeDevice hal pmap pint
  | none => ⟨-2, pint, []⟩

/-- `arduino_set_device` behind its assertion. -/
def arduinoSetDevice (hal : Hal) (entryId : Int) (pmap : PinMapEntry) (pint : Interface)
    (devtype : Int) : Outcome Int :=
  let r := switchDevice hal pmap pint devtype
  { result := r.result
    pint := if r.result = 0 then { r.pint with value := 0 } else r.pint
    effects :=
      (if pint.type ≠ .uninitialized ∧ devtype ≠ 0 then [.warn entryId] else []) ++ r.effects }

/-- `arduino_write`. -/
def arduinoWrite (hal : Hal) (pmap : PinMapEntry) (pint : Interface) (value : Int) : Outcome Int :=
  if value > pint.type.info.maxValue ∨ value < pint.type.info.minValue then ⟨-1, pint, []⟩
  else
    match pint.type with
    | .uninitialized | .gpioIn => ⟨-1, pint, []⟩
    | .gpioOut =>
        ⟨0, { pint with value := value },
          [.hal (.gpioWrite pint.word (if value ≠ 0 then 1 else 0))]⟩
    | .spi =>
        let rc := hal.rc (.spiTxVal pmap.sysid (value % 256))
        if rc ≥ 0 then
          ⟨0, { pint with value := rc }, [.hal (.spiTxVal pmap.sysid (value % 256))]⟩
        else ⟨rc, pint, [.hal (.spiTxVal pmap.sysid (value % 256))]⟩
    | .i2c =>
        let rc := hal.rc (.i2cMasterWrite pmap.sysid value)
        ⟨rc, if rc ≠ 0 then pint else { pint with value := value },
          [.hal (.i2cMasterWrite pmap.sysid value)]⟩

/-- `arduino_read`: the return code, and `*value` where it is written. -/
def arduinoRead (hal : Hal) (pmap : PinMapEntry) (pint : Interface) :
    Outcome (Int × Option Int) :=
  match pint.type with
  | .uninitialized => ⟨(-1, none), pint, []⟩
  | .gpioOut | .spi => ⟨(0, some pint.value), pint, []⟩
  | .gpioIn =>
      ⟨(0, some (hal.rc (.gpioRead pint.word))), pint, [.hal (.gpioRead pint.word)]⟩
  | .i2c =>
      ⟨(hal.rc (.i2cMasterRead pmap.sysid pint.value),
          some (hal.byte (.i2cMasterRead pmap.sysid pint.value)).toNat), pint,
        [.hal (.i2cMasterRead pmap.sysid pint.value)]⟩

/-! ## What they do -/

/-- A write to a pin that is not set is refused, and reaches no device. -/
theorem arduinoWrite_uninitialized (hal : Hal) (pmap : PinMapEntry) {pint : Interface}
    (h : pint.type = .uninitialized) (value : Int) :
    arduinoWrite hal pmap pint value = ⟨-1, pint, []⟩ := by
  rw [arduinoWrite, h]
  split <;> rfl

theorem arduinoRead_uninitialized (hal : Hal) (pmap : PinMapEntry) {pint : Interface}
    (h : pint.type = .uninitialized) :
    arduinoRead hal pmap pint = ⟨(-1, none), pint, []⟩ := by
  rw [arduinoRead, h]

end ArduinoTest
