import MynewtArduinoZero.Espduino.Packet
import MynewtArduinoZero.Lib.Stuffing

/-!
# The receiver

`espduino.c`, the side that reads.  `esp_process` takes the bytes that have
arrived: `0x7E` starts a frame, `0x7D` escapes the next byte, `0x7F` hands the
buffer to `esp_proto_completed_cb`, and any other byte is stored while the
buffer has room.

`esp_proto_completed_cb` walks the buffer with a pointer that nothing bounds, so
`buf` is the memory from `e_protobuf` on: its first `bufSize` bytes are the
buffer and the rest is whatever lies behind it.
-/

namespace Esp

open Cells LittleEndian Stuffing

/-- `SLIP_START`. -/
def slipStart : UInt8 := 0x7E
/-- `SLIP_END`. -/
def slipEnd : UInt8 := 0x7F
/-- `SLIP_REPL`. -/
def slipRepl : UInt8 := 0x7D

/-- `SLIP_ESC`. -/
def slipEsc (x : UInt8) : UInt8 := x ^^^ 0x20

/-- The bytes that are sent escaped. -/
def slipSpecial (b : UInt8) : Bool := b = slipStart ∨ b = slipEnd ∨ b = slipRepl

/-- The escapes of the link. -/
def slip : Scheme UInt8 where
  esc := slipRepl
  special := slipSpecial
  flip := slipEsc
  special_esc := by decide
  flip_flip b := by rw [slipEsc, slipEsc, UInt8.xor_assoc, UInt8.xor_self, UInt8.xor_zero]
  special_flip b hb := by
    rcases of_decide_eq_true hb with rfl | rfl | rfl <;> decide

/-- `sizeof(e_protobuf)`, which `espduino_init` puts in `bufSize`. -/
def bufSize : Nat := 512

/-- `CMD_NULL`. -/
def cmdNull : UInt16 := 0

/-- `struct PROTO`, with the memory its `buf` points at. -/
structure Proto where
  /-- The memory from `e_protobuf` on. -/
  buf : Nat → UInt8
  /-- Bytes stored since the last `0x7E`. -/
  dataLen : Nat
  /-- The byte before was an escape. -/
  isEsc : Bool
  /-- A frame is open. -/
  isBegin : Bool

/-- `struct espduino`, without the UART and its two rings. -/
structure Espduino where
  /-- `e_is_return`. -/
  eIsReturn : Bool
  /-- `e_cur_cmd`. -/
  eCurCmd : UInt16
  /-- `e_cur_cb`, 0 for NULL. -/
  eCurCb : UInt32
  /-- `e_return_value`. -/
  eReturnValue : UInt32
  /-- `e_proto`. -/
  eProto : Proto

/-- `espduino_init`: all of the structure is zero, and `behind` is the memory after it. -/
def espduinoInit (behind : Nat → UInt8) : Espduino where
  eIsReturn := false
  eCurCmd := cmdNull
  eCurCb := 0
  eReturnValue := 0
  eProto :=
    { buf := fun i => if i < bufSize then 0 else behind i
      dataLen := 0
      isEsc := false
      isBegin := false }

/-- What `esp_proto_completed_cb` does with a packet. -/
inductive Completion where
  /-- "esp: invalid CRC". -/
  | invalidCrc
  /-- "esp: got command %d waiting for %d", with the two commands it prints. -/
  | otherCommand (eCurCmd cmd : UInt16)
  /-- The packet is taken, and `callback` is called when `e_cur_cb` is not NULL. -/
  | accepted (callback : Option UInt32)
deriving DecidableEq, Repr

/-- `esp_proto_completed_cb`. -/
def espProtoCompletedCb (e : Espduino) : Espduino × Completion :=
  let cmd := e.eProto.buf
  let argc := (le16At cmd 10).toNat
  let crc := crc16Data (bytesAt cmd 0 12) 0
  let (crc, dataPtr) := walkArgs cmd argc 12 crc
  let respCrc := le16At cmd dataPtr
  if crc ≠ respCrc then (e, .invalidCrc)
  else if e.eCurCmd ≠ le16At cmd 0 then (e, .otherCommand e.eCurCmd (le16At cmd 0))
  else ({ e with eIsReturn := true, eReturnValue := le32At cmd 6 },
    .accepted (if e.eCurCb ≠ 0 then some e.eCurCb else none))

/-- One turn of the loop of `esp_process`.  What a callback does to the rest of the
program is not part of the turn. -/
def espProcessByte (e : Espduino) (value : UInt8) : Espduino × Option Completion :=
  let pr := e.eProto
  if value = slipRepl then ({ e with eProto := { pr with isEsc := true } }, none)
  else if value = slipStart then
    ({ e with eProto := { pr with dataLen := 0, isEsc := false, isBegin := true } }, none)
  else if value = slipEnd then
    let (e, completion) := espProtoCompletedCb e
    ({ e with eProto := { e.eProto with isBegin := false } }, some completion)
  else
    let value := if pr.isEsc then value ^^^ 0x20 else value
    if pr.dataLen < bufSize then
      ({ e with eProto := { pr with
          buf := fun i => if i = pr.dataLen then value else pr.buf i
          dataLen := pr.dataLen + 1
          isEsc := false } }, none)
    else ({ e with eProto := { pr with isEsc := false } }, none)

/-- One call of `esp_process` that finds `bytes` in the receive ring, with the packets it
completes. -/
def espProcess : (e : Espduino) → (bytes : List UInt8) → Espduino × List Completion
  | e, [] => (e, [])
  | e, value :: bytes =>
      let (e, completion) := espProcessByte e value
      let (e, completions) := espProcess e bytes
      (e, completion.toList ++ completions)

/-- `esp_wait_for`, and the assignments of `esp_request_start`. -/
def espWaitFor (e : Espduino) (cmd : UInt16) (cb : UInt32) : Espduino :=
  { e with eCurCmd := cmd, eCurCb := cb }

/-! ## Calls of `esp_process` -/

theorem espProcess_append (e : Espduino) (s t : List UInt8) :
    espProcess e (s ++ t) =
      ((espProcess (espProcess e s).1 t).1,
        (espProcess e s).2 ++ (espProcess (espProcess e s).1 t).2) := by
  induction s generalizing e with
  | nil => rfl
  | cons value s ih =>
      simp only [List.cons_append, espProcess, ih, List.append_assoc]

theorem espProcess_singleton (e : Espduino) (value : UInt8) :
    espProcess e [value] = ((espProcessByte e value).1, (espProcessByte e value).2.toList) := by
  simp only [espProcess, List.append_nil]

/-- Several calls of `esp_process`, one after the other. -/
def espProcessCalls : (e : Espduino) → (calls : List (List UInt8)) → Espduino × List Completion
  | e, [] => (e, [])
  | e, bytes :: calls =>
      let (e, completions) := espProcess e bytes
      let (e, rest) := espProcessCalls e calls
      (e, completions ++ rest)

/-- How the bytes are split over calls makes no difference. -/
theorem espProcessCalls_eq (e : Espduino) (calls : List (List UInt8)) :
    espProcessCalls e calls = espProcess e calls.flatten := by
  induction calls generalizing e with
  | nil => rfl
  | cons bytes calls ih =>
      simp only [espProcessCalls, List.flatten_cons, espProcess_append, ih]

/-! ## Bytes between delimiters -/

/-- The parser state after the bytes `raw`, none of which is a delimiter. -/
def Proto.collect (pr : Proto) (raw : List UInt8) : Proto :=
  let stored := (slip.unstuff pr.isEsc raw).take (bufSize - pr.dataLen)
  { pr with
    buf := overlay pr.buf pr.dataLen stored
    dataLen := pr.dataLen + stored.length
    isEsc := slip.escAfter pr.isEsc raw }

theorem Proto.collect_nil (pr : Proto) : pr.collect [] = pr := by
  simp [Proto.collect, overlay_nil]

theorem Proto.collect_append (pr : Proto) (s t : List UInt8) :
    pr.collect (s ++ t) = (pr.collect s).collect t := by
  have hroom : bufSize - (pr.dataLen
      + ((slip.unstuff pr.isEsc s).take (bufSize - pr.dataLen)).length)
      = bufSize - pr.dataLen - (slip.unstuff pr.isEsc s).length := by
    rw [List.length_take]
    omega
  simp only [Proto.collect, slip.unstuff_append, slip.escAfter_append, List.take_append,
    overlay_append, List.length_append, hroom, Nat.add_assoc]

/-- A byte that is no delimiter is collected. -/
theorem espProcessByte_collect (e : Espduino) {value : UInt8} (hstart : value ≠ slipStart)
    (hend : value ≠ slipEnd) :
    espProcessByte e value = ({ e with eProto := e.eProto.collect [value] }, none) := by
  by_cases hrepl : value = slipRepl
  · subst hrepl
    have hcollect : e.eProto.collect [slipRepl] = { e.eProto with isEsc := true } := by
      rw [Proto.collect, show [slipRepl] = [slip.esc] from rfl, slip.unstuff_esc, slip.escAfter_esc]
      simp [overlay_nil]
    rw [espProcessByte, if_pos rfl, hcollect]
  · have hunstuff := slip.unstuff_cons hrepl e.eProto.isEsc []
    have hesc := slip.escAfter_cons hrepl e.eProto.isEsc []
    rw [espProcessByte, if_neg hrepl, if_neg hstart, if_neg hend, Proto.collect, hunstuff, hesc]
    by_cases hroom : e.eProto.dataLen < bufSize
    · obtain ⟨k, hk⟩ : ∃ k, bufSize - e.eProto.dataLen = k + 1 :=
        ⟨bufSize - e.eProto.dataLen - 1, by omega⟩
      simp only [if_pos hroom, hk, List.take_succ_cons, slip.unstuff_nil, List.take_nil,
        slip.escAfter_nil, List.length_cons, List.length_nil, Nat.zero_add, overlay_singleton]
      rfl
    · simp only [if_neg hroom, Nat.sub_eq_zero_of_le (Nat.le_of_not_lt hroom), List.take_zero,
        overlay_nil, List.length_nil, Nat.add_zero, slip.escAfter_nil]

/-- A run of bytes without delimiters is collected, and completes nothing. -/
theorem espProcess_collect (e : Espduino) {raw : List UInt8} (hstart : slipStart ∉ raw)
    (hend : slipEnd ∉ raw) :
    espProcess e raw = ({ e with eProto := e.eProto.collect raw }, []) := by
  induction raw generalizing e with
  | nil => rw [espProcess, Proto.collect_nil]
  | cons value raw ih =>
      rw [List.mem_cons, not_or] at hstart hend
      rw [← List.singleton_append, espProcess_append, espProcess_singleton,
        espProcessByte_collect e (Ne.symm hstart.1) (Ne.symm hend.1), ih _ hstart.2 hend.2,
        Proto.collect_append]
      rfl

/-- The parser state after a `0x7E`. -/
def Proto.opened (pr : Proto) : Proto :=
  { pr with dataLen := 0, isEsc := false, isBegin := true }

theorem espProcessByte_start (e : Espduino) :
    espProcessByte e slipStart = ({ e with eProto := e.eProto.opened }, none) := rfl

theorem espProcessByte_end (e : Espduino) :
    espProcessByte e slipEnd =
      ({ (espProtoCompletedCb e).1 with
          eProto := { (espProtoCompletedCb e).1.eProto with isBegin := false } },
        some (espProtoCompletedCb e).2) := rfl

/-- A `0x7E` and the bytes after it, up to the next delimiter. -/
theorem espProcess_frame (e : Espduino) {raw : List UInt8} (hstart : slipStart ∉ raw)
    (hend : slipEnd ∉ raw) :
    espProcess e (slipStart :: raw) = ({ e with eProto := e.eProto.opened.collect raw }, []) := by
  rw [← List.singleton_append, espProcess_append, espProcess_singleton, espProcessByte_start,
    espProcess_collect _ hstart hend]
  rfl

/-- `esp_proto_completed_cb` leaves the parser alone. -/
theorem espProtoCompletedCb_eProto (e : Espduino) :
    (espProtoCompletedCb e).1.eProto = e.eProto := by
  simp only [espProtoCompletedCb]
  split
  · rfl
  · split <;> rfl

/-- An escaped packet holds no delimiter. -/
theorem slipStart_not_mem_stuff (bytes : List UInt8) : slipStart ∉ slip.stuff bytes := by
  intro h
  exact absurd (slip.eq_esc_of_mem_stuff h (by decide)) (by decide)

theorem slipEnd_not_mem_stuff (bytes : List UInt8) : slipEnd ∉ slip.stuff bytes := by
  intro h
  exact absurd (slip.eq_esc_of_mem_stuff h (by decide)) (by decide)

end Esp
