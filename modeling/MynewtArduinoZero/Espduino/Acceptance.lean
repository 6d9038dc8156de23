import MynewtArduinoZero.Espduino.Espduino
import MynewtArduinoZero.Lib.Run
import Mathlib.Data.List.Induction

/-!
# Which frames are accepted

`esp_process` keeps the buffer, `dataLen` and `isEsc` when a frame ends, and
`isBegin`, which says whether a frame is open, is written but never read.  So a
`0x7F` hands over whatever the buffer holds, and the walk of
`esp_proto_completed_cb` may leave the `dataLen` bytes of the frame.

`ProtoInv` relates the parser to the bytes received so far: while a frame is
open, the first `dataLen` bytes of the buffer are what the frame has brought.
An accepted packet is one the open frame brought exactly when `isBegin` is set
and the packet ends within `dataLen` (`accepted_complete_iff`).
-/

namespace Esp

open Cells LittleEndian Stuffing Run

/-! ## The open frame -/

/-- The open frame after one more byte. -/
def frameByte (frame : Option (List UInt8)) (value : UInt8) : Option (List UInt8) :=
  if value = slipStart then some []
  else if value = slipEnd then none
  else frame.map (· ++ [value])

/-- The bytes since the last `0x7E`, unless a `0x7F` has come since. -/
def openFrame (received : List UInt8) : Option (List UInt8) := received.foldl frameByte none

theorem openFrame_append (s t : List UInt8) :
    openFrame (s ++ t) = t.foldl frameByte (openFrame s) := List.foldl_append

theorem openFrame_concat (received : List UInt8) (value : UInt8) :
    openFrame (received ++ [value]) = frameByte (openFrame received) value := by
  rw [openFrame_append, List.foldl_cons, List.foldl_nil]

/-- The open frame, by where it lies in what was received. -/
theorem openFrame_eq_some_iff {received raw : List UInt8} :
    openFrame received = some raw ↔
      ∃ before, received = before ++ slipStart :: raw ∧ slipStart ∉ raw ∧ slipEnd ∉ raw := by
  induction received using List.reverseRecOn generalizing raw with
  | nil =>
      constructor
      · intro h
        cases h
      · rintro ⟨before, h, -, -⟩
        cases before <;> cases h
  | append_singleton received value ih =>
      rw [openFrame_concat]
      constructor
      · intro h
        by_cases hstart : value = slipStart
        · rw [frameByte, if_pos hstart, Option.some.injEq] at h
          subst h hstart
          exact ⟨received, rfl, List.not_mem_nil, List.not_mem_nil⟩
        · by_cases hend : value = slipEnd
          · rw [frameByte, if_neg hstart, if_pos hend] at h
            cases h
          · rw [frameByte, if_neg hstart, if_neg hend, Option.map_eq_some_iff] at h
            obtain ⟨raw0, hraw0, rfl⟩ := h
            obtain ⟨before, rfl, hs, he⟩ := ih.mp hraw0
            refine ⟨before, by rw [List.append_assoc, List.cons_append], ?_, ?_⟩
            · simp [hs, Ne.symm hstart]
            · simp [he, Ne.symm hend]
      · rintro ⟨before, h, hs, he⟩
        rcases List.eq_nil_or_concat raw with rfl | ⟨raw0, last, rfl⟩
        · obtain ⟨-, hvalue⟩ := List.append_inj' h rfl
          rw [List.cons.injEq] at hvalue
          rw [frameByte, if_pos hvalue.1]
        · rw [List.concat_eq_append] at h hs he ⊢
          rw [← List.cons_append, ← List.append_assoc] at h
          obtain ⟨hreceived, rfl⟩ := List.append_singleton_inj.mp h
          simp only [List.mem_append, List.mem_singleton, not_or] at hs he
          rw [frameByte, if_neg (Ne.symm hs.2), if_neg (Ne.symm he.2),
            ih.mpr ⟨before, hreceived, hs.1, he.1⟩, Option.map_some]

/-- The bytes of the open frame, unescaped, as far as the buffer has room for them. -/
def collected (raw : List UInt8) : List UInt8 := (slip.unstuff false raw).take bufSize

theorem collected_append (s t : List UInt8) :
    collected (s ++ t) = collected s
      ++ (slip.unstuff (slip.escAfter false s) t).take (bufSize - (collected s).length) := by
  have hroom : bufSize - (collected s).length = bufSize - (slip.unstuff false s).length := by
    rw [collected, List.length_take]
    omega
  rw [hroom, collected, slip.unstuff_append, List.take_append, collected]

/-! ## Runs -/

/-- What can happen to the receiver. -/
inductive Event where
  /-- A call of `esp_process` that reads `bytes`, or a part of one. -/
  | process (bytes : List UInt8)
  /-- `esp_wait_for`, or the start of a request. -/
  | waitFor (cmd : UInt16) (cb : UInt32)
  /-- `e_is_return = 0`, before a wait. -/
  | clearReturn
  /-- The memory behind `e_protobuf` is written. -/
  | writeBehind (behind : Nat → UInt8)

/-- The receiver and the bytes it has received since `espduino_init`. -/
structure Session where
  esp : Espduino
  received : List UInt8

/-- The receiver after `espduino_init`. -/
def Session.init (behind : Nat → UInt8) : Session := ⟨espduinoInit behind, []⟩

/-- The memory after what lies behind `e_protobuf` is written. -/
def writeBehind (behind : Nat → UInt8) (pr : Proto) : Proto :=
  { pr with buf := fun i => if i < bufSize then pr.buf i else behind i }

/-- One event. -/
def sessionStep (s : Session) : Event → Option Session
  | .process bytes => some ⟨(espProcess s.esp bytes).1, s.received ++ bytes⟩
  | .waitFor cmd cb => some ⟨espWaitFor s.esp cmd cb, s.received⟩
  | .clearReturn => some ⟨{ s.esp with eIsReturn := false }, s.received⟩
  | .writeBehind behind =>
      some ⟨{ s.esp with eProto := writeBehind behind s.esp.eProto }, s.received⟩

/-! ## The invariant -/

/-- The parser agrees with the bytes received. -/
structure ProtoInv (pr : Proto) (received : List UInt8) : Prop where
  closed : openFrame received = none → pr.isBegin = false
  opened : ∀ raw, openFrame received = some raw →
    pr.isBegin = true ∧ pr.isEsc = slip.escAfter false raw ∧
      bytesAt pr.buf 0 pr.dataLen = collected raw

/-- One byte keeps the invariant. -/
theorem ProtoInv.byte {e : Espduino} {received : List UInt8} (h : ProtoInv e.eProto received)
    (value : UInt8) :
    ProtoInv (espProcessByte e value).1.eProto (received ++ [value]) := by
  by_cases hstart : value = slipStart
  · subst hstart
    have hopen : openFrame (received ++ [slipStart]) = some [] := openFrame_concat ..
    rw [espProcessByte_start]
    exact
      { closed := fun hnone => by rw [hopen] at hnone; cases hnone
        opened := fun raw hraw => by
          rw [hopen, Option.some.injEq] at hraw
          subst hraw
          exact ⟨rfl, rfl, rfl⟩ }
  · by_cases hend : value = slipEnd
    · subst hend
      have hclosed : openFrame (received ++ [slipEnd]) = none := openFrame_concat ..
      rw [espProcessByte_end]
      exact
        { closed := fun _ => rfl
          opened := fun raw hraw => by rw [hclosed] at hraw; cases hraw }
    · have hnext : openFrame (received ++ [value]) = (openFrame received).map (· ++ [value]) := by
        rw [openFrame_concat, frameByte, if_neg hstart, if_neg hend]
      rw [espProcessByte_collect e hstart hend]
      refine { closed := fun hnone => ?_, opened := fun raw' hraw' => ?_ }
      · rw [hnext, Option.map_eq_none_iff] at hnone
        exact h.closed hnone
      · rw [hnext, Option.map_eq_some_iff] at hraw'
        obtain ⟨raw, hraw, rfl⟩ := hraw'
        obtain ⟨hbegin, hesc, hbuf⟩ := h.opened raw hraw
        have hlen : (collected raw).length = e.eProto.dataLen := by
          rw [← hbuf, length_bytesAt]
        refine ⟨hbegin, ?_, ?_⟩
        · rw [slip.escAfter_append, ← hesc]
          rfl
        · -- what was stored before stays, and the new byte is laid behind it
          simp only [Proto.collect]
          rw [collected_append, ← hesc, hlen, bytesAt_add, bytesAt_overlay_of_le (by omega), hbuf,
            Nat.zero_add, bytesAt_overlay]

/-- A call of `esp_process` keeps the invariant. -/
theorem ProtoInv.process {e : Espduino} {received : List UInt8} (h : ProtoInv e.eProto received)
    (bytes : List UInt8) : ProtoInv (espProcess e bytes).1.eProto (received ++ bytes) := by
  induction bytes generalizing e received with
  | nil => rwa [List.append_nil]
  | cons value bytes ih =>
      rw [← List.singleton_append, espProcess_append, espProcess_singleton, ← List.append_assoc]
      exact ih (h.byte value)

/-- The invariant does not see the memory behind the buffer. -/
theorem ProtoInv.writeBehind {pr : Proto} {received : List UInt8} (h : ProtoInv pr received)
    (behind : Nat → UInt8) : ProtoInv (writeBehind behind pr) received := by
  refine { closed := h.closed, opened := fun raw hraw => ?_ }
  obtain ⟨hbegin, hesc, hbuf⟩ := h.opened raw hraw
  refine ⟨hbegin, hesc, Eq.trans (bytesAt_congr fun i (hi : i < pr.dataLen) => ?_) hbuf⟩
  have hlen : pr.dataLen ≤ bufSize := by
    rw [← length_bytesAt pr.buf 0 pr.dataLen, hbuf, collected]
    exact List.length_take_le ..
  exact if_pos (by omega)

/-- One event keeps the invariant. -/
theorem sessionStep_inv (s : Session) (e : Event) (t : Session)
    (h : ProtoInv s.esp.eProto s.received) (hstep : sessionStep s e = some t) :
    ProtoInv t.esp.eProto t.received := by
  cases e with
  | process bytes =>
      cases hstep
      exact h.process bytes
  | waitFor cmd cb =>
      cases hstep
      exact h
  | clearReturn =>
      cases hstep
      exact h
  | writeBehind behind =>
      cases hstep
      exact h.writeBehind behind

/-- The invariant of every run. -/
theorem run_protoInv {behind : Nat → UInt8} {es : List Event} {s : Session}
    (hrun : run sessionStep (Session.init behind) es = some s) :
    ProtoInv s.esp.eProto s.received :=
  run_invariant (I := fun s => ProtoInv s.esp.eProto s.received) sessionStep_inv
    { closed := fun _ => rfl, opened := fun _ h => by cases h } hrun

/-! ## Acceptance -/

/-- The checks of `esp_proto_completed_cb` passed. -/
theorem completed_of_accepted {e : Espduino} {callback : Option UInt32}
    (h : (espProtoCompletedCb e).2 = .accepted callback) :
    e.eCurCmd = le16At e.eProto.buf 0 ∧
      le16At e.eProto.buf (packetEnd e.eProto.buf - 2) =
        crc16Data (packetBody (le16At e.eProto.buf 0) (le32At e.eProto.buf 2)
          (le32At e.eProto.buf 6) (argsAt e.eProto.buf (le16At e.eProto.buf 10).toNat 12)) 0 := by
  simp only [espProtoCompletedCb, walkArgs_eq, ← crc16Data_append] at h
  split at h
  · cases h
  · split at h
    · cases h
    · rename_i hcrc hcmd
      refine ⟨not_not.mp hcmd, ?_⟩
      rw [packetBody_argsAt, bytesAt_add, Nat.zero_add, bytesAt_argsAt]
      exact (not_not.mp hcrc).symm

/-- The open frame has brought a complete packet for the command waited for, and it lies
in the first `dataLen` bytes of the buffer. -/
def FrameComplete (s : Session) : Prop :=
  ∃ before raw, s.received = before ++ slipStart :: raw ∧ slipStart ∉ raw ∧ slipEnd ∉ raw ∧
    bytesAt s.esp.eProto.buf 0 s.esp.eProto.dataLen = collected raw ∧
    CompletePacket s.esp.eCurCmd (collected raw)

/-- A complete packet at the front of the frame is the packet in the buffer, so the walk
ends within the frame. -/
theorem packetEnd_le_of_completePacket {m : Nat → UInt8} {dataLen : Nat} {cmd : UInt16}
    (h : CompletePacket cmd (bytesAt m 0 dataLen)) : packetEnd m ≤ dataLen := by
  obtain ⟨callback, _return, args, hargc, hlen, rest, hrest⟩ := h
  obtain ⟨hpacket, -⟩ := bytesAt_eq_append hrest.symm
  obtain ⟨-, -, hend, -⟩ := packet_read hargc hlen hpacket
  have hle := congrArg List.length hrest
  rw [List.length_append, length_bytesAt] at hle
  omega

/-- A packet that passed the checks and ends within the frame is a complete one. -/
theorem completePacket_of_packetEnd_le {e : Espduino} {callback : Option UInt32} {dataLen : Nat}
    (h : (espProtoCompletedCb e).2 = .accepted callback)
    (hend : packetEnd e.eProto.buf ≤ dataLen) :
    CompletePacket e.eCurCmd (bytesAt e.eProto.buf 0 dataLen) := by
  obtain ⟨hcmd, hcrc⟩ := completed_of_accepted h
  let m := e.eProto.buf
  let args := argsAt m (le16At m 10).toNat 12
  refine ⟨le32At m 2, le32At m 6, args, ?_, length_lt_of_mem_argsAt m _ 12, ?_⟩
  · rw [length_argsAt]
    exact (le16At m 10).toNat_lt
  · have hpacket : packet e.eCurCmd (le32At m 2) (le32At m 6) args
        = bytesAt m 0 (packetEnd m) := by
      rw [packet, hcmd, ← hcrc, leBytes_le16At, packetBody_argsAt, packetEnd,
        Nat.add_sub_cancel, bytesAt_add m 0 (12 + _) 2, Nat.zero_add]
    rw [hpacket, ← take_bytesAt m hend]
    exact List.take_prefix ..

/-- In every run, an accepted packet is one that the open frame has brought exactly when
`isBegin` is set and the packet that the count and the lengths in the buffer describe ends
within `dataLen`. -/
theorem accepted_complete_iff {behind : Nat → UInt8} {es : List Event} {s : Session}
    {callback : Option UInt32} (hrun : run sessionStep (Session.init behind) es = some s)
    (haccepted : (espProcessByte s.esp slipEnd).2 = some (.accepted callback)) :
    FrameComplete s ↔
      s.esp.eProto.isBegin = true ∧ packetEnd s.esp.eProto.buf ≤ s.esp.eProto.dataLen := by
  have hinv := run_protoInv hrun
  rw [espProcessByte_end, Option.some.injEq] at haccepted
  constructor
  · rintro ⟨before, raw, hreceived, hs, he, hbuf, hcomplete⟩
    have hopen := openFrame_eq_some_iff.mpr ⟨before, hreceived, hs, he⟩
    rw [← hbuf] at hcomplete
    exact ⟨(hinv.opened raw hopen).1, packetEnd_le_of_completePacket hcomplete⟩
  · rintro ⟨hbegin, hend⟩
    cases hopen : openFrame s.received with
    | none =>
        rw [hinv.closed hopen] at hbegin
        cases hbegin
    | some raw =>
        obtain ⟨before, hreceived, hs, he⟩ := openFrame_eq_some_iff.mp hopen
        obtain ⟨-, -, hbuf⟩ := hinv.opened raw hopen
        have hcomplete := completePacket_of_packetEnd_le haccepted hend
        rw [hbuf] at hcomplete
        exact ⟨before, raw, hreceived, hs, he, hbuf, hcomplete⟩

/-- A frame of fourteen zero bytes is the packet of `CMD_NULL` without arguments. -/
theorem accepted_complete_iff_null :
    ∃ s, run sessionStep (Session.init fun _ => 0)
        [.process [slipStart], .process (List.replicate 14 0)] = some s ∧
      (FrameComplete s ↔
        s.esp.eProto.isBegin = true ∧ packetEnd s.esp.eProto.buf ≤ s.esp.eProto.dataLen) :=
  ⟨_, rfl, @accepted_complete_iff (fun _ => 0)
    [.process [slipStart], .process (List.replicate 14 0)] _ none rfl (by decide +kernel)⟩

/-- A lone `0x7F` after `espduino_init` is accepted, though no frame has been received: the
buffer is zero, and so are its CRC and the command waited for. -/
theorem end_accepted_without_frame :
    (espProcessByte (Session.init fun _ => 0).esp slipEnd).2 = some (.accepted none) ∧
      (espProcessByte (Session.init fun _ => 0).esp slipEnd).1.eIsReturn = true ∧
      ¬ FrameComplete (Session.init fun _ => 0) := by
  refine ⟨by decide +kernel, by decide +kernel, ?_⟩
  rintro ⟨before, raw, h, -⟩
  cases before <;> cases h

end Esp
