import MynewtArduinoZero.Espduino.Espduino
import MynewtArduinoZero.Lib.Align
import Mathlib.Algebra.Order.BigOperators.Group.List
import Mathlib.Algebra.Order.Group.Nat

/-!
# Requests

`espduino.c`, the side that writes, and the round trip.  A request is sent in
pieces: `esp_request_start` sends the header, each `esp_request_cont` one
argument padded to a multiple of four bytes, and `esp_request_end` the CRC,
which the caller carries from piece to piece.

The functions return the bytes they hand to the UART.  The bytes of a whole
request are a start, the escaped packet with the padded arguments, and an end
(`requestBytes_eq`), so the receiver collects the packet and its walk crosses it
(`esp_process_request`).
-/

namespace Esp

open Cells LittleEndian Stuffing

/-! ## The encoder -/

/-- `esp_write_byte`. -/
def espWriteByte (data : UInt8) : List UInt8 :=
  if data = slipStart ∨ data = slipEnd ∨ data = slipRepl then [slipRepl, slipEsc data] else [data]

/-- `esp_write_crc`: the bytes sent and the CRC so far. -/
def espWriteCrc (data : List UInt8) (crc : UInt16) : List UInt8 × UInt16 :=
  (data.flatMap espWriteByte, crc16Data data crc)

/-- `esp_request_start`: the bytes sent, the CRC so far and the new state. -/
def espRequestStart (e : Espduino) (cmd : UInt16) (callback _return : UInt32) (argc : UInt16) :
    List UInt8 × UInt16 × Espduino :=
  let (sentCmd, crc) := espWriteCrc (leBytes 2 cmd.toNat) 0
  let (sentCallback, crc) := espWriteCrc (leBytes 4 callback.toNat) crc
  let (sentReturn, crc) := espWriteCrc (leBytes 4 _return.toNat) crc
  let (sentArgc, crc) := espWriteCrc (leBytes 2 argc.toNat) crc
  (0x7E :: (sentCmd ++ sentCallback ++ sentReturn ++ sentArgc), crc, espWaitFor e cmd callback)

/-- `pad_len` of `esp_request_cont`. -/
def padLen (len : UInt16) : UInt16 := (len + 3) &&& ~~~3

/-- `esp_request_cont` on the first `len` bytes of `data`. -/
def espRequestCont (crc : UInt16) (data : List UInt8) (len : UInt16) : List UInt8 × UInt16 :=
  let (sentLen, crc) := espWriteCrc (leBytes 2 (padLen len).toNat) crc
  let (sentData, crc) := espWriteCrc (data.take len.toNat) crc
  let (sentPad, crc) := espWriteCrc (List.replicate (padLen len - len).toNat 0) crc
  (sentLen ++ sentData ++ sentPad, crc)

/-- `esp_request_end`. -/
def espRequestEnd (crc : UInt16) : List UInt8 :=
  (leBytes 2 crc.toNat).flatMap espWriteByte ++ [0x7F]

/-- One `esp_request_cont` for each argument. -/
def espRequestArgs : (crc : UInt16) → (args : List (List UInt8)) → List UInt8 × UInt16
  | crc, [] => ([], crc)
  | crc, data :: args =>
      let (sent, crc) := espRequestCont crc data (.ofNat data.length)
      let (rest, crc) := espRequestArgs crc args
      (sent ++ rest, crc)

/-- The bytes of a whole request. -/
def requestBytes (e : Espduino) (cmd : UInt16) (callback _return : UInt32)
    (args : List (List UInt8)) : List UInt8 :=
  let (header, crc, _) := espRequestStart e cmd callback _return (.ofNat args.length)
  let (sent, crc) := espRequestArgs crc args
  header ++ sent ++ espRequestEnd crc

/-! ## The bytes of a request -/

/-- A length rounded up to a multiple of four. -/
def roundUp4 (n : Nat) : Nat := (n + 3) / 4 * 4

/-- An argument as it is sent. -/
def padded (data : List UInt8) : List UInt8 :=
  data ++ List.replicate (roundUp4 data.length - data.length) 0

/-- The length of the unescaped frame. -/
def frameLength (args : List (List UInt8)) : Nat :=
  12 + (args.map fun data => 2 + roundUp4 data.length).sum + 2

theorem le_roundUp4 (n : Nat) : n ≤ roundUp4 n := by
  unfold roundUp4
  omega

theorem length_padded (data : List UInt8) : (padded data).length = roundUp4 data.length := by
  rw [padded, List.length_append, List.length_replicate,
    Nat.add_sub_cancel' (le_roundUp4 data.length)]

theorem padLen_toNat {n : Nat} (h : n + 3 < 2 ^ 16) :
    (padLen (.ofNat n)).toNat = roundUp4 n := by
  have hsum : (UInt16.ofNat n + 3).toNat = n + 3 := by
    rw [UInt16.toNat_add, UInt16.toNat_ofNat', Nat.mod_add_mod]
    exact Nat.mod_eq_of_lt h
  have halign : n + 3 &&& (2 ^ 16 - 1 ^^^ (2 ^ 2 - 1)) = Align.alignDown 4 (n + 3) :=
    Align.land_not_eq_alignDown (by omega) h
  rw [padLen, UInt16.toNat_and, hsum, show (~~~3 : UInt16).toNat = 2 ^ 16 - 1 ^^^ (2 ^ 2 - 1) by decide,
    halign, Align.alignDown, roundUp4]
  omega

theorem espWriteByte_eq (b : UInt8) : espWriteByte b = slip.stuffByte b := by
  simp only [espWriteByte, Scheme.stuffByte, slip, slipSpecial, decide_eq_true_eq]

theorem espWriteCrc_eq (data : List UInt8) (crc : UInt16) :
    espWriteCrc data crc = (slip.stuff data, crc16Data data crc) := by
  rw [espWriteCrc, Scheme.stuff, funext espWriteByte_eq]

theorem espRequestCont_eq {data : List UInt8} (h : data.length + 3 < 2 ^ 16) (crc : UInt16) :
    espRequestCont crc data (.ofNat data.length)
      = (slip.stuff (packetArg (padded data)), crc16Data (packetArg (padded data)) crc) := by
  have hlen : (UInt16.ofNat data.length).toNat = data.length :=
    UInt16.toNat_ofNat_of_lt' (show data.length < 2 ^ 16 by omega)
  have hpad : (padLen (.ofNat data.length) - .ofNat data.length).toNat
      = roundUp4 data.length - data.length := by
    have hle : UInt16.ofNat data.length ≤ padLen (.ofNat data.length) := by
      rw [UInt16.le_iff_toNat_le, padLen_toNat h, hlen]
      exact le_roundUp4 _
    rw [UInt16.toNat_sub_of_le _ _ hle, padLen_toNat h, hlen]
  simp only [espRequestCont, espWriteCrc_eq, padLen_toNat h, hlen, hpad, List.take_length,
    ← Scheme.stuff_append, ← crc16Data_append, packetArg, length_padded]
  simp only [padded, List.append_assoc]

theorem espRequestArgs_eq {args : List (List UInt8)}
    (h : ∀ data ∈ args, data.length + 3 < 2 ^ 16) (crc : UInt16) :
    espRequestArgs crc args
      = (slip.stuff (packetArgs (args.map padded)), crc16Data (packetArgs (args.map padded)) crc) := by
  induction args generalizing crc with
  | nil => rfl
  | cons data args ih =>
      simp only [espRequestArgs, espRequestCont_eq (h data List.mem_cons_self),
        ih fun d hd => h d (List.mem_cons_of_mem data hd), List.map_cons, packetArgs_cons,
        Scheme.stuff_append, crc16Data_append]

theorem espRequestStart_eq (e : Espduino) (cmd : UInt16) (callback _return : UInt32)
    (argc : UInt16) :
    espRequestStart e cmd callback _return argc
      = (slipStart :: slip.stuff (packetHeader cmd callback _return argc.toNat),
          crc16Data (packetHeader cmd callback _return argc.toNat) 0,
          espWaitFor e cmd callback) := by
  simp only [espRequestStart, espWriteCrc_eq, ← Scheme.stuff_append, ← crc16Data_append,
    packetHeader, List.append_assoc]
  rfl

/-- A request is a start, the escaped packet with the padded arguments, and an end. -/
theorem requestBytes_eq (e : Espduino) (cmd : UInt16) (callback _return : UInt32)
    {args : List (List UInt8)} (hargc : args.length < 2 ^ 16)
    (hlen : ∀ data ∈ args, data.length + 3 < 2 ^ 16) :
    requestBytes e cmd callback _return args
      = slipStart :: (slip.stuff (packet cmd callback _return (args.map padded)) ++ [slipEnd]) := by
  have hcount : (UInt16.ofNat args.length).toNat = (args.map padded).length := by
    rw [UInt16.toNat_ofNat_of_lt' hargc, List.length_map]
  have hend : ∀ crc, espRequestEnd crc = slip.stuff (leBytes 2 crc.toNat) ++ [slipEnd] := by
    intro crc
    rw [espRequestEnd, Scheme.stuff, funext espWriteByte_eq]
    rfl
  simp only [requestBytes, espRequestStart_eq, espRequestArgs_eq hlen, hend, hcount,
    ← crc16Data_append, packet, packetBody, Scheme.stuff_append, List.append_assoc,
    List.cons_append]

/-! ## The frame fits -/

theorem length_packetArgs_padded (args : List (List UInt8)) :
    (packetArgs (args.map padded)).length
      = (args.map fun data => 2 + roundUp4 data.length).sum := by
  induction args with
  | nil => rfl
  | cons data args ih =>
      rw [List.map_cons, packetArgs_cons, List.length_append, length_packetArg, length_padded, ih,
        List.map_cons, List.sum_cons]

theorem length_packet_padded (cmd : UInt16) (callback _return : UInt32)
    (args : List (List UInt8)) :
    (packet cmd callback _return (args.map padded)).length = frameLength args := by
  rw [length_packet, length_packetArgs_padded, frameLength]

/-- Each argument is a part of the frame. -/
theorem roundUp4_lt_frameLength {args : List (List UInt8)} {data : List UInt8}
    (h : data ∈ args) : roundUp4 data.length < frameLength args := by
  have hmem : 2 + roundUp4 data.length ≤ (args.map fun data => 2 + roundUp4 data.length).sum :=
    List.le_sum_of_mem (List.mem_map_of_mem h)
  unfold frameLength
  omega

theorem length_lt_frameLength (args : List (List UInt8)) : args.length < frameLength args := by
  have hlen : args.length ≤ (args.map fun data => 2 + roundUp4 data.length).sum := by
    induction args with
    | nil => exact Nat.le_refl 0
    | cons data args ih =>
        rw [List.length_cons, List.map_cons, List.sum_cons]
        omega
  unfold frameLength
  omega

/-! ## The round trip -/

/-- Collecting an escaped packet from a start puts it at the front of the buffer. -/
theorem bytesAt_collect_stuff {pr : Proto} (hdata : pr.dataLen = 0) (hesc : pr.isEsc = false)
    {bytes : List UInt8} (hfit : bytes.length ≤ bufSize) :
    bytesAt (pr.collect (slip.stuff bytes)).buf 0 bytes.length = bytes := by
  have htake : bytes.take bufSize = bytes := List.take_of_length_le hfit
  simp only [Proto.collect, hdata, hesc, slip.unstuff_stuff, Nat.sub_zero, htake]
  exact bytesAt_overlay pr.buf 0 bytes

/-- A complete packet for the command waited for is accepted. -/
theorem espProtoCompletedCb_packet {e : Espduino} {callback _return : UInt32}
    {args : List (List UInt8)} (hargc : args.length < 2 ^ 16)
    (hlen : ∀ data ∈ args, data.length < 2 ^ 16)
    (h : bytesAt e.eProto.buf 0 (packet e.eCurCmd callback _return args).length
      = packet e.eCurCmd callback _return args) :
    espProtoCompletedCb e = ({ e with eIsReturn := true, eReturnValue := _return },
      .accepted (if e.eCurCb ≠ 0 then some e.eCurCb else none)) := by
  obtain ⟨⟨hcmd, hcallback, hreturn, hcount⟩, hread, -, hcrc⟩ := packet_read hargc hlen h
  have hbody : bytesAt e.eProto.buf 0 12 = packetHeader e.eCurCmd callback _return args.length := by
    rw [← packetHeader_le16At, hcmd, hcallback, hreturn, hcount]
  simp only [espProtoCompletedCb, walkArgs_eq, hread, hbody, hcmd, hreturn, ← crc16Data_append]
  rw [← packetBody, hcrc, if_neg (not_not.mpr rfl), if_neg (not_not.mpr rfl)]

/-- Nothing is completed before the last byte of a request. -/
theorem espProcess_proper_prefix (e : Espduino) {bytes sent rest : List UInt8} (hrest : rest ≠ [])
    (h : slipStart :: (slip.stuff bytes ++ [slipEnd]) = sent ++ rest) :
    (espProcess e sent).2 = [] := by
  cases sent with
  | nil => rfl
  | cons value raw =>
      rw [List.cons_append, List.cons.injEq] at h
      obtain ⟨rfl, h⟩ := h
      rw [← List.dropLast_concat_getLast hrest, ← List.append_assoc] at h
      have hraw : slip.stuff bytes = raw ++ rest.dropLast := (List.append_singleton_inj.mp h).1
      have hstart : slipStart ∉ raw := fun hmem =>
        slipStart_not_mem_stuff bytes (hraw ▸ List.mem_append_left rest.dropLast hmem)
      have hend : slipEnd ∉ raw := fun hmem =>
        slipEnd_not_mem_stuff bytes (hraw ▸ List.mem_append_left rest.dropLast hmem)
      rw [espProcess_frame e hstart hend]

/-- The receiver takes a request, from any state and however the bytes are split over
calls, at its last byte and not before. -/
theorem esp_process_request {args : List (List UInt8)} (hfit : frameLength args ≤ bufSize)
    (sender e : Espduino) (callback _return : UInt32) (calls : List (List UInt8))
    (hcalls : calls.flatten = requestBytes sender e.eCurCmd callback _return args) :
    (∀ sent rest, calls.flatten = sent ++ rest → rest ≠ [] → (espProcess e sent).2 = []) ∧
    ∃ e', espProcessCalls e calls
        = (e', [.accepted (if e.eCurCb ≠ 0 then some e.eCurCb else none)]) ∧
      e'.eIsReturn = true ∧ e'.eReturnValue = _return ∧
      le16At e'.eProto.buf 0 = e.eCurCmd ∧ le32At e'.eProto.buf 2 = callback ∧
      le32At e'.eProto.buf 6 = _return ∧ (le16At e'.eProto.buf 10).toNat = args.length ∧
      argsAt e'.eProto.buf args.length 12 = args.map padded := by
  have hbuf : bufSize = 512 := rfl
  have hargc : args.length < 2 ^ 16 := by
    have hlt := length_lt_frameLength args
    omega
  have hround : ∀ data ∈ args, roundUp4 data.length < 512 := by
    intro data hdata
    have hlt := roundUp4_lt_frameLength hdata
    omega
  have hlen : ∀ data ∈ args, data.length + 3 < 2 ^ 16 := by
    intro data hdata
    have hle := le_roundUp4 data.length
    have hlt := hround data hdata
    omega
  have hpad : ∀ data ∈ args.map padded, data.length < 2 ^ 16 := by
    intro data hdata
    obtain ⟨a, ha, rfl⟩ := List.mem_map.mp hdata
    rw [length_padded]
    have hlt := hround a ha
    omega
  rw [requestBytes_eq sender e.eCurCmd callback _return hargc hlen] at hcalls
  refine ⟨fun sent rest hsplit hrest =>
    espProcess_proper_prefix e hrest (hcalls.symm.trans hsplit), ?_⟩
  -- the state in which the last byte finds the parser
  let bytes := packet e.eCurCmd callback _return (args.map padded)
  let e1 : Espduino := { e with eProto := e.eProto.opened.collect (slip.stuff bytes) }
  have hframe : espProcess e (slipStart :: slip.stuff bytes) = (e1, []) :=
    espProcess_frame e (slipStart_not_mem_stuff bytes) (slipEnd_not_mem_stuff bytes)
  have hstored : bytesAt e1.eProto.buf 0 bytes.length = bytes :=
    bytesAt_collect_stuff rfl rfl (by rw [length_packet_padded]; exact hfit)
  have hargc' : (args.map padded).length < 2 ^ 16 := by rwa [List.length_map]
  have hcompleted := espProtoCompletedCb_packet (e := e1) hargc' hpad hstored
  obtain ⟨⟨hcmd, hcallback, hreturn, hcount⟩, hread, -, -⟩ := packet_read hargc' hpad hstored
  rw [hcount, List.length_map] at hread
  rw [List.length_map] at hcount
  rw [espProcessCalls_eq, hcalls, ← List.cons_append, espProcess_append, hframe,
    espProcess_singleton, espProcessByte_end, hcompleted]
  exact ⟨_, rfl, rfl, rfl, hcmd, hcallback, hreturn, hcount, hread⟩

/-- A delimiter as an argument, over two calls, into a buffer of stale bytes. -/
theorem esp_process_request_delimiter :
    let e := espWaitFor (espduinoInit fun _ => 0xAA) 2 0
    let bytes := requestBytes e 2 0 1 [[0x7E]]
    ∃ e', espProcessCalls e [bytes.take 7, bytes.drop 7] = (e', [.accepted none]) ∧
      e'.eIsReturn = true ∧ e'.eReturnValue = 1 ∧
      argsAt e'.eProto.buf 1 12 = [[0x7E, 0, 0, 0]] := by
  intro e bytes
  have hcalls : [bytes.take 7, bytes.drop 7].flatten = bytes := by
    rw [List.flatten_cons, List.flatten_cons, List.flatten_nil, List.append_nil,
      List.take_append_drop]
  have hfit : frameLength [[0x7E]] ≤ bufSize := by decide
  obtain ⟨-, e', hrun, hret, hvalue, -, -, -, -, hargs⟩ :=
    esp_process_request hfit e e 0 1 _ hcalls
  exact ⟨e', hrun, hret, hvalue, hargs⟩

end Esp
