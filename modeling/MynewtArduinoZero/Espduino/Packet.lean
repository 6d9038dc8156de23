import MynewtArduinoZero.Lib.LittleEndian

/-!
# Packets

A packet is a `struct PACKET_CMD`: the command, the callback word, the `_return`
word and the argument count, then each argument behind its 16-bit length, then
the 16-bit CRC of all that.  The structure is packed and its words are little
endian.

`packet` writes a packet down.  The receiver never sees it as a list: it walks
the memory behind `e_protobuf` and lets each length say where the next argument
is (`walkArgs`).  The two are related in both directions: the walk crosses what
`packetArgs` wrote (`argsAt_of_bytesAt`), and whatever it crosses is what
`packetArgs` writes for the arguments read on the way (`bytesAt_argsAt`).
-/

namespace Esp

open Cells LittleEndian

/-! ## The CRC -/

/-- `crc16_add`. -/
def crc16Add (b : UInt8) (acc : UInt16) : UInt16 :=
  let acc := acc ^^^ b.toUInt16
  let acc := (acc >>> 8) ||| (acc <<< 8)
  let acc := acc ^^^ ((acc &&& 0xff00) <<< 4)
  let acc := acc ^^^ ((acc >>> 8) >>> 4)
  acc ^^^ ((acc &&& 0xff00) >>> 5)

/-- `crc16_data`. -/
def crc16Data (data : List UInt8) (acc : UInt16) : UInt16 :=
  data.foldl (fun acc b => crc16Add b acc) acc

/-- The CRC over two pieces is the running CRC. -/
theorem crc16Data_append (s t : List UInt8) (acc : UInt16) :
    crc16Data (s ++ t) acc = crc16Data t (crc16Data s acc) :=
  List.foldl_append

/-! ## Packets as lists -/

/-- The header before the arguments, with `argc` arguments announced. -/
def packetHeader (cmd : UInt16) (callback _return : UInt32) (argc : Nat) : List UInt8 :=
  leBytes 2 cmd.toNat ++ (leBytes 4 callback.toNat ++ (leBytes 4 _return.toNat ++ leBytes 2 argc))

/-- One argument behind its length. -/
def packetArg (data : List UInt8) : List UInt8 := leBytes 2 data.length ++ data

/-- The arguments, each behind its length. -/
def packetArgs (args : List (List UInt8)) : List UInt8 := args.flatMap packetArg

/-- All of a packet but the CRC. -/
def packetBody (cmd : UInt16) (callback _return : UInt32) (args : List (List UInt8)) :
    List UInt8 :=
  packetHeader cmd callback _return args.length ++ packetArgs args

/-- A packet. -/
def packet (cmd : UInt16) (callback _return : UInt32) (args : List (List UInt8)) : List UInt8 :=
  packetBody cmd callback _return args
    ++ leBytes 2 (crc16Data (packetBody cmd callback _return args) 0).toNat

/-- The bytes begin with a complete packet for `cmd`. -/
def CompletePacket (cmd : UInt16) (bytes : List UInt8) : Prop :=
  ∃ callback _return args, args.length < 2 ^ 16 ∧ (∀ data ∈ args, data.length < 2 ^ 16) ∧
    packet cmd callback _return args <+: bytes

@[simp] theorem length_packetHeader (cmd : UInt16) (callback _return : UInt32) (argc : Nat) :
    (packetHeader cmd callback _return argc).length = 12 := by
  simp [packetHeader]

@[simp] theorem length_packetArg (data : List UInt8) :
    (packetArg data).length = 2 + data.length := by
  simp [packetArg]

theorem packetArgs_cons (data : List UInt8) (args : List (List UInt8)) :
    packetArgs (data :: args) = packetArg data ++ packetArgs args := rfl

theorem length_packet (cmd : UInt16) (callback _return : UInt32) (args : List (List UInt8)) :
    (packet cmd callback _return args).length = 12 + (packetArgs args).length + 2 := by
  simp [packet, packetBody, Nat.add_assoc]

/-! ## Packets in memory -/

/-- The `while (argc--)` loop of `esp_proto_completed_cb`: the CRC and the pointer when
it ends. -/
def walkArgs (m : Nat → UInt8) : (argc : Nat) → (dataPtr : Nat) → (crc : UInt16) → UInt16 × Nat
  | 0, dataPtr, crc => (crc, dataPtr)
  | argc + 1, dataPtr, crc =>
      let len := (le16At m dataPtr).toNat
      let crc := crc16Data (bytesAt m dataPtr 2) crc
      let dataPtr := dataPtr + 2
      let crc := crc16Data (bytesAt m dataPtr len) crc
      walkArgs m argc (dataPtr + len) crc

/-- The `argc` arguments read from `dataPtr`. -/
def argsAt (m : Nat → UInt8) : (argc : Nat) → (dataPtr : Nat) → List (List UInt8)
  | 0, _ => []
  | argc + 1, dataPtr =>
      let len := (le16At m dataPtr).toNat
      bytesAt m (dataPtr + 2) len :: argsAt m argc (dataPtr + 2 + len)

/-- Where the packet in memory ends, by its argument count and its lengths. -/
def packetEnd (m : Nat → UInt8) : Nat :=
  12 + (packetArgs (argsAt m (le16At m 10).toNat 12)).length + 2

@[simp] theorem length_argsAt (m : Nat → UInt8) : ∀ argc dataPtr,
    (argsAt m argc dataPtr).length = argc
  | 0, _ => rfl
  | argc + 1, dataPtr => by rw [argsAt, List.length_cons, length_argsAt m argc]

/-- An argument in memory is no longer than a 16-bit length. -/
theorem length_lt_of_mem_argsAt (m : Nat → UInt8) : ∀ argc dataPtr,
    ∀ data ∈ argsAt m argc dataPtr, data.length < 2 ^ 16
  | argc + 1, dataPtr, data, h => by
      rcases List.mem_cons.mp h with rfl | h
      · rw [length_bytesAt]
        exact (le16At m dataPtr).toNat_lt
      · exact length_lt_of_mem_argsAt m argc _ data h

/-- An argument in memory, behind its length. -/
theorem packetArg_bytesAt (m : Nat → UInt8) (dataPtr : Nat) :
    packetArg (bytesAt m (dataPtr + 2) (le16At m dataPtr).toNat)
      = bytesAt m dataPtr (2 + (le16At m dataPtr).toNat) := by
  rw [packetArg, length_bytesAt, leBytes_le16At, bytesAt_add]

/-- What the walk crosses is what is written for the arguments it reads. -/
theorem bytesAt_argsAt (m : Nat → UInt8) : ∀ argc dataPtr,
    bytesAt m dataPtr (packetArgs (argsAt m argc dataPtr)).length
      = packetArgs (argsAt m argc dataPtr)
  | 0, _ => rfl
  | argc + 1, dataPtr => by
      have ih := bytesAt_argsAt m argc (dataPtr + 2 + (le16At m dataPtr).toNat)
      rw [argsAt, packetArgs_cons, List.length_append, bytesAt_add, length_packetArg,
        length_bytesAt, ← Nat.add_assoc, ih, packetArg_bytesAt]

/-- The walk computes the CRC of what it crosses. -/
theorem walkArgs_eq (m : Nat → UInt8) : ∀ argc dataPtr crc,
    walkArgs m argc dataPtr crc
      = (crc16Data (packetArgs (argsAt m argc dataPtr)) crc,
          dataPtr + (packetArgs (argsAt m argc dataPtr)).length)
  | 0, _, _ => rfl
  | argc + 1, dataPtr, crc => by
      rw [walkArgs, walkArgs_eq m argc, argsAt, packetArgs_cons, crc16Data_append,
        packetArg_bytesAt, bytesAt_add, crc16Data_append, List.length_append, List.length_append,
        length_bytesAt, length_bytesAt]
      simp only [Nat.add_assoc]

/-- The walk reads back the arguments that were written. -/
theorem argsAt_of_bytesAt {m : Nat → UInt8} : ∀ {args : List (List UInt8)} {dataPtr : Nat},
    (∀ data ∈ args, data.length < 2 ^ 16) →
    bytesAt m dataPtr (packetArgs args).length = packetArgs args →
    argsAt m args.length dataPtr = args
  | [], _, _, _ => rfl
  | data :: args, dataPtr, hlen, h => by
      rw [packetArgs_cons, List.length_append] at h
      obtain ⟨harg, hrest⟩ := bytesAt_eq_append h
      rw [length_packetArg] at hrest harg
      obtain ⟨hl, hd⟩ := bytesAt_eq_append (s := leBytes 2 data.length) (t := data) harg
      rw [length_leBytes] at hl hd
      have hlen2 : (le16At m dataPtr).toNat = data.length :=
        le16At_toNat_of_bytesAt (hlen data List.mem_cons_self) hl
      have ih := argsAt_of_bytesAt (fun d hd => hlen d (List.mem_cons_of_mem data hd)) hrest
      rw [List.length_cons, argsAt, hlen2, hd, Nat.add_assoc, ih]

section Header

variable {m : Nat → UInt8} {cmd : UInt16} {callback _return : UInt32}

/-- The words of a header that lies at the front of the buffer. -/
theorem header_of_bytesAt {argc : Nat} (hargc : argc < 2 ^ 16)
    (h : bytesAt m 0 12 = packetHeader cmd callback _return argc) :
    le16At m 0 = cmd ∧ le32At m 2 = callback ∧ le32At m 6 = _return ∧
      (le16At m 10).toNat = argc := by
  obtain ⟨hcmd, h⟩ := bytesAt_eq_append h
  obtain ⟨hcallback, h⟩ := bytesAt_eq_append h
  obtain ⟨hreturn, hargs⟩ := bytesAt_eq_append h
  simp only [length_leBytes, Nat.zero_add, Nat.reduceAdd] at hcmd hcallback hreturn hargs
  exact ⟨le16At_eq_of_bytesAt hcmd, le32At_eq_of_bytesAt hcallback,
    le32At_eq_of_bytesAt hreturn, le16At_toNat_of_bytesAt hargc hargs⟩

/-- The header at the front of the buffer, from its words. -/
theorem packetHeader_le16At (m : Nat → UInt8) :
    packetHeader (le16At m 0) (le32At m 2) (le32At m 6) (le16At m 10).toNat
      = bytesAt m 0 12 := by
  rw [packetHeader, leBytes_le16At, leBytes_le32At, leBytes_le32At, leBytes_le16At,
    ← bytesAt_add m 6 4 2, ← bytesAt_add m 2 4 6, show bytesAt m 2 (4 + (4 + 2)) =
      bytesAt m (0 + 2) 10 from rfl, ← bytesAt_add m 0 2 10]

end Header

/-- The body of the packet that lies at the front of the buffer. -/
theorem packetBody_argsAt (m : Nat → UInt8) :
    packetBody (le16At m 0) (le32At m 2) (le32At m 6) (argsAt m (le16At m 10).toNat 12)
      = bytesAt m 0 (12 + (packetArgs (argsAt m (le16At m 10).toNat 12)).length) := by
  rw [packetBody, length_argsAt, packetHeader_le16At, bytesAt_add, Nat.zero_add,
    bytesAt_argsAt]

/-- A packet at the front of the buffer is read back: its words, its arguments and its
end. -/
theorem packet_read {m : Nat → UInt8} {cmd : UInt16} {callback _return : UInt32}
    {args : List (List UInt8)} (hargc : args.length < 2 ^ 16)
    (hlen : ∀ data ∈ args, data.length < 2 ^ 16)
    (h : bytesAt m 0 (packet cmd callback _return args).length
      = packet cmd callback _return args) :
    (le16At m 0 = cmd ∧ le32At m 2 = callback ∧ le32At m 6 = _return ∧
      (le16At m 10).toNat = args.length) ∧
    argsAt m (le16At m 10).toNat 12 = args ∧
    packetEnd m = (packet cmd callback _return args).length ∧
    le16At m (12 + (packetArgs args).length) =
      crc16Data (packetBody cmd callback _return args) 0 := by
  obtain ⟨hbody, hcrc⟩ := bytesAt_eq_append h
  obtain ⟨hheader, hargs⟩ := bytesAt_eq_append hbody
  rw [length_packetHeader, Nat.zero_add] at hargs
  rw [length_packetHeader] at hheader
  have hwords := header_of_bytesAt hargc hheader
  have hread : argsAt m (le16At m 10).toNat 12 = args := by
    rw [hwords.2.2.2]
    exact argsAt_of_bytesAt hlen hargs
  refine ⟨hwords, hread, ?_, ?_⟩
  · rw [packetEnd, hread, length_packet]
  · rw [length_leBytes, packetBody, List.length_append, length_packetHeader, Nat.zero_add]
      at hcrc
    exact le16At_eq_of_bytesAt hcrc

end Esp
