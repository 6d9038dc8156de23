import MynewtArduinoZero.Espduino.Espduino

/-!
# The reads of the packet walk

`esp_proto_completed_cb` takes `argc` and the length of every argument from the
buffer and checks neither against its size.  The addresses it reads are the run
from `e_protobuf` up to the end of the packet (`completedReads_eq`), so they lie
in the buffer exactly where the packet that the buffer announces fits into it.
-/

namespace Esp

open Cells LittleEndian

/-! ## Reads -/

/-- The addresses read from `dataPtr` on: the length and the bytes of every argument, and the
CRC. -/
def walkReads (m : Nat → UInt8) : (argc : Nat) → (dataPtr : Nat) → List Nat
  | 0, dataPtr => List.range' dataPtr 2
  | argc + 1, dataPtr =>
      let len := (le16At m dataPtr).toNat
      List.range' dataPtr 2 ++ List.range' (dataPtr + 2) len
        ++ walkReads m argc (dataPtr + 2 + len)

/-- The addresses, from `e_protobuf`, that `esp_proto_completed_cb` reads. -/
def completedReads (m : Nat → UInt8) : List Nat :=
  List.range' 0 12 ++ walkReads m (le16At m 10).toNat 12

theorem walkReads_eq (m : Nat → UInt8) (argc dataPtr : Nat) :
    walkReads m argc dataPtr
      = List.range' dataPtr ((packetArgs (argsAt m argc dataPtr)).length + 2) := by
  induction argc generalizing dataPtr with
  | zero => rfl
  | succ argc ih =>
      rw [walkReads, ih, argsAt, packetArgs_cons, List.length_append, length_packetArg,
        length_bytesAt, List.range'_append_1, Nat.add_assoc dataPtr, List.range'_append_1]
      congr 1

/-- The reads are the bytes of the packet. -/
theorem completedReads_eq (m : Nat → UInt8) : completedReads m = List.range (packetEnd m) := by
  rw [completedReads, walkReads_eq, ← Nat.zero_add 12, List.range'_append_1,
    List.range_eq_range', packetEnd, Nat.add_assoc 12, Nat.zero_add]

theorem le16At_congr {m m' : Nat → UInt8} {a : Nat} (h : ∀ x, a ≤ x → x < a + 2 → m' x = m x) :
    le16At m' a = le16At m a := by
  rw [le16At, le16At, bytesAt_congr fun i hi => h (a + i) (by omega) (by omega)]

/-- The arguments depend on nothing but what is read. -/
theorem argsAt_congr {m m' : Nat → UInt8} (argc dataPtr : Nat)
    (h : ∀ x, dataPtr ≤ x → x < dataPtr + (packetArgs (argsAt m argc dataPtr)).length →
      m' x = m x) :
    argsAt m' argc dataPtr = argsAt m argc dataPtr := by
  induction argc generalizing dataPtr with
  | zero => rfl
  | succ argc ih =>
      rw [argsAt, packetArgs_cons, List.length_append, length_packetArg, length_bytesAt] at h
      have hlen : le16At m' dataPtr = le16At m dataPtr :=
        le16At_congr fun x hle hlt => h x hle (by omega)
      have hbytes : bytesAt m' (dataPtr + 2) (le16At m dataPtr).toNat
          = bytesAt m (dataPtr + 2) (le16At m dataPtr).toNat :=
        bytesAt_congr fun i hi => h _ (by omega) (by omega)
      have hrest : argsAt m' argc (dataPtr + 2 + (le16At m dataPtr).toNat)
          = argsAt m argc (dataPtr + 2 + (le16At m dataPtr).toNat) :=
        ih _ fun x hle hlt => h x (by omega) (by omega)
      rw [argsAt, argsAt, hlen, hbytes, hrest]

/-- What `esp_proto_completed_cb` does with a packet depends on nothing but what it reads. -/
theorem espProtoCompletedCb_congr (e : Espduino) {m : Nat → UInt8}
    (h : ∀ a ∈ completedReads e.eProto.buf, m a = e.eProto.buf a) :
    (espProtoCompletedCb { e with eProto := { e.eProto with buf := m } }).2
      = (espProtoCompletedCb e).2 := by
  have hread : ∀ x < packetEnd e.eProto.buf, m x = e.eProto.buf x := by
    intro x hx
    exact h x (by rwa [completedReads_eq, List.mem_range])
  have hend : 14 ≤ packetEnd e.eProto.buf := by
    rw [packetEnd]
    omega
  have hargc : le16At m 10 = le16At e.eProto.buf 10 :=
    le16At_congr fun x _ hx => hread x (by omega)
  have hcmd : le16At m 0 = le16At e.eProto.buf 0 := le16At_congr fun x _ hx => hread x (by omega)
  have hheader : bytesAt m 0 12 = bytesAt e.eProto.buf 0 12 :=
    bytesAt_congr fun i hi => hread _ (by omega)
  have hargs : argsAt m (le16At e.eProto.buf 10).toNat 12
      = argsAt e.eProto.buf (le16At e.eProto.buf 10).toNat 12 :=
    argsAt_congr _ _ fun x _ hx => hread x (by rw [packetEnd]; omega)
  have hcrc : le16At m (12 + (packetArgs (argsAt e.eProto.buf
        (le16At e.eProto.buf 10).toNat 12)).length)
      = le16At e.eProto.buf (12 + (packetArgs (argsAt e.eProto.buf
        (le16At e.eProto.buf 10).toNat 12)).length) :=
    le16At_congr fun x _ hx => hread x (by rw [packetEnd]; omega)
  simp only [espProtoCompletedCb, walkArgs_eq, hargc, hcmd, hheader, hargs, hcrc]
  split
  · rfl
  · split <;> rfl

/-! ## The buffer -/

/-- The buffer begins with a header, the arguments that it announces, each behind its length, and
has room for a CRC. -/
def PacketFits (m : Nat → UInt8) : Prop :=
  ∃ args : List (List UInt8), args.length = (le16At m 10).toNat ∧
    (∀ data ∈ args, data.length < 2 ^ 16) ∧
    bytesAt m 12 (packetArgs args).length = packetArgs args ∧
    12 + (packetArgs args).length + 2 ≤ bufSize

theorem packetFits_iff {m : Nat → UInt8} : PacketFits m ↔ packetEnd m ≤ bufSize := by
  constructor
  · rintro ⟨args, hargc, hlen, hargs, hfits⟩
    rwa [packetEnd, ← hargc, argsAt_of_bytesAt hlen hargs]
  · intro h
    exact ⟨argsAt m (le16At m 10).toNat 12, length_argsAt .., length_lt_of_mem_argsAt m _ _,
      bytesAt_argsAt m _ _, h⟩

instance (m : Nat → UInt8) : Decidable (PacketFits m) := decidable_of_iff _ packetFits_iff.symm

/-- `esp_proto_completed_cb` stays in the buffer, and rejects a packet that does not. -/
structure StaysInside (e : Espduino) : Prop where
  reads : ∀ a ∈ completedReads e.eProto.buf, a < bufSize
  rejects : ¬ PacketFits e.eProto.buf → ∀ callback, (espProtoCompletedCb e).2 ≠ .accepted callback

theorem staysInside_iff {e : Espduino} : StaysInside e ↔ PacketFits e.eProto.buf := by
  constructor
  · rintro ⟨hreads, -⟩
    rw [packetFits_iff]
    by_contra hlong
    have hlast := hreads bufSize (by rw [completedReads_eq, List.mem_range]; omega)
    exact absurd hlast (Nat.lt_irrefl _)
  · intro h
    refine ⟨?_, fun hno => absurd h hno⟩
    intro a ha
    rw [completedReads_eq, List.mem_range] at ha
    exact Nat.lt_of_lt_of_le ha (packetFits_iff.mp h)

/-- The states in which `esp_process` calls `esp_proto_completed_cb`. -/
def completedIn : (e : Espduino) → (bytes : List UInt8) → List Espduino
  | _, [] => []
  | e, value :: bytes =>
      (if value = slipEnd then [e] else []) ++ completedIn (espProcessByte e value).1 bytes

/-- For whatever the parser holds and whatever arrives: the packet walks stay inside the buffer, and
reject what does not, exactly when every packet that is handed over fits into the buffer. -/
theorem walks_inside_iff (e : Espduino) (bytes : List UInt8) :
    (∀ c ∈ completedIn e bytes, StaysInside c) ↔
      ∀ c ∈ completedIn e bytes, PacketFits c.eProto.buf :=
  forall₂_congr fun _ _ => staysInside_iff

/-- One argument of 500 bytes is announced, of which none arrives. -/
def longFrame : List UInt8 := [slipStart] ++ List.replicate 10 0 ++ [1, 0, 0xF4, 1] ++ [slipEnd]

/-- The walk over the frame reads 4 bytes behind the buffer, and with two of them as a CRC that
fits, the packet is accepted. -/
theorem walks_outside_longFrame :
    ∃ behind, ∃ c ∈ completedIn (espduinoInit behind) longFrame,
      515 ∈ completedReads c.eProto.buf ∧ (espProtoCompletedCb c).2 = .accepted none ∧
        ¬ StaysInside c := by
  refine ⟨fun i => if i = 514 then 0xAA else if i = 515 then 2 else 0, _,
    List.mem_singleton.mpr rfl, ?_, by decide +kernel, ?_⟩
  · rw [completedReads_eq, List.mem_range]
    decide +kernel
  · intro h
    exact absurd (staysInside_iff.mp h) (by decide +kernel)

end Esp
