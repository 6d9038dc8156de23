import Mathlib.Tactic.Common
import MynewtArduinoZero.Espduino.Bounds
import MynewtArduinoZero.Espduino.Request
import MynewtArduinoZero.Lib.Checksum

/-!
# Short bursts

A step of the CRC is linear in the accumulator with the byte added to it.  Its
upper half depends on the lower half of that alone, and determines it, so two
bytes in a row can be read off the CRC.  A corruption that leaves the argument
count and the lengths alone leaves the walk alone, and the CRC is computed over
the same addresses.
-/

namespace Esp

open Cells LittleEndian Checksum

/-! ## A step of the CRC -/

/-- `(acc >> 8) | (acc << 8)`. -/
def swapHalves (x : UInt16) : UInt16 := (x >>> 8) ||| (x <<< 8)

/-- `crc16_add` behind its first line. -/
def crc16Spread (acc : UInt16) : UInt16 :=
  let acc := swapHalves acc
  let acc := acc ^^^ ((acc &&& 0xff00) <<< 4)
  let acc := acc ^^^ ((acc >>> 8) >>> 4)
  acc ^^^ ((acc &&& 0xff00) >>> 5)

theorem crc16Add_eq (b : UInt8) (acc : UInt16) :
    crc16Add b acc = crc16Spread (acc ^^^ b.toUInt16) := rfl

theorem xor_land (x y z : UInt16) : (x ^^^ y) &&& z = (x &&& z) ^^^ (y &&& z) := by
  rw [← UInt16.toBitVec_inj]
  ext i hi
  simp [Bool.and_xor_distrib_right]

/-- The two halves do not meet. -/
theorem swapHalves_eq_xor (x : UInt16) : swapHalves x = (x >>> 8) ^^^ (x <<< 8) := by
  rw [swapHalves, ← UInt16.toBitVec_inj]
  ext i hi
  by_cases h : i < 8
  · simp [h]
  · simp [h, BitVec.getLsbD_of_ge x.toBitVec (8 + i) (by omega)]

theorem crc16Spread_xor (x y : UInt16) :
    crc16Spread (x ^^^ y) = crc16Spread x ^^^ crc16Spread y := by
  have hswap : swapHalves (x ^^^ y) = swapHalves x ^^^ swapHalves y := by
    simp only [swapHalves_eq_xor, UInt16.shiftRight_xor, UInt16.shiftLeft_xor]
    ac_rfl
  simp only [crc16Spread, hswap, UInt16.shiftRight_xor, UInt16.shiftLeft_xor, xor_land]
  ac_rfl

/-- The lower and the upper half of a word. -/
def lo (x : UInt16) : UInt8 := x.toUInt8

def hi (x : UInt16) : UInt8 := (x >>> 8).toUInt8

theorem eq_lo_xor_hi (x : UInt16) : x = (lo x).toUInt16 ^^^ ((hi x).toUInt16 <<< 8) := by
  rw [← UInt16.toBitVec_inj]
  ext i hi
  simp only [lo, Esp.hi, UInt16.toBitVec_xor, UInt8.toBitVec_toUInt16, UInt16.toBitVec_toUInt8,
    UInt16.toBitVec_shiftLeft, UInt16.toBitVec_shiftRight]
  by_cases h : i < 8
  · simp [h, BitVec.getLsbD_eq_getElem hi]
  · simp [h]
    grind

theorem hi_xor (x y : UInt16) : hi (x ^^^ y) = hi x ^^^ hi y := by
  simp [hi, UInt16.shiftRight_xor]

theorem lo_xor (x y : UInt16) : lo (x ^^^ y) = lo x ^^^ lo y := by
  simp [lo]

theorem ofNat_toNat_lt (b : UInt8) : ∃ n : Fin 256, UInt8.ofNat n = b :=
  ⟨⟨b.toNat, b.toNat_lt⟩, UInt8.ofNat_toNat⟩

theorem hi_toUInt16 (b : UInt8) : hi b.toUInt16 = 0 := by
  obtain ⟨n, rfl⟩ := ofNat_toNat_lt b
  revert n
  decide +kernel

theorem lo_toUInt16 (b : UInt8) : lo b.toUInt16 = b := by simp [lo]

/-- The upper half goes to the lower one. -/
theorem crc16Spread_shiftLeft (b : UInt8) : crc16Spread (b.toUInt16 <<< 8) = b.toUInt16 := by
  obtain ⟨n, rfl⟩ := ofNat_toNat_lt b
  revert n
  decide +kernel

theorem crc16Spread_eq (x : UInt16) :
    crc16Spread x = crc16Spread (lo x).toUInt16 ^^^ (hi x).toUInt16 := by
  conv_lhs => rw [eq_lo_xor_hi x, crc16Spread_xor, crc16Spread_shiftLeft]

/-- From the upper half of a step's result, the lower half of what it was made of. -/
def unspread (h : UInt8) : UInt8 :=
  let y := h ^^^ (h >>> 5)
  y ^^^ (y <<< 4)

theorem unspread_hi_crc16Spread (b : UInt8) : unspread (hi (crc16Spread b.toUInt16)) = b := by
  obtain ⟨n, rfl⟩ := ofNat_toNat_lt b
  revert n
  decide +kernel

/-- The upper half of a step's result depends on the lower half of what it is made of, and
determines it. -/
theorem unspread_hi (x : UInt16) : unspread (hi (crc16Spread x)) = lo x := by
  rw [crc16Spread_eq, hi_xor, hi_toUInt16, UInt8.xor_zero, unspread_hi_crc16Spread]

theorem crc16Spread_injective {x y : UInt16} (h : crc16Spread x = crc16Spread y) : x = y := by
  have hlo : lo x = lo y := by rw [← unspread_hi x, h, unspread_hi]
  have hboth := h
  rw [crc16Spread_eq x, crc16Spread_eq y, hlo] at hboth
  have hhi : hi x = hi y := by
    have := congrArg lo (UInt16.xor_right_inj _ |>.mp hboth)
    rwa [lo_toUInt16, lo_toUInt16] at this
  rw [eq_lo_xor_hi x, eq_lo_xor_hi y, hlo, hhi]

/-- The CRC tells accumulators apart, and any two pairs of bytes. -/
theorem crc16_detecting : Detecting fun acc b => crc16Add b acc where
  acc := by
    intro a a' b h
    rw [crc16Add_eq, crc16Add_eq] at h
    exact UInt16.xor_left_inj _ |>.mp (crc16Spread_injective h)
  two := by
    intro a b b' c d h
    rw [crc16Add_eq c, crc16Add_eq d] at h
    have hacc := crc16Spread_injective h
    have hfirst : b = b' := by
      have hhi := congrArg hi hacc
      rw [hi_xor, hi_xor, hi_toUInt16, hi_toUInt16, UInt8.xor_zero, UInt8.xor_zero, crc16Add_eq,
        crc16Add_eq] at hhi
      have hlo := congrArg unspread hhi
      rw [unspread_hi, unspread_hi, lo_xor, lo_xor, lo_toUInt16, lo_toUInt16] at hlo
      exact UInt8.xor_right_inj _ |>.mp hlo
    subst hfirst
    refine ⟨rfl, ?_⟩
    have hlo := congrArg lo (UInt16.xor_right_inj _ |>.mp hacc)
    rwa [lo_toUInt16, lo_toUInt16] at hlo

/-! ## The walk -/

/-- Where the data of the arguments is: the address and the length of each. -/
def argSpans (m : Nat → UInt8) : (argc : Nat) → (dataPtr : Nat) → List (Nat × Nat)
  | 0, _ => []
  | argc + 1, dataPtr =>
      (dataPtr + 2, (le16At m dataPtr).toNat) ::
        argSpans m argc (dataPtr + 2 + (le16At m dataPtr).toNat)

/-- An address in the data of an argument. -/
def InData (spans : List (Nat × Nat)) (a : Nat) : Prop := ∃ s ∈ spans, s.1 ≤ a ∧ a < s.1 + s.2

theorem length_packetArgs_argSpans (m : Nat → UInt8) (argc dataPtr : Nat) :
    (packetArgs (argsAt m argc dataPtr)).length
      = ((argSpans m argc dataPtr).map fun s => 2 + s.2).sum := by
  induction argc generalizing dataPtr with
  | zero => rfl
  | succ argc ih =>
      rw [argsAt, packetArgs_cons, List.length_append, length_packetArg, length_bytesAt, ih,
        argSpans, List.map_cons, List.sum_cons]

/-- The data of an argument is behind its length, and ends before the arguments do. -/
theorem argSpans_bounds (m : Nat → UInt8) {argc dataPtr : Nat} {s : Nat × Nat}
    (hs : s ∈ argSpans m argc dataPtr) :
    dataPtr + 2 ≤ s.1 ∧ s.1 + s.2 ≤ dataPtr + (packetArgs (argsAt m argc dataPtr)).length := by
  induction argc generalizing dataPtr with
  | zero => cases hs
  | succ argc ih =>
      rw [argsAt, packetArgs_cons, List.length_append, length_packetArg, length_bytesAt]
      rcases List.mem_cons.mp hs with rfl | hs
      · dsimp only
        omega
      · have hrest := ih hs
        omega

/-- The walk goes by the lengths alone. -/
theorem argSpans_congr {m m' : Nat → UInt8} {argc dataPtr : Nat}
    (h : ∀ a, dataPtr ≤ a → a < dataPtr + (packetArgs (argsAt m argc dataPtr)).length →
      ¬ InData (argSpans m argc dataPtr) a → m' a = m a) :
    argSpans m' argc dataPtr = argSpans m argc dataPtr := by
  induction argc generalizing dataPtr with
  | zero => rfl
  | succ argc ih =>
      have hlen : le16At m' dataPtr = le16At m dataPtr := by
        refine le16At_congr fun a hle hlt => h a hle ?_ ?_
        · rw [argsAt, packetArgs_cons, List.length_append, length_packetArg]
          omega
        · rintro ⟨s, hs, hsa, -⟩
          have hbounds := (argSpans_bounds m hs).1
          omega
      rw [argSpans, argSpans, hlen]
      rw [argsAt, packetArgs_cons, List.length_append, length_packetArg, length_bytesAt] at h
      rw [ih fun a hle hlt hnot => h a (by omega) (by omega) ?_]
      rintro ⟨s, hs, hsa⟩
      rcases List.mem_cons.mp hs with rfl | hs
      · dsimp only at hsa
        omega
      · exact hnot ⟨s, hs, hsa⟩

/-! ## Bursts -/

/-- Where the CRC of the packet is. -/
def crcAt (m : Nat → UInt8) : Nat := 12 + (packetArgs (argsAt m (le16At m 10).toNat 12)).length

/-- A copy has another byte at an address of the packet at the front of the buffer. -/
def Changed (m m' : Nat → UInt8) (a : Nat) : Prop := a < packetEnd m ∧ m' a ≠ m a

/-- A copy differs from the packet in one byte or in two adjacent ones, in the header before the
argument count or in the data of one argument. -/
structure Burst (m m' : Nat → UInt8) : Prop where
  differs : ∃ a, Changed m m' a
  short : ∃ k, ∀ a, Changed m m' a → a = k ∨ a = k + 1
  inside : (∀ a, Changed m m' a → a < 10) ∨
    ∃ s ∈ argSpans m (le16At m 10).toNat 12, ∀ a, Changed m m' a → s.1 ≤ a ∧ a < s.1 + s.2

/-- The CRC of the packet is the one computed. -/
def CrcValid (m : Nat → UInt8) : Prop := crc16Data (bytesAt m 0 (crcAt m)) 0 = le16At m (crcAt m)

theorem walkArgs_crc (m : Nat → UInt8) :
    walkArgs m (le16At m 10).toNat 12 (crc16Data (bytesAt m 0 12) 0)
      = (crc16Data (bytesAt m 0 (crcAt m)) 0, crcAt m) := by
  rw [walkArgs_eq, crcAt, bytesAt_add, crc16Data_append, Nat.zero_add, bytesAt_argsAt]

/-- A packet is rejected unless its CRC is valid. -/
theorem espProtoCompletedCb_invalid {e : Espduino} (h : ¬ CrcValid e.eProto.buf) :
    espProtoCompletedCb e = (e, .invalidCrc) := by
  simp only [espProtoCompletedCb, walkArgs_crc]
  exact if_pos h

theorem crcValid_of_accepted {e : Espduino} {callback : Option UInt32}
    (h : (espProtoCompletedCb e).2 = .accepted callback) : CrcValid e.eProto.buf := by
  by_contra hinvalid
  rw [espProtoCompletedCb_invalid hinvalid] at h
  cases h

variable {m m' : Nat → UInt8}

theorem packetEnd_eq_crcAt (m : Nat → UInt8) : packetEnd m = crcAt m + 2 := rfl

theorem Burst.inBody (h : Burst m m') {a : Nat} (ha : Changed m m' a) :
    a < 10 ∨ InData (argSpans m (le16At m 10).toNat 12) a := by
  rcases h.inside with hheader | ⟨s, hs, hdata⟩
  · exact .inl (hheader a ha)
  · exact .inr ⟨s, hs, hdata a ha⟩

/-- A burst lies before the CRC. -/
theorem Burst.lt_crcAt (h : Burst m m') {a : Nat} (ha : Changed m m' a) : a < crcAt m := by
  rw [crcAt]
  rcases h.inBody ha with hheader | ⟨s, hs, hsa⟩
  · omega
  · have hbounds := (argSpans_bounds m hs).2
    omega

/-- What is neither header nor data stays. -/
theorem Burst.same (h : Burst m m') {a : Nat} (hheader : 10 ≤ a) (hlt : a < packetEnd m)
    (hdata : ¬ InData (argSpans m (le16At m 10).toNat 12) a) : m' a = m a := by
  by_contra ha
  rcases h.inBody ⟨hlt, ha⟩ with hlt | hin
  · omega
  · exact hdata hin

theorem Burst.argc (h : Burst m m') : le16At m' 10 = le16At m 10 := by
  have hend := packetEnd_eq_crcAt m
  have hcrc : 12 ≤ crcAt m := Nat.le_add_right _ _
  refine le16At_congr fun a hle hlt => h.same hle (by omega) ?_
  rintro ⟨s, hs, hsa, -⟩
  have hbounds := (argSpans_bounds m hs).1
  omega

/-- A burst leaves the walk alone. -/
theorem Burst.crcAt_eq (h : Burst m m') : crcAt m' = crcAt m := by
  have hspans : argSpans m' (le16At m 10).toNat 12 = argSpans m (le16At m 10).toNat 12 :=
    argSpans_congr fun a hle hlt hdata =>
      h.same (by omega) (by rw [packetEnd_eq_crcAt, crcAt]; omega) hdata
  rw [crcAt, crcAt, h.argc, length_packetArgs_argSpans, length_packetArgs_argSpans, hspans]

theorem Burst.crc_eq (h : Burst m m') : le16At m' (crcAt m) = le16At m (crcAt m) := by
  refine le16At_congr fun a hle hlt => ?_
  by_contra ha
  have hbefore := h.lt_crcAt ⟨by rw [packetEnd_eq_crcAt]; exact hlt, ha⟩
  omega

/-- The CRC of a copy that a burst has changed is not valid. -/
theorem Burst.not_crcValid (h : Burst m m') (hvalid : CrcValid m) : ¬ CrcValid m' := by
  intro hvalid'
  obtain ⟨a, ha⟩ := h.differs
  obtain ⟨k, hk⟩ := h.short
  rw [CrcValid, h.crcAt_eq, h.crc_eq, ← hvalid] at hvalid'
  refine ha.2 (crc16_detecting.eq_of_foldl_eq (k := k) (fun x hlt hx hx' => ?_) hvalid' a
    (h.lt_crcAt ha))
  by_contra hne
  rcases hk x ⟨by rw [packetEnd_eq_crcAt]; omega, hne⟩ with rfl | rfl
  · exact hx rfl
  · exact hx' rfl

/-- A packet that is accepted is rejected in every copy that a short burst has changed, by any
receiver: it keeps its state, and nothing is called. -/
theorem espProtoCompletedCb_burst {e e' : Espduino} {callback : Option UInt32}
    (haccepted : (espProtoCompletedCb e).2 = .accepted callback)
    (hburst : Burst e.eProto.buf e'.eProto.buf) :
    espProtoCompletedCb e' = (e', .invalidCrc) :=
  espProtoCompletedCb_invalid (hburst.not_crcValid (crcValid_of_accepted haccepted))

/-- A receiver with a packet of one argument, and with two bytes of it changed. -/
def packetEsp : Espduino :=
  let e := espWaitFor (espduinoInit fun _ => 0) 2 0
  { e with eProto := { e.eProto with buf := overlay (fun _ => 0) 0 (packet 2 0 1 [[5, 6, 7, 8]]) } }

def burstEsp : Espduino :=
  { packetEsp with
    eProto := { packetEsp.eProto with
      buf := Function.update (Function.update packetEsp.eProto.buf 15 0) 16 1 } }

theorem espProtoCompletedCb_burst_two :
    (espProtoCompletedCb packetEsp).2 = .accepted none ∧
      espProtoCompletedCb burstEsp = (burstEsp, .invalidCrc) := by
  have haccepted : (espProtoCompletedCb packetEsp).2 = .accepted none := by
    rw [@espProtoCompletedCb_packet packetEsp 0 1 [[5, 6, 7, 8]] (by decide) (by decide)
      (bytesAt_overlay _ 0 _)]
    rfl
  have hchanged : ∀ a, Changed packetEsp.eProto.buf burstEsp.eProto.buf a →
      a = 15 ∨ a = 15 + 1 := by
    rintro a ⟨-, ha⟩
    by_contra hne
    obtain ⟨h15, h16⟩ := not_or.mp hne
    simp [burstEsp, Function.update_of_ne h15, Function.update_of_ne h16] at ha
  refine ⟨haccepted, espProtoCompletedCb_burst haccepted
    ⟨⟨15, by decide, by decide⟩, ⟨15, hchanged⟩, .inr ?_⟩⟩
  refine ⟨(14, 4), by decide, fun a ha => ?_⟩
  rcases hchanged a ha with rfl | rfl <;> decide

end Esp
