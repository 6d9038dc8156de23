import MynewtArduinoZero.Espduino.Request

/-!
# The encoding of an argument

`esp_request_cont` computes the padded length in 16 bits.  For the last three
lengths the sum wraps around and the length that is sent is 0, while the data
and the padding are sent as for `2 ^ 16`.  The receiver's walk goes by the
lengths, so it takes the data of such an argument for the arguments behind it.
-/

namespace Esp

open Cells LittleEndian Stuffing

/-! ## One argument -/

/-- A length that an argument of `len` bytes can be padded to. -/
def PadsTo (len p : UInt16) : Prop :=
  p.toNat % 4 = 0 ∧ len.toNat ≤ p.toNat ∧ p.toNat < len.toNat + 4

/-- An argument of `len` bytes, padded to `p`, behind its length. -/
def argBytes (data : List UInt8) (len p : UInt16) : List UInt8 :=
  leBytes 2 p.toNat ++ (data.take len.toNat ++ List.replicate (p.toNat - len.toNat) 0)

/-- The call sends the padded argument behind its length and continues the CRC over it, or it sends
nothing because there is no such length. -/
def Consistent (crc : UInt16) (data : List UInt8) (len : UInt16) : Prop :=
  (∃ p, PadsTo len p ∧
      slip.unstuff false (espRequestCont crc data len).1 = argBytes data len p ∧
      (espRequestCont crc data len).2 = crc16Data (argBytes data len p) crc) ∨
    (∀ p, ¬ PadsTo len p) ∧ (espRequestCont crc data len).1 = []

/-- What is sent for an argument, before the escapes. -/
def contBytes (data : List UInt8) (len : UInt16) : List UInt8 :=
  leBytes 2 (padLen len).toNat ++
    (data.take len.toNat ++ List.replicate (padLen len - len).toNat 0)

theorem espRequestCont_contBytes (crc : UInt16) (data : List UInt8) (len : UInt16) :
    espRequestCont crc data len
      = (slip.stuff (contBytes data len), crc16Data (contBytes data len) crc) := by
  simp only [espRequestCont, espWriteCrc_eq, ← Scheme.stuff_append, ← crc16Data_append, contBytes,
    List.append_assoc]

theorem unstuff_espRequestCont (crc : UInt16) (data : List UInt8) (len : UInt16) :
    slip.unstuff false (espRequestCont crc data len).1 = contBytes data len := by
  rw [espRequestCont_contBytes, slip.unstuff_stuff]

theorem padLen_of_le {len : UInt16} (h : len.toNat ≤ 65532) :
    (padLen len).toNat = roundUp4 len.toNat := by
  have hpad := padLen_toNat (n := len.toNat) (by omega)
  rwa [UInt16.ofNat_toNat] at hpad

/-- The three lengths that wrap around. -/
theorem padLen_of_gt {len : UInt16} (h : 65532 < len.toNat) : padLen len = 0 := by
  have hlt := len.toNat_lt
  obtain h | h | h : len.toNat = 65533 ∨ len.toNat = 65534 ∨ len.toNat = 65535 := by omega
  · rw [show len = 65533 from UInt16.toNat_inj.mp h]
    decide
  · rw [show len = 65534 from UInt16.toNat_inj.mp h]
    decide
  · rw [show len = 65535 from UInt16.toNat_inj.mp h]
    decide

theorem padsTo_padLen {len : UInt16} (h : len.toNat ≤ 65532) : PadsTo len (padLen len) := by
  rw [PadsTo, padLen_of_le h, roundUp4]
  omega

theorem not_padsTo {len : UInt16} (h : 65532 < len.toNat) (p : UInt16) : ¬ PadsTo len p := by
  have hlt := p.toNat_lt
  rintro ⟨halign, hle, -⟩
  omega

theorem contBytes_of_le {len : UInt16} (h : len.toNat ≤ 65532) (data : List UInt8) :
    contBytes data len = argBytes data len (padLen len) := by
  have hle : len ≤ padLen len := UInt16.le_iff_toNat_le.mpr (padsTo_padLen h).2.1
  rw [contBytes, argBytes, UInt16.toNat_sub_of_le _ _ hle]

theorem contBytes_ne_nil (data : List UInt8) (len : UInt16) : contBytes data len ≠ [] := by
  intro h
  have hlen := congrArg List.length h
  rw [contBytes, List.length_append, length_leBytes, List.length_nil] at hlen
  omega

/-- Something is sent for every argument. -/
theorem espRequestCont_sent_ne_nil (crc : UInt16) (data : List UInt8) (len : UInt16) :
    (espRequestCont crc data len).1 ≠ [] := by
  intro h
  have hunstuff := unstuff_espRequestCont crc data len
  rw [h, Scheme.unstuff_nil] at hunstuff
  exact contBytes_ne_nil data len hunstuff.symm

theorem consistent_iff (crc : UInt16) (data : List UInt8) (len : UInt16) :
    Consistent crc data len ↔ len.toNat ≤ 65532 := by
  constructor
  · rintro (⟨p, hp, -, -⟩ | ⟨-, hnil⟩)
    · by_contra hgt
      exact not_padsTo (Nat.not_le.mp hgt) p hp
    · exact absurd hnil (espRequestCont_sent_ne_nil crc data len)
  · intro h
    refine .inl ⟨padLen len, padsTo_padLen h, ?_, ?_⟩
    · rw [unstuff_espRequestCont, contBytes_of_le h]
    · rw [espRequestCont_contBytes, contBytes_of_le h]

/-! ## A frame -/

/-- The bytes of a request between its delimiters, without the escapes. -/
def frameBytes (e : Espduino) (cmd : UInt16) (callback _return : UInt32)
    (args : List (List UInt8)) : List UInt8 :=
  slip.unstuff false (requestBytes e cmd callback _return args).tail.dropLast

/-- The argument that was read is the one that was sent, with its padding. -/
def Carries (arg data : List UInt8) : Prop := ∃ pad < 4, arg = data ++ List.replicate pad 0

/-- What is sent for the arguments, before the escapes. -/
def contsBytes (args : List (List UInt8)) : List UInt8 :=
  args.flatMap fun data => contBytes data (.ofNat data.length)

theorem espRequestArgs_contsBytes (args : List (List UInt8)) (crc : UInt16) :
    espRequestArgs crc args
      = (slip.stuff (contsBytes args), crc16Data (contsBytes args) crc) := by
  induction args generalizing crc with
  | nil => rfl
  | cons data args ih =>
      simp only [espRequestArgs, espRequestCont_contBytes, ih, contsBytes, List.flatMap_cons,
        Scheme.stuff_append, crc16Data_append]

theorem frameBytes_eq (e : Espduino) (cmd : UInt16) (callback _return : UInt32)
    (args : List (List UInt8)) :
    ∃ crc : List UInt8, frameBytes e cmd callback _return args =
      packetHeader cmd callback _return (UInt16.ofNat args.length).toNat ++
        (contsBytes args ++ crc) := by
  simp only [frameBytes, requestBytes, espRequestStart_eq, espRequestArgs_contsBytes,
    espRequestEnd, funext espWriteByte_eq, List.cons_append, List.tail_cons]
  rw [← List.append_assoc, List.dropLast_concat]
  change ∃ crc, slip.unstuff false (_ ++ slip.stuff _) = _
  rw [← Scheme.stuff_append, ← Scheme.stuff_append, slip.unstuff_stuff, List.append_assoc]
  exact ⟨_, rfl⟩

theorem contBytes_eq_packetArg {data : List UInt8} (h : data.length ≤ 65532) :
    contBytes data (.ofNat data.length) = packetArg (padded data) := by
  have hlen : (UInt16.ofNat data.length).toNat = data.length :=
    UInt16.toNat_ofNat_of_lt' (show data.length < 2 ^ 16 by omega)
  rw [contBytes_of_le (by rw [hlen]; exact h), argBytes, padLen_of_le (by rw [hlen]; exact h), hlen,
    List.take_length, packetArg, length_padded, padded]

theorem carries_padded (data : List UInt8) : Carries (padded data) data := by
  refine ⟨roundUp4 data.length - data.length, ?_, rfl⟩
  unfold roundUp4
  omega

/-- The walk reads the arguments as they were sent, up to one that is too long. -/
theorem forall_carries_iff {m : Nat → UInt8} {args : List (List UInt8)} {dataPtr : Nat}
    (hlen : ∀ data ∈ args, data.length < 2 ^ 16)
    (h : bytesAt m dataPtr (contsBytes args).length = contsBytes args) :
    List.Forall₂ Carries (argsAt m args.length dataPtr) args ↔
      ∀ data ∈ args, data.length ≤ 65532 := by
  induction args generalizing dataPtr with
  | nil => simp [argsAt]
  | cons data args ih =>
      have hdata : (UInt16.ofNat data.length).toNat = data.length :=
        UInt16.toNat_ofNat_of_lt' (hlen data List.mem_cons_self)
      have hconts : contsBytes (data :: args)
          = contBytes data (.ofNat data.length) ++ contsBytes args := List.flatMap_cons
      rw [hconts, List.length_append] at h
      obtain ⟨harg, hrest⟩ := bytesAt_eq_append h
      rw [List.length_cons, argsAt, List.forall₂_cons, List.forall_mem_cons]
      rcases Nat.lt_or_ge 65532 data.length with hlong | hshort
      · -- the length that the walk reads is 0
        refine iff_of_false ?_ fun hall => absurd hall.1 (Nat.not_le.mpr hlong)
        rintro ⟨⟨pad, -, hread⟩, -⟩
        have hzero : (le16At m dataPtr).toNat = 0 := by
          rw [contBytes, List.length_append] at harg
          obtain ⟨hl, -⟩ := bytesAt_eq_append harg
          rw [padLen_of_gt (by rw [hdata]; exact hlong), length_leBytes] at hl
          exact le16At_toNat_of_bytesAt (by decide) hl
        have hread' := congrArg List.length hread
        rw [hzero, bytesAt_zero, List.length_nil, List.length_append] at hread'
        omega
      · rw [contBytes_eq_packetArg hshort] at harg hrest
        have hround : (padded data).length < 2 ^ 16 := by
          rw [length_padded]
          unfold roundUp4
          omega
        rw [packetArg, List.length_append] at harg
        obtain ⟨hl, hd⟩ := bytesAt_eq_append harg
        rw [length_leBytes] at hl hd
        have hlen2 : (le16At m dataPtr).toNat = (padded data).length :=
          le16At_toNat_of_bytesAt hround hl
        rw [length_packetArg, ← Nat.add_assoc] at hrest
        rw [hlen2, hd, ih (fun d hd => hlen d (List.mem_cons_of_mem data hd)) hrest]
        exact and_congr_left' (iff_of_true (carries_padded data) hshort)

/-- `esp_request_cont` is consistent, and the walk over a frame reads the arguments it was made of,
exactly for the arguments of at most 65532 bytes. -/
theorem espRequestCont_consistent_iff (crc : UInt16) {data : List UInt8} {len : UInt16}
    (_ : len.toNat ≤ data.length) (e : Espduino) (cmd : UInt16) (callback _return : UInt32)
    {args : List (List UInt8)} (hargc : args.length < 2 ^ 16)
    (hlen : ∀ data ∈ args, data.length < 2 ^ 16) {m : Nat → UInt8}
    (h : bytesAt m 0 (frameBytes e cmd callback _return args).length
      = frameBytes e cmd callback _return args) :
    (Consistent crc data len ↔ len.toNat ≤ 65532) ∧
      (List.Forall₂ Carries (argsAt m (le16At m 10).toNat 12) args ↔
        ∀ data ∈ args, data.length ≤ 65532) := by
  refine ⟨consistent_iff crc data len, ?_⟩
  obtain ⟨crc, hframe⟩ := frameBytes_eq e cmd callback _return args
  rw [hframe, UInt16.toNat_ofNat_of_lt' hargc, List.length_append, List.length_append] at h
  obtain ⟨hheader, hrest⟩ := bytesAt_eq_append h
  obtain ⟨hargs, -⟩ := bytesAt_eq_append hrest
  rw [length_packetHeader] at hheader hargs
  obtain ⟨-, -, -, hcount⟩ := header_of_bytesAt hargc hheader
  rw [hcount]
  exact forall_carries_iff hlen hargs

/-- An argument of one byte, alone and in a frame. -/
theorem espRequestCont_consistent_one :
    Consistent 0 [5] 1 ∧
      List.Forall₂ Carries
        (argsAt (overlay (fun _ => 0) 0 (frameBytes (espduinoInit fun _ => 0) 2 0 1 [[5]])) 1 12)
        [[5]] := by
  have hboth := @espRequestCont_consistent_iff 0 [5] 1 (by decide) (espduinoInit fun _ => 0) 2 0 1
    [[5]] (by decide) (by decide) _ (bytesAt_overlay (fun _ => 0) 0 _)
  exact ⟨hboth.1.mpr (by decide), hboth.2.mpr (by decide)⟩

/-- An argument of 65533 bytes is sent behind a length of 0. -/
theorem espRequestCont_wraps :
    ¬ Consistent 0 (List.replicate 65533 1) 65533 ∧
      (slip.unstuff false (espRequestCont 0 (List.replicate 65533 1) 65533).1).take 2 = [0, 0] := by
  constructor
  · rw [consistent_iff]
    decide
  · rw [unstuff_espRequestCont, contBytes, padLen_of_gt (by decide)]
    rfl

end Esp
