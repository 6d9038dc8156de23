import MynewtArduinoZero.Winc1500.HostInterface

/-!
# A request in the chip's memory

The chip reads a request when `WIFI_HOST_RCV_CTRL_3` is written: at the address
given there it finds the header with the group, the opcode and the length, and
behind eight bytes the payload, of which the control buffer is the beginning and
the data, if there are any, lie at their offset.

Whatever fails on the way, `hif_send` has the chip read at most one request, and it
is the whole request.  If it returns success the chip has read it.
-/

namespace Winc1500

namespace HostIf

open Hif Cells LittleEndian Dialogue Dialogue.Routine

/-! ## The chip's side -/

/-- A request as the chip reads it. -/
structure Frame where
  announced : UInt32
  hdr : Header
  payload : List UInt8

def readFrame (mem : Nat → UInt8) (addr : Nat) (announced : UInt32) : Frame :=
  let hdr := Header.ofBlock fun i => mem (addr + i)
  ⟨announced, hdr, bytesAt mem (addr + 8) (hdr.u16Length.toNat - 8)⟩

structure Firmware where
  mem : Nat → UInt8
  /-- The last value of `NMI_STATE_REG`. -/
  announced : UInt32
  /-- The requests read. -/
  taken : List Frame

/-- `WIFI_HOST_RCV_CTRL_3` is written. -/
def Firmware.rung (s : Firmware) (val : UInt32) : Firmware :=
  { s with taken := s.taken ++ [readFrame s.mem (val >>> 2).toNat s.announced] }

/-- A call of the bus at the chip.  What fails may have come to pass or not.  The memory given for
a request lies below `2 ^ 30`, since its address loses two bits. -/
def Stores (s : Firmware) (a : Act) (x : Answer) (t : Firmware) : Prop :=
  match a with
  | .writeBlock addr bytes =>
      t.announced = s.announced ∧ t.taken = s.taken ∧
        (x.ok = true → t.mem = overlay s.mem addr.toNat bytes)
  | .writeReg addr val =>
      if addr = nmiStateReg then
        t.mem = s.mem ∧ t.taken = s.taken ∧ (x.ok = true → t.announced = val)
      else if addr = wifiHostRcvCtrl3 then t = s.rung val ∨ (x.ok = false ∧ t = s)
      else t = s
  | .readReg addr => t = s ∧ (addr = dmaAddrReg → x.value.toNat + 2 ^ 17 ≤ 2 ^ 30)
  | _ => t = s

/-! ## What a request carries -/

def Message.ctrlBytes (r : Message) : List UInt8 :=
  match r.ctrlBuf with
  | some b => b.bytes
  | none => []

/-- The length does not wrap, and the data do not begin inside the control buffer. -/
def Message.Fits (r : Message) : Prop :=
  match r.dataBuf with
  | some b =>
      8 + r.u16DataOffset.toNat + b.bytes.length < 2 ^ 16 ∧
        r.ctrlBytes.length ≤ r.u16DataOffset.toNat
  | none => 8 + r.ctrlBytes.length < 2 ^ 16

/-- The chip has read the request. -/
structure Frame.Carries (f : Frame) (r : Message) : Prop where
  announced : f.announced = r.state
  u8Gid : f.hdr.u8Gid = r.u8Gid
  u8Opcode : f.hdr.u8Opcode = r.u8Opcode &&& 0x7f
  u16Length : f.hdr.u16Length = r.u16Length
  length : f.payload.length + 8 = r.u16Length.toNat
  ctrl : f.payload.take r.ctrlBytes.length = r.ctrlBytes
  data : ∀ b, r.dataBuf = some b → f.payload.drop r.u16DataOffset.toNat = b.bytes

/-- The memory with the request at `addr`. -/
def Message.stored (r : Message) (mem : Nat → UInt8) (addr : Nat) : Nat → UInt8 :=
  let mem := overlay (overlay mem addr r.header) (addr + 8) r.ctrlBytes
  match r.dataBuf with
  | some b => overlay mem (addr + 8 + r.u16DataOffset.toNat) b.bytes
  | none => mem

theorem Message.length_header (r : Message) : r.header.length = 8 := by
  simp [Message.header]

theorem Buffer.toNat_size (b : Buffer) : b.size.toNat = b.bytes.length := by
  rw [Buffer.size, UInt16.toNat_ofNat', Nat.mod_eq_of_lt b.fits]

theorem Message.toNat_ctrlBufSize (r : Message) :
    r.ctrlBufSize.toNat = r.ctrlBytes.length := by
  rw [Message.ctrlBufSize, Message.ctrlBytes]
  cases r.ctrlBuf with
  | none => rfl
  | some b => exact b.toNat_size

theorem Message.toNat_u16Length {r : Message} (h : r.Fits) :
    r.u16Length.toNat =
      match r.dataBuf with
      | some b => 8 + r.u16DataOffset.toNat + b.bytes.length
      | none => 8 + r.ctrlBytes.length := by
  have hoffset : m2mHifHdrOffset.toNat = 8 := rfl
  rw [Message.Fits] at h
  rw [Message.u16Length]
  cases hdata : r.dataBuf with
  | none =>
      rw [hdata] at h
      dsimp only at h ⊢
      rw [UInt16.toNat_add, r.toNat_ctrlBufSize, hoffset]
      exact Nat.mod_eq_of_lt h
  | some b =>
      rw [hdata] at h
      dsimp only at h ⊢
      rw [UInt16.toNat_add, UInt16.toNat_add, b.toNat_size, hoffset]
      omega

/-! ## Read back -/

/-- Cells up to the data hold what has been stored before them. -/
theorem Message.stored_of_lt (r : Message) (mem : Nat → UInt8) {addr x : Nat}
    (h : x < addr + 8 + r.u16DataOffset.toNat ∨ r.dataBuf = none) :
    r.stored mem addr x = overlay (overlay mem addr r.header) (addr + 8) r.ctrlBytes x := by
  rw [Message.stored]
  cases hdata : r.dataBuf with
  | none => rfl
  | some b =>
      obtain h | h := h
      · exact overlay_of_lt h
      · cases hdata.symm.trans h

theorem Message.stored_header (r : Message) (mem : Nat → UInt8) (addr : Nat) :
    bytesAt (r.stored mem addr) addr 8 = r.header := by
  have hread := bytesAt_overlay mem addr r.header
  rw [r.length_header] at hread
  refine (bytesAt_congr fun i hi => ?_).trans hread
  rw [r.stored_of_lt mem (.inl (by omega)), overlay_of_lt (by omega)]

theorem Message.stored_ctrl (r : Message) (h : r.Fits) (mem : Nat → UInt8) (addr : Nat) :
    bytesAt (r.stored mem addr) (addr + 8) r.ctrlBytes.length = r.ctrlBytes := by
  refine (bytesAt_congr fun i hi => ?_).trans
    (bytesAt_overlay (overlay mem addr r.header) (addr + 8) r.ctrlBytes)
  refine r.stored_of_lt mem ?_
  rw [Message.Fits] at h
  cases hdata : r.dataBuf with
  | none => exact .inr rfl
  | some b =>
      rw [hdata] at h
      exact .inl (by omega)

theorem Message.stored_data (r : Message) {b : Buffer} (hdata : r.dataBuf = some b)
    (mem : Nat → UInt8) (addr : Nat) :
    bytesAt (r.stored mem addr) (addr + 8 + r.u16DataOffset.toNat) b.bytes.length = b.bytes := by
  rw [Message.stored, hdata]
  exact bytesAt_overlay _ _ b.bytes

/-- What is read where a request has been stored. -/
theorem readFrame_stored {r : Message} (h : r.Fits) (mem : Nat → UInt8) (addr : Nat) :
    (readFrame (r.stored mem addr) addr r.state).Carries r := by
  have hheader := r.stored_header mem addr
  have hlength := Message.toNat_u16Length h
  have hhdr : Header.ofBlock (fun i => r.stored mem addr (addr + i)) =
      ⟨r.u8Gid, r.u8Opcode &&& 0x7f, r.u16Length⟩ := by
    have hbyte (i : Nat) (hi : i < 8) : some (r.stored mem addr (addr + i)) = r.header[i]? := by
      rw [← hheader, List.getElem?_eq_getElem (by rwa [length_bytesAt]), getElem_bytesAt]
    have hword : bytesAt (fun i => r.stored mem addr (addr + i)) 2 2 =
        leBytes 2 r.u16Length.toNat := by
      have htwo : bytesAt (r.stored mem addr) (addr + 2) 2 = (r.header.drop 2).take 2 := by
        rw [← hheader, take_drop_bytesAt _ (by decide)]
      exact htwo
    rw [Header.ofBlock, le16At_eq_of_bytesAt hword, Option.some.inj (hbyte 0 (by decide)),
      Option.some.inj (hbyte 1 (by decide))]
  have hpayload : (readFrame (r.stored mem addr) addr r.state).payload =
      bytesAt (r.stored mem addr) (addr + 8) (r.u16Length.toNat - 8) := by
    rw [readFrame, hhdr]
  have hge : 8 + r.ctrlBytes.length ≤ r.u16Length.toNat := by
    rw [hlength]
    rw [Message.Fits] at h
    cases hdata : r.dataBuf with
    | none => exact Nat.le_refl _
    | some b =>
        rw [hdata] at h
        dsimp only at h ⊢
        omega
  constructor
  case announced => rfl
  case u8Gid => rw [readFrame, hhdr]
  case u8Opcode => rw [readFrame, hhdr]
  case u16Length => rw [readFrame, hhdr]
  case length =>
    rw [hpayload, length_bytesAt]
    omega
  case ctrl =>
    rw [hpayload, take_bytesAt _ (by omega), r.stored_ctrl h]
  case data =>
    intro b hdata
    rw [hdata] at hlength
    dsimp only at hlength
    have hsplit : r.u16Length.toNat - 8 = r.u16DataOffset.toNat + b.bytes.length := by omega
    rw [hpayload, hsplit, bytesAt_add, List.drop_left' (length_bytesAt ..),
      r.stored_data hdata]

/-! ## The acts of a request -/

theorem exists_stores (s : Firmware) (a : Act) : ∃ x t, Stores s a x t := by
  refine ⟨⟨false, 0, fun _ => 0, false⟩, s, ?_⟩
  cases a with
  | readReg addr => exact ⟨rfl, fun _ => by decide⟩
  | writeReg addr val =>
      dsimp only [Stores]
      split
      · exact ⟨rfl, rfl, fun h => nomatch h⟩
      · split
        · exact .inr ⟨rfl, rfl⟩
        · rfl
  | writeBlock addr bytes => exact ⟨rfl, rfl, fun h => nomatch h⟩
  | _ => rfl

variable {g : Globals} {s : Firmware}

theorem bus_stores {a : Act} {post : Answer → Globals → Firmware → Prop}
    (h : ∀ x g' t, Stores s a x t → post x g' t) : Ends Stores (bus a) g s post := by
  refine ends_bind.mpr (ends_call.mpr ⟨exists_stores s a, fun x t hx => ?_⟩)
  split
  · refine ends_bind.mpr (ends_bind.mpr (ends_modify.mpr (ends_bind.mpr ?_)))
    refine ends_call.mpr ⟨exists_stores t _, ?_⟩
    rintro y _ rfl
    exact h x _ _ hx
  · exact h x g t hx

theorem ok_of_ret {x : Answer} (h : x.ret = m2mSuccess) : x.ok = true := by
  cases hok : x.ok with
  | true => rfl
  | false =>
      rw [Answer.ret, hok] at h
      exact absurd h (by decide)

theorem writeBlock_stores {addr : UInt32} {bytes : List UInt8} :
    Ends Stores (nmWriteBlock addr bytes) g s fun ret _ t =>
      t.announced = s.announced ∧ t.taken = s.taken ∧
        (ret = m2mSuccess → t.mem = overlay s.mem addr.toNat bytes) :=
  Ends.bind (bus_stores fun _ _ _ h => h) fun _ _ _ h =>
    ⟨h.1, h.2.1, fun hret => h.2.2 (ok_of_ret hret)⟩

theorem pollDmaAddr_stores :
    ∀ (cnt : Nat) {g : Globals} {s : Firmware},
      Ends Stores (pollDmaAddr cnt) g s fun dmaAddr _ t =>
        t = s ∧ (dmaAddr = 0 ∨ dmaAddr.toNat + 2 ^ 17 ≤ 2 ^ 30)
  | 0, _, _ => ⟨rfl, .inl rfl⟩
  | cnt + 1, g, s => by
      have hzero : ((0 : UInt32) = 0 ∨ (0 : UInt32).toNat + 2 ^ 17 ≤ 2 ^ 30) := .inl rfl
      refine Ends.bind (p := fun _ _ t => t = s) (bus_stores fun _ _ _ h => h.1) ?_
      rintro reg g₁ _ rfl
      split
      · exact ⟨rfl, hzero⟩
      · split
        · exact pollDmaAddr_stores cnt
        · refine Ends.bind (bus_stores fun _ _ _ h => h) ?_
          rintro dmaAddr g₂ t ⟨rfl, haddr⟩
          refine ⟨rfl, ?_⟩
          split
          · exact .inr (haddr rfl)
          · exact hzero

/-! ## A request written -/

theorem writeCtrlBuf_stores (r : Message) (addr : UInt32) :
    Ends Stores (writeCtrlBuf addr r.ctrlBuf) g s fun p _ t =>
      t.announced = s.announced ∧ t.taken = s.taken ∧ p.2 = addr + r.ctrlBufSize.toUInt32 ∧
        (p.1 = m2mSuccess → t.mem = overlay s.mem addr.toNat r.ctrlBytes) := by
  rw [Message.ctrlBufSize, Message.ctrlBytes]
  cases r.ctrlBuf with
  | none => exact ⟨rfl, rfl, (UInt32.add_zero addr).symm, fun _ => (overlay_nil _ _).symm⟩
  | some b => exact writeBlock_stores.bind fun _ _ _ h => ⟨h.1, h.2.1, rfl, h.2.2⟩

theorem writeMessage_stores (r : Message) {dmaAddr : UInt32}
    (hdma : dmaAddr.toNat + 2 ^ 17 ≤ 2 ^ 30) :
    Ends Stores (writeMessage r dmaAddr) g s fun ret _ t =>
      t.announced = s.announced ∧ t.taken = s.taken ∧
        (ret = m2mSuccess → t.mem = r.stored s.mem dmaAddr.toNat) := by
  have height : (m2mHifHdrOffset.toUInt32).toNat = 8 := rfl
  have hctrlAt : (dmaAddr + m2mHifHdrOffset.toUInt32).toNat = dmaAddr.toNat + 8 := by
    rw [UInt32.toNat_add, height]
    omega
  refine writeBlock_stores.bind ?_
  rintro ret g₁ s₁ ⟨hann₁, htaken₁, hmem₁⟩
  split
  · rename_i hret
    exact ⟨hann₁, htaken₁, fun h => absurd h hret⟩
  · rename_i hret
    have hmem₁ := hmem₁ (not_not.mp hret)
    refine (writeCtrlBuf_stores r _).bind ?_
    rintro ⟨ret', currAddr⟩ g₂ s₂ ⟨hann₂, htaken₂, hcurr, hmem₂⟩
    dsimp only at hcurr hmem₂ ⊢
    have hann : s₂.announced = s.announced := hann₂.trans hann₁
    have htaken : s₂.taken = s.taken := htaken₂.trans htaken₁
    split
    · rename_i hret'
      exact ⟨hann, htaken, fun h => absurd h hret'⟩
    · rename_i hret'
      have hmem₂ := hmem₂ (not_not.mp hret')
      rw [hctrlAt, hmem₁] at hmem₂
      have hdataAt : currAddr + (r.u16DataOffset.toUInt32 - r.ctrlBufSize.toUInt32) =
          dmaAddr + m2mHifHdrOffset.toUInt32 + r.u16DataOffset.toUInt32 := by
        rw [hcurr]
        grind
      rw [hdataAt, Message.stored]
      cases r.dataBuf with
      | none => exact ⟨hann, htaken, fun _ => hmem₂⟩
      | some b =>
          have hoffset : r.u16DataOffset.toNat < 2 ^ 16 := r.u16DataOffset.toNat_lt
          have hdataNat : (dmaAddr + m2mHifHdrOffset.toUInt32 + r.u16DataOffset.toUInt32).toNat =
              dmaAddr.toNat + 8 + r.u16DataOffset.toNat := by
            rw [UInt32.toNat_add, hctrlAt, UInt16.toNat_toUInt32]
            omega
          refine writeBlock_stores.mono ?_
          rintro ret'' g₃ s₃ ⟨hann₃, htaken₃, hmem₃⟩
          rw [hdataNat, hmem₂] at hmem₃
          exact ⟨hann₃.trans hann, htaken₃.trans htaken, hmem₃⟩

/-! ## Every request -/

/-- What the chip has read since `s`: nothing, or the one request. -/
def Reads (r : Message) (s t : Firmware) : Prop :=
  t.taken = s.taken ∨ ∃ f, t.taken = s.taken ++ [f] ∧ f.Carries r

/-- The address as the chip gets it. -/
theorem rung_address {x : UInt32} (h : x.toNat + 2 ^ 17 ≤ 2 ^ 30) :
    ((x <<< 2 ||| 0x2) >>> 2 : UInt32).toNat = x.toNat := by
  have hor : x.toNat <<< 2 ||| 2 = x.toNat <<< 2 + 2 :=
    (Nat.shiftLeft_add_eq_or_of_lt (by decide) x.toNat).symm
  show ((x.toNat <<< 2 % 2 ^ 32 ||| 2) >>> 2) = x.toNat
  rw [Nat.mod_eq_of_lt (by rw [Nat.shiftLeft_eq]; omega), hor, Nat.shiftLeft_eq,
    Nat.shiftRight_eq_div_pow]
  omega

theorem sendAwake_stores {r : Message} (hfits : r.Fits) :
    Ends Stores (sendAwake r) g s fun ret _ t =>
      Reads r s t ∧ (ret = m2mSuccess → t.taken ≠ s.taken) := by
  have hnothing {ret : Int} {t : Firmware} (ht : t.taken = s.taken) (hret : ret ≠ m2mSuccess) :
      Reads r s t ∧ (ret = m2mSuccess → t.taken ≠ s.taken) :=
    ⟨.inl ht, fun h => absurd h hret⟩
  refine Ends.bind (p := fun ret _ t =>
    t.taken = s.taken ∧ (ret = m2mSuccess → t.announced = r.state)) ?_ ?_
  · refine Ends.bind (bus_stores fun _ _ _ h => h) ?_
    rintro x g₁ s₁ ⟨-, htaken, hann⟩
    exact ⟨htaken, fun hret => hann (ok_of_ret hret)⟩
  · rintro ret g₁ s₁ ⟨htaken₁, hann₁⟩
    split
    · rename_i hret
      exact hnothing htaken₁ hret
    · rename_i hret
      have hann₁ := hann₁ (not_not.mp hret)
      refine Ends.bind (p := fun _ _ t => t = s₁) ?_ ?_
      · exact Ends.bind (bus_stores fun _ _ _ h => h) fun _ _ _ h => h
      · rintro ret' g₂ _ rfl
        split
        · rename_i hret'
          exact hnothing htaken₁ hret'
        · refine (pollDmaAddr_stores 1000).bind ?_
          rintro dmaAddr g₃ s₂ ⟨rfl, hdma⟩
          split
          · exact hnothing htaken₁ (by decide : m2mErrMemAlloc ≠ m2mSuccess)
          · rename_i hzero
            have hdma := hdma.resolve_left hzero
            refine (writeMessage_stores r hdma).bind ?_
            rintro ret'' g₄ s₃ ⟨hann₃, htaken₃, hmem₃⟩
            split
            · rename_i hret''
              exact hnothing (htaken₃.trans htaken₁) hret''
            · rename_i hret''
              have hmem₃ := hmem₃ (not_not.mp hret'')
              refine Ends.bind (bus_stores fun _ _ _ h => h) ?_
              rintro x g₅ s₄ (hrung | ⟨hok, rfl⟩)
              · have hnew : s₄.taken = s.taken ++
                    [readFrame (r.stored s₂.mem dmaAddr.toNat) dmaAddr.toNat r.state] := by
                  rw [hrung, Firmware.rung, rung_address hdma, hmem₃, hann₃, hann₁, htaken₃,
                    htaken₁]
                refine ⟨.inr ⟨_, hnew, readFrame_stored hfits _ _⟩, fun _ hsame => ?_⟩
                rw [hnew] at hsame
                simp at hsame
              · have hret : x.ret ≠ m2mSuccess := fun h => by
                  rw [ok_of_ret h] at hok
                  cases hok
                exact hnothing (htaken₃.trans htaken₁) hret

theorem bus_power {a : Act} (ha : a.power) (s₀ : Firmware) :
    Keeps Stores (fun _ t => t = s₀) (bus a) := by
  rintro g _ rfl
  refine bus_stores fun x g' t h => ?_
  cases a with
  | readReg addr => exact h.1
  | writeReg addr val =>
      have haddr : addr = wakeReg ∨ addr = 0x1 :=
        (Bool.or_eq_true_iff.mp ha).imp of_decide_eq_true of_decide_eq_true
      obtain rfl | rfl := haddr
      · exact h
      · exact h
  | clklessWake => exact h
  | readBlock | writeBlock | interruptCtrl | idle | entered | dispatched => cases ha

/-- `hif_send` with a request that fits: the chip reads the whole request or nothing, at most once,
whatever fails, and it has read it if `hif_send` succeeds. -/
theorem request_read_whole {r : Message} (hfits : r.Fits) (g : Globals) (s : Firmware) :
    Ends Stores (hifSend r) g s fun ret _ t =>
      Reads r s t ∧ (ret = m2mSuccess → t.taken ≠ s.taken) := by
  have hwake := hifChipWake_keeps (fun _ ha => bus_power ha s) (fun _ _ _ h => h) g s rfl
  refine hwake.bind ?_
  rintro ret g₁ _ rfl
  split
  · rename_i hret
    exact ⟨.inl rfl, fun h => absurd h hret⟩
  · refine (sendAwake_stores hfits).bind fun ret' g₂ s₂ h₂ => ?_
    split
    · exact h₂
    · rename_i hret'
      have hsleep := hifChipSleep_keeps (fun _ ha => bus_power ha s₂) (fun _ _ _ h => h) g₂ s₂ rfl
      refine hsleep.mono ?_
      rintro ret'' g₃ _ rfl
      exact ⟨h₂.1, fun _ => h₂.2 (not_not.mp hret')⟩

/-- Two bytes of control, and three of data at offset 4. -/
def sendRequest : Message :=
  ⟨2, 0x45, some ⟨[1, 0], by decide⟩, some ⟨[104, 105, 33], by decide⟩, 4, ⟨#[0, 0, 0, 0], rfl⟩⟩

theorem request_read_whole_send :
    Ends Stores (hifSend sendRequest) ⟨.deepAutomatic, 0, false, 0, false, fun _ => none⟩
      ⟨fun _ => 0, 0, []⟩ fun ret _ t =>
        Reads sendRequest ⟨fun _ => 0, 0, []⟩ t ∧ (ret = m2mSuccess → t.taken ≠ []) := by
  have hfits : sendRequest.Fits := by
    show 8 + 4 + 3 < 2 ^ 16 ∧ 2 ≤ 4
    decide
  exact request_read_whole hfits _ _

end HostIf

end Winc1500
