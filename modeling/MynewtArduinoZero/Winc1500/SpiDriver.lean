import MynewtArduinoZero.Winc1500.SpiChip

/-!
# The driver against the chip

Each part of the driver with the phase it finds the chip in and the one it leaves
it in: a transfer, the polls, the packets, and from them a register or a block.
-/

namespace Winc1500

namespace NmSpi

open Dialogue LittleEndian
open Hif (m2mSuccess m2mErrBusFail)

variable {α β : Type} {c c' : Chip} {host : Int → UInt8}

/-! ## Rules -/

theorem Ends.pure {a : α} {post : α → Chip → Prop} (h : post a c) :
    Ends (pure a : Wire α) c post := ⟨c, rfl, h⟩

theorem Ends.mono {d : Wire α} {post post' : α → Chip → Prop} (h : Ends d c post)
    (hpost : ∀ a t, post a t → post' a t) : Ends d c post' :=
  Ensures.mono h fun a _ ⟨t, hs, ha⟩ => ⟨t, hs, hpost a t ha⟩

theorem Ends.bind {d : Wire α} {f : α → Wire β} {mid : α → Chip → Prop}
    {post : β → Chip → Prop} (h : Ends d c mid) (hf : ∀ a t, mid a t → Ends (f a) t post) :
    Ends (d >>= f) c post := by
  refine Ensures.bind h ?_
  rintro a s ⟨t, rfl, ha⟩
  exact hf a t ha

/-- Two specifications of one part hold of one of its ends. -/
theorem Ends.exists_both {d : Wire α} {post post' : α → Chip → Prop} (h : Ends d c post)
    (h' : Ends d c post') : ∃ a t, post a t ∧ post' a t := by
  obtain ⟨a, s, ⟨t, hs, ha⟩, ⟨t', hs', ha'⟩⟩ := (Ensures.and h h').exists
  cases hs.symm.trans hs'
  exact ⟨a, t, ha, ha'⟩

/-! ## Transfers -/

@[simp] theorem ret_nOk : ret nOk = m2mSuccess := rfl

/-- The bytes of a transfer go over while the chip is selected. -/
theorem nmSpiRw_ends {mosi : List UInt8} {post : List UInt8 × Int → Chip → Prop}
    (h : Ensures Slave.Step (clock mosi) ⟨true, c⟩ fun r s => ∃ t, s = ⟨true, t⟩ ∧ post r t) :
    Ends (nmSpiRw mosi) c post := by
  refine ⟨⟨none, _, rfl⟩, ?_⟩
  rintro x s rfl
  show Ensures Slave.Step (clock mosi >>= fun r => halGpioWrite true >>= fun _ => pure r) ⟨true, c⟩ _
  refine Ensures.bind h ?_
  rintro r s ⟨t, rfl, hr⟩
  refine ⟨⟨none, _, rfl⟩, ?_⟩
  rintro x s rfl
  exact ⟨t, rfl, hr⟩

theorem clock_cons {tx : UInt8} {mosi : List UInt8} {post : List UInt8 × Int → Slave → Prop}
    (hprogress : ∃ rx t, c.exchange tx rx = some t)
    (h : ∀ rx t, c.exchange tx rx = some t →
      Ensures Slave.Step (clock mosi) ⟨true, t⟩ fun r s => post (rx :: r.1, r.2) s) :
    Ensures Slave.Step (clock (tx :: mosi)) ⟨true, c⟩ post := by
  obtain ⟨rx, t, hrx⟩ := hprogress
  refine ⟨⟨some rx, ⟨true, t⟩, rfl, rx, t, rfl, hrx, rfl⟩, ?_⟩
  rintro x s ⟨-, rx, t, rfl, hrx, rfl⟩
  show Ensures Slave.Step (clock mosi >>= fun r => pure (rx :: r.1, r.2)) ⟨true, t⟩ post
  exact Ensures.bind (h rx t hrx) fun _ _ hpost => hpost

/-- The chip takes the bytes of `l`, whatever it sends with them. -/
def Hears : Chip → List UInt8 → Chip → Prop
  | c, [], c' => c' = c
  | c, b :: l, c' => ∃ m, (∀ rx, c.exchange b rx = some m) ∧ Hears m l c'

theorem Hears.append : ∀ {l l' : List UInt8} {c m c' : Chip}, Hears c l m → Hears m l' c' →
    Hears c (l ++ l') c'
  | [], _, _, _, _, h, h' => by
      cases h
      exact h'
  | _ :: _, _, _, _, _, ⟨m, hb, h⟩, h' => ⟨m, hb, h.append h'⟩

theorem clock_hears : ∀ {l : List UInt8} {c c' : Chip}, Hears c l c' →
    Ensures Slave.Step (clock l) ⟨true, c⟩ fun r s => ∃ t, s = ⟨true, t⟩ ∧
      (r.2 = m2mSuccess ∧ t = c')
  | [], c, c', h => ⟨c, rfl, rfl, h.symm⟩
  | b :: l, c, c', ⟨m, hb, h⟩ =>
      clock_cons ⟨0, m, hb 0⟩ fun rx t hrx => by
        rw [hb, Option.some.injEq] at hrx
        subst hrx
        exact clock_hears h

theorem nmiSpiWrite_ends {l : List UInt8} (h : Hears c l c') :
    Ends (nmiSpiWrite l) c fun rc t => rc = m2mSuccess ∧ t = c' :=
  (nmSpiRw_ends (clock_hears h)).bind fun _ _ hr => .pure hr

theorem nmiSpiRead_one {post : List UInt8 × Int → Chip → Prop}
    (hprogress : ∃ rx t, c.exchange 0 rx = some t)
    (h : ∀ rx t, c.exchange 0 rx = some t → post ([rx], m2mSuccess) t) :
    Ends (nmiSpiRead 1) c post :=
  nmSpiRw_ends (clock_cons hprogress fun rx t hrx => ⟨t, rfl, h rx t hrx⟩)

/-! ## Polls -/

@[simp] theorem Chip.to_to (p q : Phase) : (c.to p).to q = c.to q := rfl

@[simp] theorem Chip.crcOff_to (p : Phase) : (c.to p).crcOff = c.crcOff := rfl

/-- A poll is answered in time by the byte it waits for. -/
theorem waitRsp_ends {want : UInt8} {behind : Phase} {again : Nat → Phase}
    (hex : ∀ k tx rx, (c.to (again k)).exchange tx rx =
      (wait (rx == want) k behind again).map c.to) :
    ∀ {retry k : Nat}, k ≤ retry →
      Ends (waitRsp want retry) (c.to (again k)) fun rc t => rc = nOk ∧ t = c.to behind
  | 0, k, hk => by
      obtain rfl : k = 0 := by omega
      have hread : Ends (nmiSpiRead 1) (c.to (again 0)) fun r t =>
          r.2 = m2mSuccess ∧ t = c.to behind := by
        refine nmiSpiRead_one ⟨want, c.to behind, by simp [hex, wait]⟩ fun rx t hrx => ?_
        cases hcome : rx == want <;> simp [hex, wait, hcome] at hrx
        exact ⟨rfl, hrx.symm⟩
      refine hread.bind ?_
      rintro ⟨rsp, rc⟩ t ⟨rfl, rfl⟩
      exact .pure ⟨rfl, rfl⟩
  | retry + 1, k, hk => by
      have hread : Ends (nmiSpiRead 1) (c.to (again k)) fun r t => r.2 = m2mSuccess ∧
          ((r.1.headD 0 = want ∧ t = c.to behind) ∨
            r.1.headD 0 ≠ want ∧ ∃ j ≤ retry, t = c.to (again j)) := by
        refine nmiSpiRead_one ⟨want, c.to behind, by simp [hex, wait]⟩ fun rx t hrx => ?_
        by_cases hcome : rx = want
        · simp [hex, wait, hcome] at hrx
          exact ⟨rfl, .inl ⟨hcome, hrx.symm⟩⟩
        · cases k with
          | zero => simp [hex, wait, hcome] at hrx
          | succ j =>
              simp [hex, wait, hcome] at hrx
              exact ⟨rfl, .inr ⟨hcome, j, by omega, hrx.symm⟩⟩
      refine hread.bind ?_
      rintro ⟨rsp, rc⟩ t ⟨rfl, ⟨hcome, rfl⟩ | ⟨hcome, j, hj, rfl⟩⟩
      · simp only [ne_eq, not_true_eq_false, if_false, hcome, if_true]
        exact .pure ⟨rfl, rfl⟩
      · simp only [ne_eq, not_true_eq_false, if_false, hcome]
        exact waitRsp_ends hex hj

/-! ## Commands -/

theorem echo_exchange (code : UInt8) (behind : Phase) (k : Nat) (tx rx : UInt8) :
    (c.to (.echo code k behind)).exchange tx rx =
      (wait (rx == code) k (.status 10 behind) (.echo code · behind)).map c.to := rfl

theorem status_exchange (behind : Phase) (k : Nat) (tx rx : UInt8) :
    (c.to (.status k behind)).exchange tx rx =
      (wait (rx == 0) k behind (.status · behind)).map c.to := rfl

theorem skipRsp_ends {cmd : Cmd} (hreset : cmd ≠ .reset) (hterminate : cmd ≠ .terminate)
    (hrepeat : cmd ≠ .repeat) : Ends (skipRsp cmd) c fun rc t => rc = nOk ∧ t = c := by
  rw [skipRsp, if_neg (by simp [hreset, hterminate, hrepeat])]
  exact .pure ⟨rfl, rfl⟩

/-- The answer to a command is awaited, and found in order. -/
theorem spiCmdRsp_ends {cmd : Cmd} {behind : Phase} (hreset : cmd ≠ .reset)
    (hterminate : cmd ≠ .terminate) (hrepeat : cmd ≠ .repeat) :
    Ends (spiCmdRsp cmd) (c.begin cmd.code behind) fun rc t => rc = nOk ∧ t = c.to behind := by
  refine Ends.bind (skipRsp_ends hreset hterminate hrepeat) ?_
  rintro rc t ⟨rfl, rfl⟩
  rw [if_neg (by simp)]
  refine Ends.bind (waitRsp_ends (echo_exchange cmd.code behind) (Nat.le_refl 10)) ?_
  rintro rc t ⟨rfl, rfl⟩
  rw [if_neg (by simp)]
  exact waitRsp_ends (status_exchange behind) (Nat.le_refl 10)

theorem length_spiCmdBytes (cmd : Cmd) (adr u32data sz : UInt32) (clockless : Bool) :
    (spiCmdBytes cmd adr u32data sz clockless).length = 1 + cmd.fields := by
  cases cmd <;> rfl

theorem frame_eq_cons (crcOff : Bool) (cmd : Cmd) (adr u32data sz : UInt32) (clockless : Bool) :
    ∃ l, frame crcOff (spiCmdBytes cmd adr u32data sz clockless) = cmd.code :: l := by
  cases crcOff <;> cases cmd <;> exact ⟨_, rfl⟩

theorem frameLength_frame (crcOff : Bool) (cmd : Cmd) (adr u32data sz : UInt32)
    (clockless : Bool) :
    frameLength crcOff cmd.code =
      some (frame crcOff (spiCmdBytes cmd adr u32data sz clockless)).length := by
  rw [frameLength, Cmd.ofCode_code, Option.map_some]
  cases crcOff <;> simp [frame, length_spiCmdBytes]

/-- The chip takes the rest of a frame. -/
theorem hears_rest {l : List UInt8} {code : UInt8} (hhead : l.headD 0 = code)
    (hlen : frameLength c.crcOff code = some l.length)
    (haccept : (decode c.crcOff l).bind c.accept = some c') :
    ∀ {rest got : List UInt8}, rest ≠ [] → got ++ rest = l →
      Hears (c.to (.command got)) rest c'
  | [], _, hne, _ => absurd rfl hne
  | [b], got, _, hl => by
      refine ⟨c', fun rx => ?_, rfl⟩
      show (c.to _).hear (got ++ [b]) = some c'
      rw [Chip.hear, hl, hhead, Chip.crcOff_to, hlen, Option.bind_some, if_neg (Nat.lt_irrefl _)]
      exact haccept
  | b :: b' :: rest, got, _, hl => by
      have hl' : (got ++ [b]) ++ (b' :: rest) = l := by rw [← hl, List.append_assoc]; rfl
      have hhead' : (got ++ [b]).headD 0 = code := by
        rw [← hhead, ← hl']
        cases got <;> rfl
      have hshort : (got ++ [b]).length < l.length := by
        rw [← hl']
        simp only [List.length_append, List.length_cons]
        omega
      refine ⟨c.to (.command (got ++ [b])), fun rx => ?_,
        hears_rest hhead hlen haccept (List.cons_ne_nil _ _) hl'⟩
      show (c.to _).hear (got ++ [b]) = _
      rw [Chip.hear, hhead', Chip.crcOff_to, hlen, Option.bind_some, if_pos hshort, Chip.to_to]

/-- A command of the driver's is taken. -/
theorem spiCmd_ends {cmd : Cmd} {adr u32data sz : UInt32} {clockless : Bool}
    (haccept : c.accept (cmd.asked adr u32data sz clockless) = some c') :
    Ends (spiCmd c.crcOff cmd adr u32data sz clockless) (c.to (.command []))
      fun rc t => rc = nOk ∧ t = c' := by
  obtain ⟨l, hl⟩ := frame_eq_cons c.crcOff cmd adr u32data sz clockless
  have hlen : frameLength c.crcOff cmd.code = some (cmd.code :: l).length := by
    rw [← hl]
    exact frameLength_frame ..
  have hdecode : (decode c.crcOff (cmd.code :: l)).bind c.accept = some c' := by
    rw [← hl, decode_frame]
    exact haccept
  have hears := hears_rest (List.headD_cons ..) hlen hdecode (List.cons_ne_nil _ _)
    (List.nil_append _)
  rw [← hl] at hears
  refine Ends.bind (nmiSpiWrite_ends hears) ?_
  rintro rc t ⟨rfl, rfl⟩
  exact .pure ⟨rfl, rfl⟩

/-- A command of the driver's that is answered, and what comes behind it. -/
theorem command_ends {cmd : Cmd} {adr u32data sz : UInt32} {clockless : Bool} {behind : Phase}
    {broken refused rest : Wire β} {post : β → Chip → Prop} (c' : Chip) (hreset : cmd ≠ .reset)
    (hterminate : cmd ≠ .terminate) (hrepeat : cmd ≠ .repeat)
    (haccept : c.accept (cmd.asked adr u32data sz clockless) = some (c'.begin cmd.code behind))
    (hrest : Ends rest (c'.to behind) post) :
    Ends (spiCmd c.crcOff cmd adr u32data sz clockless >>= fun rc =>
        if rc ≠ nOk then broken
        else spiCmdRsp cmd >>= fun rc => if rc ≠ nOk then refused else rest)
      (c.to (.command [])) post := by
  refine Ends.bind (spiCmd_ends haccept) ?_
  rintro rc t ⟨rfl, rfl⟩
  rw [if_neg (by simp)]
  refine Ends.bind (spiCmdRsp_ends hreset hterminate hrepeat) ?_
  rintro rc t ⟨rfl, rfl⟩
  rw [if_neg (by simp)]
  exact hrest

/-! ## Packets that come in -/

theorem header_exchange (data : List UInt8) (crc : Bool) (k : Nat) (tx rx : UInt8) :
    (c.to (.header data crc k)).exchange tx rx =
      (wait (rx >>> 4 == 0xf) k (.sendPacket data crc) (.header data crc ·)).map c.to := rfl

/-- The header of a packet is found before the polls run out. -/
theorem dataRsp_ends {data : List UInt8} {crc : Bool} : ∀ {retry k : Nat}, k < retry →
    Ends (dataRsp retry) (c.to (.header data crc k)) fun r t =>
      (∃ left : Int, 0 < left ∧ r = some left) ∧ t = c.to (.sendPacket data crc)
  | retry + 1, k, hk => by
      have hread : Ends (nmiSpiRead 1) (c.to (.header data crc k)) fun r t => r.2 = m2mSuccess ∧
          ((r.1.headD 0 >>> 4 = 0xf ∧ t = c.to (.sendPacket data crc)) ∨
            r.1.headD 0 >>> 4 ≠ 0xf ∧ ∃ j < retry, t = c.to (.header data crc j)) := by
        refine nmiSpiRead_one ⟨0xf0, c.to (.sendPacket data crc), rfl⟩ fun rx t hrx => ?_
        by_cases hcome : rx >>> 4 = 0xf
        · simp [header_exchange, wait, hcome] at hrx
          exact ⟨rfl, .inl ⟨hcome, hrx.symm⟩⟩
        · cases k with
          | zero => simp [header_exchange, wait, hcome] at hrx
          | succ j =>
              simp [header_exchange, wait, hcome] at hrx
              exact ⟨rfl, .inr ⟨hcome, j, by omega, hrx.symm⟩⟩
      refine hread.bind ?_
      rintro ⟨rsp, rc⟩ t ⟨rfl, ⟨hcome, rfl⟩ | ⟨hcome, j, hj, rfl⟩⟩
      · simp only [ne_eq, not_true_eq_false, if_false, hcome, if_true]
        exact .pure ⟨⟨_, by omega, rfl⟩, rfl⟩
      · simp only [ne_eq, not_true_eq_false, if_false, hcome]
        exact dataRsp_ends hj

end NmSpi

end Winc1500
