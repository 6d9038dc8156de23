import Mathlib.Data.List.TakeDrop
import MynewtArduinoZero.Lib.Run
import MynewtArduinoZero.Spi.Wiring

/-!
# Non-blocking transfers

A master port with a callback, on its bus.  A character that is written to DATA
is exchanged for one that comes in, which waits in the receive buffer until it is
read; both buffers have room for two.  An interrupt sees some of the flags that
are set, and characters may be exchanged while its handler runs, between the
write and the read.

The bus is taken to set STATUS.BUFOVF when a character is lost, as with
CTRLA.IBON set, and not when the stream is read up to where it was lost.

The transfer in progress is recorded beside the port, with what was written and
what was read for it.  Each character on the bus carries the number of the
transfer it was written for, so that a character left over from an earlier
transfer can be told from one of this transfer.
-/

namespace HalSpi.Bus

/-! ## The bus -/

/-- A character with the number of the transfer it belongs to, if any. -/
abbrev Char : Type := Option Nat × UInt16

/-- The bus side of a SERCOM. -/
structure Wire where
  /-- Written to DATA and not exchanged yet. -/
  outgoing : List Char
  /-- Received and not read yet. -/
  incoming : List Char
  /-- STATUS.BUFOVF. -/
  bufovf : Bool
deriving DecidableEq

namespace Wire

/-- The oldest outgoing character is exchanged for `c`, which is lost where the receive buffer is
full. -/
def exchange (w : Wire) (c : UInt16) : Option Wire :=
  match w.outgoing with
  | [] => none
  | o :: outgoing =>
      if w.incoming.length < 2 then
        some { w with outgoing := outgoing, incoming := w.incoming ++ [(o.1, c)] }
      else some { w with outgoing := outgoing, bufovf := true }

/-- Characters exchanged one after the other. -/
def exchanges : Wire → List UInt16 → Option Wire
  | w, [] => some w
  | w, c :: cs => (w.exchange c).bind fun w => exchanges w cs

/-- DATA is read. -/
def read (w : Wire) : Wire := { w with incoming := w.incoming.tail }

/-- DATA is read, and BUFOVF cleared. -/
def flush (w : Wire) : Wire := { w with incoming := w.incoming.tail, bufovf := false }

end Wire

/-! ## Transfers -/

/-- The characters of a buffer. -/
def txChars : CharacterSize → List UInt8 → List UInt16
  | .bits8, b :: bytes => (b.toUInt16 &&& dataMask) :: txChars .bits8 bytes
  | .bits9, b :: b' :: bytes =>
      ((b.toUInt16 ||| (b'.toUInt16 <<< (8 : UInt16))) &&& dataMask) :: txChars .bits9 bytes
  | _, _ => []

/-- The bytes of received characters in a buffer. -/
def rxBytes (size : CharacterSize) (cs : List Char) : List UInt8 :=
  cs.flatMap fun c => charBytes size c.2

/-- A transfer that `hal_spi_txrx` has accepted. -/
structure Transfer where
  id : Nat
  /-- The characters of `txbuf`. -/
  chars : List UInt16
  /-- `rxbuf` is not NULL. -/
  rx : Bool
  /-- Written to DATA so far. -/
  written : List UInt16
  /-- Read from DATA so far. -/
  taken : List Char
  /-- An overflow has ended it. -/
  overflowed : Bool
deriving DecidableEq

def Transfer.len (t : Transfer) : Nat := t.chars.length

/-- A call of the application's callback. -/
structure Report where
  /-- The transfer in progress. -/
  transfer : Option Transfer
  count : UInt16
  /-- XFER during the call. -/
  xfer : Bool
  /-- What is stored in `rxbuf`. -/
  stored : Option (List UInt8)
deriving DecidableEq

/-- Where the handler is: a callback of the application runs, called for an overflow or not. -/
inductive CbPhase where
  | idle
  | callback (overflow : Bool)
deriving DecidableEq

/-- The port on its bus. -/
structure Sys where
  port : Port
  phase : CbPhase
  wire : Wire
  /-- The transfer in progress. -/
  current : Option Transfer
  /-- The number of the next transfer. -/
  next : Nat
  /-- The calls of the callback, latest first. -/
  log : List Report

/-- A port with characters of earlier times on its bus. -/
def Sys.start (p : Port) (outgoing incoming : List UInt16) (bufovf : Bool) : Sys where
  port := p
  phase := .idle
  wire :=
    { outgoing := outgoing.map fun c => (none, c)
      incoming := incoming.map fun c => (none, c)
      bufovf := bufovf }
  current := none
  next := 0
  log := []

/-! ## Steps -/

/-- `hal_spi_txrx` returns `rc`; where that is 0, the transfer begins.  `txbuf` holds the
characters to send. -/
def startTransfer (s : Sys) (x : Txrx) : Option Sys :=
  let size := s.port.driver.module.characterSize
  let chars := txChars size (x.txbuf.getD [])
  match txrxPort x s.port with
  | .error _ => none
  | .ok (rc, p) =>
      if rc ≠ 0 then some { s with port := p }
      else if chars.length = x.len.toNat then
        some { s with
          port := p
          next := s.next + 1
          current := some
            { id := s.next, chars := chars, rx := x.rxbuf, written := [], taken := [],
              overflowed := false } }
      else none

/-- `hal_spi_abort`. -/
def abortTransfer (s : Sys) : Option Sys :=
  match abortPort s.port with
  | .error _ => none
  | .ok (_, p) => some { s with port := p, current := none }

/-- The data-register-empty part of the handler. -/
def writeData (s : Sys) : Option Sys :=
  match spiDataRegisterEmpty s.port.driver with
  | .error _ => none
  | .ok (none, d) => some { s with port := { s.port with driver := d } }
  | .ok (some c, d) =>
      some { s with
        port := { s.port with driver := d }
        wire := { s.wire with
          outgoing := s.wire.outgoing ++ [(s.current.map Transfer.id, c)] }
        current := s.current.map fun t => { t with written := t.written ++ [c] } }

/-- The handler up to the reading of STATUS and DATA; `dre` tells whether it saw that flag, and the
characters of `mid` are exchanged meanwhile. -/
def beforeRead (s : Sys) (dre : Bool) (mid : List UInt16) : Option Sys :=
  (if dre && s.port.driver.hw.inten.dre then writeData s else some s).bind fun s =>
    (s.wire.exchanges mid).map fun w => { s with wire := w }

/-- What becomes of the transfer in progress where STATUS and DATA are read. -/
def Transfer.received (t : Transfer) (w : Wire) : Transfer :=
  if w.bufovf then { t with overflowed := true }
  else { t with taken := t.taken ++ (w.incoming.take 1).map fun c => (c.1, c.2 &&& dataMask) }

/-- The receive-complete part of the handler, with the count it was entered with.  A master with
its receiver enabled does nothing in the transmit-complete part. -/
def readData (s : Sys) (count : UInt16) : Option Sys :=
  let overflow := s.wire.bufovf
  let data := (s.wire.incoming.head?.map Prod.snd).getD 0
  let current := s.current.map fun t => t.received s.wire
  let wire := if overflow then s.wire.flush else s.wire.read
  match spiReceiveComplete s.port.driver overflow data with
  | (none, d) =>
      some { s with port := { s.port with driver := d }, current := current, wire := wire }
  | (some _, d) =>
      match samd21HalSpiCb { s.port with driver := d } with
      | .error _ => none
      | .ok (none, p) => some { s with port := p, current := current, wire := wire }
      | .ok (some _, p) =>
          some { s with
            port := p
            phase := .callback overflow
            wire := if overflow then s.wire else s.wire.read
            current := none
            log :=
              { transfer := current, count := count, xfer := p.hal.xfer,
                stored := p.driver.module.rxBufferPtr } :: s.log }

/-- What happens on the port. -/
inductive Event where
  | txrx (x : Txrx)
  | abort
  /-- A character is exchanged. -/
  | exchange (c : UInt16)
  /-- The handler runs and sees these flags; the characters of `mid` are exchanged meanwhile. -/
  | irq (dre rxc : Bool) (mid : List UInt16)
  /-- The callback returns to the handler. -/
  | cbReturn
deriving DecidableEq

/-- One step. -/
def step (s : Sys) : Event → Option Sys
  | .txrx x => startTransfer s x
  | .abort => abortTransfer s
  | .exchange c => (s.wire.exchange c).map fun w => { s with wire := w }
  | .irq dre rxc mid =>
      if s.phase = .idle ∧ (dre = true → s.wire.outgoing.length < 2) ∧
          (rxc = true → s.wire.incoming ≠ []) then
        (beforeRead s dre mid).bind fun s' =>
          if rxc && s.port.driver.hw.inten.rxc then
            readData s' s.port.driver.module.xferCount
          else some s'
      else none
  | .cbReturn =>
      match s.phase with
      | .idle => none
      | .callback overflow =>
          some { s with phase := .idle, wire := if overflow then s.wire.flush else s.wire }

/-! ## The property -/

/-- What a transfer has sent and received is right so far. -/
structure Transfer.Right (t : Transfer) (size : CharacterSize) (stored : Option (List UInt8)) :
    Prop where
  sent : t.written = t.chars.take t.written.length
  own : ∀ c ∈ t.taken, c.1 = some t.id
  stored : t.rx = true → stored = some (rxBytes size t.taken)

/-- A callback is called as it should: for a transfer in progress, with XFER clear, with the number
of characters received, and, unless there was an overflow, with all of them exchanged. -/
structure Report.Right (r : Report) (size : CharacterSize) : Prop where
  transfer : ∃ t, r.transfer = some t ∧ t.Right size r.stored ∧
    r.count.toNat = t.taken.length ∧
    (t.overflowed = false → t.taken.length = t.len ∧ t.written = t.chars)
  xfer : r.xfer = false

/-- The numbers of the transfers that were reported. -/
def reported (log : List Report) : List Nat :=
  log.filterMap fun r => r.transfer.map Transfer.id

/-- Transfers are carried out as `hal_spi.h` says. -/
structure Faithful (s : Sys) : Prop where
  /-- A transfer in progress is right so far, and not at its end. -/
  running : ∀ t ∈ s.current,
    t.Right s.port.driver.module.characterSize s.port.driver.module.rxBufferPtr ∧
      t.taken.length < t.len ∧ t.overflowed = false
  reports : ∀ r ∈ s.log, r.Right s.port.driver.module.characterSize
  /-- A transfer is reported once at most. -/
  once : (reported s.log).Nodup
  /-- Without a transfer in progress a new one is accepted. -/
  free : s.current = none →
    s.port.hal.xfer = false ∧ s.port.driver.module.status ≠ .busy

/-- The conditions under which the handler carries on a transfer as it should: what it reads is a
character of this transfer and not the last one, or an overflow that can be reported. -/
def Clean (s : Sys) : Event → Prop
  | .irq dre rxc mid =>
      (rxc && s.port.driver.hw.inten.rxc) = true → ∀ s' ∈ beforeRead s dre mid,
        ∀ t ∈ s'.current,
          if s'.wire.bufovf then
            t.rx = true ∧ Connected s.port.driver .error
          else
            t.taken.length + 1 < t.len ∧ ∀ c ∈ s'.wire.incoming.head?, c.1 = some t.id
  | _ => True

/-! ## What every step keeps -/

/-- A configured master with a callback. -/
structure Master (p : Port) : Prop where
  master : p.hal.master = true
  callback : p.hal.txrxCb ≠ none
  hw : p.driver.module.hw = true
  mode : p.driver.module.mode = .master
  receiverEnabled : p.driver.module.receiverEnabled = true
  dummy : p.driver.module.dummy = dummyNone

/-- What a character and the end of a transfer leave alone. -/
theorem Master.congr {p q : Port} (h : Master p) (hmaster : q.hal.master = p.hal.master)
    (hcallback : q.hal.txrxCb = p.hal.txrxCb) (hhw : q.driver.module.hw = p.driver.module.hw)
    (hmode : q.driver.module.mode = p.driver.module.mode)
    (hreceiver : q.driver.module.receiverEnabled = p.driver.module.receiverEnabled)
    (hdummy : q.driver.module.dummy = p.driver.module.dummy) : Master q where
  master := hmaster.trans h.master
  callback := hcallback ▸ h.callback
  hw := hhw.trans h.hw
  mode := hmode.trans h.mode
  receiverEnabled := hreceiver.trans h.receiverEnabled
  dummy := hdummy.trans h.dummy

/-- Where the driver is in a transfer. -/
structure Going (t : Transfer) (p : Port) : Prop where
  xfer : p.hal.xfer = true
  status : p.driver.module.status = .busy
  dir : p.driver.module.dir = .both
  pos : 0 < t.len
  le : t.len ≤ 65535
  total : p.driver.module.totalLength = .ofNat t.len
  written_le : t.written.length ≤ t.len
  tx : ∃ bytes, p.driver.module.txBufferPtr = some bytes ∧
    txChars p.driver.module.characterSize bytes = t.chars.drop t.written.length
  remainingTx : p.driver.module.remainingTxLength = .ofNat (t.len - t.written.length)
  dre : p.driver.hw.inten.dre = true → t.written.length < t.len
  remainingRx : p.driver.module.remainingRxLength =
    if t.rx then .ofNat (t.len - t.taken.length) else 0
  noRx : t.rx = false → p.driver.module.rxBufferPtr = none

/-- What every step keeps. -/
structure Inv (s : Sys) : Prop where
  master : Master s.port
  faithful : Faithful s
  going : ∀ t ∈ s.current, Going t s.port
  idle : s.current = none →
    (s.port.driver.hw.inten.dre = true → s.port.driver.module.txBufferPtr = none) ∧
      (s.port.driver.hw.inten.rxc = true → s.port.driver.module.rxBufferPtr = none)
  fresh : ∀ t ∈ s.current, t.id < s.next ∧ t.id ∉ reported s.log
  past : ∀ id ∈ reported s.log, id < s.next

theorem ofNat_sub_one {n : Nat} (h : 0 < n) : UInt16.ofNat n - 1 = .ofNat (n - 1) := by
  rw [show n = n - 1 + 1 by omega, UInt16.ofNat_add, Nat.add_sub_cancel]
  exact UInt16.add_sub_cancel _ _

theorem ofNat_eq_zero {n : Nat} (h : n ≤ 65535) : UInt16.ofNat n = 0 ↔ n = 0 := by
  constructor
  · intro heq
    have hnat := congrArg UInt16.toNat heq
    rw [UInt16.toNat_ofNat_of_lt' (Nat.lt_succ_of_le h)] at hnat
    exact hnat
  · rintro rfl
    rfl

theorem ofNat_sub_ofNat {n k : Nat} (hk : k ≤ n) :
    UInt16.ofNat n - .ofNat (n - k) = .ofNat k := by
  conv => lhs; rw [show n = k + (n - k) by omega, UInt16.ofNat_add]
  rw [show k + (n - k) - k = n - k by omega]
  exact UInt16.add_sub_cancel _ _

/-- A character that is written is the next one of the buffer. -/
theorem spiWrite_next {d d' : Driver} {done : Bool} {c c' : UInt16} {cs : List UInt16}
    {bytes : List UInt8} (hptr : d.module.txBufferPtr = some bytes)
    (hchars : txChars d.module.characterSize bytes = c :: cs)
    (h : spiWrite d = .ok (done, c', d')) :
    c' = c ∧ done = (d.module.remainingTxLength - 1 == 0) ∧
      ∃ bytes', txChars d.module.characterSize bytes' = cs ∧
        d' = { d with module := { d.module with
          txBufferPtr := some bytes', remainingTxLength := d.module.remainingTxLength - 1 } } := by
  unfold spiWrite at h
  dsimp only at h
  rw [hptr] at h
  cases hsize : d.module.characterSize with
  | bits8 =>
      rw [hsize] at h hchars
      cases bytes with
      | nil => cases hchars
      | cons b bytes =>
          cases h
          cases hchars
          exact ⟨rfl, rfl, bytes, rfl, by rw [← hsize]⟩
  | bits9 =>
      rw [hsize] at h hchars
      match bytes with
      | [] => cases hchars
      | [b] => cases hchars
      | b :: b' :: bytes =>
          cases h
          cases hchars
          exact ⟨rfl, rfl, bytes, rfl, by rw [← hsize]⟩

/-- A master without a transfer in progress. -/
theorem Inv.of_none {s : Sys} (hcur : s.current = none) (hm : Master s.port)
    (hreports : ∀ r ∈ s.log, r.Right s.port.driver.module.characterSize)
    (honce : (reported s.log).Nodup)
    (hfree : s.port.hal.xfer = false ∧ s.port.driver.module.status ≠ .busy)
    (hdre : s.port.driver.hw.inten.dre = true → s.port.driver.module.txBufferPtr = none)
    (hrxc : s.port.driver.hw.inten.rxc = true → s.port.driver.module.rxBufferPtr = none)
    (hpast : ∀ id ∈ reported s.log, id < s.next) : Inv s := by
  have hnone : ∀ t, t ∉ s.current := fun t ht => by
    rw [hcur] at ht
    cases ht
  exact
    { master := hm
      faithful :=
        { running := fun t ht => absurd ht (hnone t)
          reports := hreports
          once := honce
          free := fun _ => hfree }
      going := fun t ht => absurd ht (hnone t)
      idle := fun _ => ⟨hdre, hrxc⟩
      fresh := fun t ht => absurd ht (hnone t)
      past := hpast }

/-! ## Writing -/

/-- The part of the state that reading goes by is the same. -/
structure SameReading (s s' : Sys) : Prop where
  phase : s'.phase = s.phase
  next : s'.next = s.next
  log : s'.log = s.log
  inten : s'.port.driver.hw.inten.rxc = s.port.driver.hw.inten.rxc
  count : s'.port.driver.module.xferCount = s.port.driver.module.xferCount
  setup : SameSetup s.port.driver s'.port.driver

theorem SameReading.refl (s : Sys) : SameReading s s := ⟨rfl, rfl, rfl, rfl, rfl, .refl _⟩

theorem Going.txCases {t : Transfer} {p : Port} (h : Going t p) (hlt : t.written.length < t.len) :
    ∃ c cs bytes, t.chars.drop t.written.length = c :: cs ∧
      p.driver.module.txBufferPtr = some bytes ∧
      txChars p.driver.module.characterSize bytes = c :: cs := by
  obtain ⟨bytes, hptr, hchars⟩ := h.tx
  refine ⟨_, _, bytes, List.drop_eq_getElem_cons hlt, hptr, ?_⟩
  rw [hchars]
  exact List.drop_eq_getElem_cons hlt

/-- What the data-register-empty part does in a transfer. -/
theorem spiDataRegisterEmpty_going {t : Transfer} {p : Port} {d : Driver} {c : Option UInt16}
    (hm : Master p) (h : Going t p) (hlt : t.written.length < t.len)
    (hd : spiDataRegisterEmpty p.driver = .ok (c, d)) :
    ∃ c₀ cs bytes, t.chars.drop t.written.length = c₀ :: cs ∧ c = some c₀ ∧
      txChars p.driver.module.characterSize bytes = cs ∧
      d.module = { p.driver.module with
        txBufferPtr := some bytes
        remainingTxLength := .ofNat (t.len - (t.written.length + 1)) } ∧
      d.hw.inten.rxc = p.driver.hw.inten.rxc ∧
      (d.hw.inten.dre = true → t.written.length + 1 < t.len) := by
  obtain ⟨c₀, cs, bytes, hdrop, hptr, hchars⟩ := h.txCases hlt
  have hrem : p.driver.module.remainingTxLength - 1 =
      .ofNat (t.len - (t.written.length + 1)) := by
    rw [h.remainingTx, ofNat_sub_one (by omega)]
    rfl
  unfold spiDataRegisterEmpty at hd
  rw [if_neg (by simp [hm.mode])] at hd
  split at hd
  · cases hd
  rename_i done c' d' hwrite
  obtain ⟨rfl, hdone, bytes', hbytes', rfl⟩ := spiWrite_next hptr hchars hwrite
  rw [hrem] at hd hdone
  have hle := h.le
  refine ⟨_, cs, bytes', hdrop, ?_⟩
  cases done with
  | true =>
      rw [if_pos rfl, if_neg (by simp [spiDisableInts, h.dir])] at hd
      cases hd
      exact ⟨rfl, hbytes', rfl, by simp [spiDisableInts],
        fun hdre => absurd hdre (by simp [spiDisableInts, hm.dummy])⟩
  | false =>
      rw [if_neg (by decide)] at hd
      cases hd
      refine ⟨rfl, hbytes', rfl, rfl, fun _ => ?_⟩
      have hne := (ofNat_eq_zero (by omega)).not.mp (beq_eq_false_iff_ne.mp hdone.symm)
      omega

theorem take_succ_of_drop {α : Type*} {l cs : List α} {c : α} {k : Nat} (h : l.drop k = c :: cs) :
    l.take k ++ [c] = l.take (k + 1) ∧ l.drop (k + 1) = cs := by
  have hlt : k < l.length := by
    by_contra hle
    rw [List.drop_eq_nil_of_le (Nat.not_lt.mp hle)] at h
    cases h
  rw [List.drop_eq_getElem_cons hlt, List.cons.injEq] at h
  obtain ⟨rfl, rfl⟩ := h
  exact ⟨(List.take_succ_eq_append_getElem hlt).symm, rfl⟩

/-- The transfer in progress has written one more character. -/
theorem Inv.wrote {s : Sys} {t : Transfer} {d : Driver} {c : UInt16} {cs : List UInt16}
    {bytes : List UInt8} {w : Wire} (hs : Inv s) (ht : s.current = some t)
    (hdrop : t.chars.drop t.written.length = c :: cs)
    (hbytes : txChars s.port.driver.module.characterSize bytes = cs)
    (hmod : d.module = { s.port.driver.module with
      txBufferPtr := some bytes
      remainingTxLength := .ofNat (t.len - (t.written.length + 1)) })
    (hdre : d.hw.inten.dre = true → t.written.length + 1 < t.len) :
    Inv { s with
      port := { s.port with driver := d }
      wire := w
      current := some { t with written := t.written ++ [c] } } := by
  have hm := hs.master
  have hg := hs.going t ht
  obtain ⟨hright, hunfinished, hgoing⟩ := hs.faithful.running t ht
  obtain ⟨htake, hrest⟩ := take_succ_of_drop hdrop
  have hlen : (t.written ++ [c]).length = t.written.length + 1 := by simp
  have hlt : t.written.length < t.len := by
    by_contra hle
    rw [List.drop_eq_nil_of_le (Nat.not_lt.mp hle)] at hdrop
    cases hdrop
  constructor
  case master =>
    exact hm.congr rfl rfl (by rw [hmod]) (by rw [hmod]) (by rw [hmod]) (by rw [hmod])
  case faithful =>
    constructor
    case running =>
      rintro _ ⟨⟩
      rw [hmod]
      refine ⟨⟨?_, hright.own, hright.stored⟩, hunfinished, hgoing⟩
      rw [hlen, ← htake, ← hright.sent]
    case reports =>
      rw [hmod]
      exact hs.faithful.reports
    case once => exact hs.faithful.once
    case free => nofun
  case going =>
    rintro _ ⟨⟩
    exact
      { xfer := hg.xfer
        status := by rw [hmod]; exact hg.status
        dir := by rw [hmod]; exact hg.dir
        pos := hg.pos
        le := hg.le
        total := by rw [hmod]; exact hg.total
        written_le := by rw [hlen]; exact hlt
        tx := ⟨bytes, by rw [hmod], by rw [hmod, hlen]; exact hbytes.trans hrest.symm⟩
        remainingTx := by rw [hmod, hlen]; rfl
        dre := fun h => by rw [hlen]; exact hdre h
        remainingRx := by rw [hmod]; exact hg.remainingRx
        noRx := by rw [hmod]; exact hg.noRx }
  case idle => nofun
  case fresh =>
    rintro _ ⟨⟩
    exact hs.fresh t ht
  case past => exact hs.past

/-- The bus and the phase of the handler are free. -/
theorem Inv.setBus {s : Sys} (hs : Inv s) (phase : CbPhase) (w : Wire) :
    Inv { s with phase := phase, wire := w } :=
  ⟨hs.master, ⟨hs.faithful.running, hs.faithful.reports, hs.faithful.once, hs.faithful.free⟩,
    hs.going, hs.idle, hs.fresh, hs.past⟩

theorem Inv.setWire {s : Sys} (hs : Inv s) (w : Wire) : Inv { s with wire := w } :=
  hs.setBus s.phase w

/-- Without a transfer a dummy is written. -/
theorem writeData_idle {s : Sys} (hs : Inv s) (hcur : s.current = none)
    (hdre : s.port.driver.hw.inten.dre = true) :
    writeData s = some { s with wire := { s.wire with
      outgoing := s.wire.outgoing ++ [(none, s.port.driver.module.dummy &&& dataMask)] } } := by
  have hptr := (hs.idle hcur).1 hdre
  have hd : spiDataRegisterEmpty s.port.driver =
      .ok (some (s.port.driver.module.dummy &&& dataMask), s.port.driver) := by
    simp [spiDataRegisterEmpty, spiWrite, hptr, hs.master.mode]
  simp [writeData, hd, hcur]

theorem writeData_inv {s s' : Sys} (hs : Inv s) (hdre : s.port.driver.hw.inten.dre = true)
    (h : writeData s = some s') : Inv s' ∧ SameReading s s' := by
  cases hcur : s.current with
  | none =>
      rw [writeData_idle hs hcur hdre] at h
      cases h
      exact ⟨hs.setWire _, ⟨rfl, rfl, rfl, rfl, rfl, .refl _⟩⟩
  | some t =>
      have hg := hs.going t hcur
      have hlt := hg.dre hdre
      simp only [writeData] at h
      split at h
      · cases h
      · rename_i hd
        obtain ⟨_, _, _, -, hc, -⟩ := spiDataRegisterEmpty_going hs.master hg hlt hd
        cases hc
      · rename_i c d hd
        obtain ⟨c₀, cs, bytes, hdrop, hc, hbytes, hmod, hrxc, hdre'⟩ :=
          spiDataRegisterEmpty_going hs.master hg hlt hd
        cases hc
        cases h
        rw [hcur]
        exact ⟨hs.wrote hcur hdrop hbytes hmod hdre', ⟨rfl, rfl, rfl, hrxc,
          by simp only [hmod, SpiModule.xferCount], spiDataRegisterEmpty_sameSetup hd⟩⟩

theorem exchange_incoming {w w' : Wire} {c : UInt16} (h : w.exchange c = some w')
    (hne : w.incoming ≠ []) : w'.incoming ≠ [] := by
  unfold Wire.exchange at h
  split at h
  · cases h
  · split at h
    · cases h
      simp
    · cases h
      exact hne

theorem exchanges_incoming : ∀ {cs : List UInt16} {w w' : Wire}, w.exchanges cs = some w' →
    w.incoming ≠ [] → w'.incoming ≠ []
  | [], w, w', h, hne => by
      cases h
      exact hne
  | c :: cs, w, w', h, hne => by
      obtain ⟨u, hu, hrest⟩ := Option.bind_eq_some_iff.mp h
      exact exchanges_incoming hrest (exchange_incoming hu hne)

theorem writeData_incoming {s s' : Sys} (h : writeData s = some s') :
    s'.wire.incoming = s.wire.incoming := by
  unfold writeData at h
  split at h <;> cases h <;> rfl

theorem beforeRead_inv {s s' : Sys} {dre : Bool} {mid : List UInt16} (hs : Inv s)
    (h : beforeRead s dre mid = some s') :
    Inv s' ∧ SameReading s s' ∧ (s.wire.incoming ≠ [] → s'.wire.incoming ≠ []) := by
  obtain ⟨u, hu, hrest⟩ := Option.bind_eq_some_iff.mp h
  obtain ⟨w, hw, rfl⟩ := Option.map_eq_some_iff.mp hrest
  have hwrote : Inv u ∧ SameReading s u ∧ u.wire.incoming = s.wire.incoming := by
    split at hu
    · rename_i hdre
      rw [Bool.and_eq_true] at hdre
      obtain ⟨hinv, hsame⟩ := writeData_inv hs hdre.2 hu
      exact ⟨hinv, hsame, writeData_incoming hu⟩
    · cases hu
      exact ⟨hs, .refl s, rfl⟩
  obtain ⟨hinv, hsame, hin⟩ := hwrote
  exact ⟨hinv.setWire w, ⟨hsame.phase, hsame.next, hsame.log, hsame.inten, hsame.count, hsame.setup⟩,
    fun hne => exchanges_incoming hw (by rw [hin]; exact hne)⟩

/-! ## Reading -/

/-- The driver behind an overflow. -/
def overflowDriver (d : Driver) : Driver :=
  spiDisableInts { d with module := { d.module with status := .errOverflow, dir := .idle } }
    { dre := true, rxc := true, txc := false }

/-- The driver behind a character that was stored. -/
def storedDriver (d : Driver) (bytes : List UInt8) (data : UInt16) : Driver :=
  { d with module := { d.module with
      rxBufferPtr := some (bytes ++ charBytes d.module.characterSize (data &&& dataMask))
      remainingRxLength := d.module.remainingRxLength - 1 } }

theorem spiReceiveComplete_overflow {d : Driver} (data : UInt16) (hdir : d.module.dir ≠ .write) :
    spiReceiveComplete d true data = (spiCallCb d .error, overflowDriver d) := by
  unfold spiReceiveComplete
  rw [if_pos rfl, if_pos hdir]
  rfl

theorem spiReceiveComplete_dropped {d : Driver} (data : UInt16)
    (hptr : d.module.rxBufferPtr = none) : spiReceiveComplete d false data = (none, d) := by
  simp [spiReceiveComplete, spiRead, hptr]

theorem spiReceiveComplete_stored {d : Driver} {bytes : List UInt8} (data : UInt16)
    (hptr : d.module.rxBufferPtr = some bytes) (hmore : d.module.remainingRxLength - 1 ≠ 0) :
    spiReceiveComplete d false data = (none, storedDriver d bytes data) := by
  simp [spiReceiveComplete, spiRead, hptr, hmore, storedDriver]

theorem spiReceiveComplete_done {d : Driver} {bytes : List UInt8} (data : UInt16)
    (hptr : d.module.rxBufferPtr = some bytes) (hdone : d.module.remainingRxLength - 1 = 0)
    (hdir : d.module.dir = .both) :
    (spiReceiveComplete d false data).1 = spiCallCb d .bufferTransceived := by
  simp [spiReceiveComplete, spiRead, hptr, hdone, hdir, spiDisableInts, spiCallCb,
    SpiModule.callsCb]

theorem spiCallCb_eq_some {d : Driver} {type : SpiCallback} :
    spiCallCb d type = some type ↔ Connected d type := by
  simp [spiCallCb, SpiModule.callsCb, Connected, and_comm]

theorem spiCallCb_eq_none {d : Driver} {type : SpiCallback} (h : ¬ Connected d type) :
    spiCallCb d type = none := by
  unfold spiCallCb
  rw [if_neg]
  rw [SpiModule.callsCb, Bool.and_eq_true, and_comm]
  exact h

/-- What reading without a transfer leaves of the driver `d`. -/
structure StaysIdle (d d' : Driver) : Prop where
  setup : SameSetup d d'
  mode : d'.module.mode = d.module.mode
  dummy : d'.module.dummy = d.module.dummy
  characterSize : d'.module.characterSize = d.module.characterSize
  status : d'.module.status ≠ .busy
  txBufferPtr : d'.module.txBufferPtr = d.module.txBufferPtr
  rxBufferPtr : d'.module.rxBufferPtr = d.module.rxBufferPtr
  dre : d'.hw.inten.dre = true → d.hw.inten.dre = true

theorem Inv.staysIdle {s : Sys} {d : Driver} (hs : Inv s) (hcur : s.current = none)
    (hptr : s.port.driver.module.rxBufferPtr = none) (h : StaysIdle s.port.driver d) (w : Wire) :
    Inv { s with port := { s.port with driver := d }, current := none, wire := w } := by
  have hfree := hs.faithful.free hcur
  have hm : Master { s.port with driver := d } :=
    { master := hs.master.master
      callback := hs.master.callback
      hw := h.setup.hw.trans hs.master.hw
      mode := h.mode.trans hs.master.mode
      receiverEnabled := h.setup.receiverEnabled.trans hs.master.receiverEnabled
      dummy := h.dummy.trans hs.master.dummy }
  have hreports := hs.faithful.reports
  rw [← h.characterSize] at hreports
  exact .of_none rfl hm hreports hs.faithful.once ⟨hfree.1, h.status⟩
    (fun hdre => h.txBufferPtr.trans ((hs.idle hcur).1 (h.dre hdre)))
    (fun _ => h.rxBufferPtr.trans hptr) hs.past

/-- Without a transfer in progress, reading changes nothing that matters. -/
theorem readData_idle {s s' : Sys} {count : UInt16} (hs : Inv s) (hcur : s.current = none)
    (hrxc : s.port.driver.hw.inten.rxc = true) (h : readData s count = some s') : Inv s' := by
  have hfree := hs.faithful.free hcur
  have hptr := (hs.idle hcur).2 hrxc
  have hcb : ∀ d, samd21HalSpiCb { s.port with driver := d } =
      .ok (none, { s.port with driver := d }) := by
    intro d
    simp [samd21HalSpiCb, hfree.1]
  have hsame : ∀ w, Inv { s with current := none, wire := w } :=
    hs.staysIdle hcur hptr ⟨.refl _, rfl, rfl, rfl, hfree.2, rfl, rfl, id⟩
  unfold readData at h
  dsimp only at h
  rw [hcur] at h
  cases hovf : s.wire.bufovf with
  | false =>
      rw [hovf, spiReceiveComplete_dropped _ hptr] at h
      cases h
      exact hsame _
  | true =>
      rw [hovf] at h
      by_cases hdir : s.port.driver.module.dir = .write
      · have hrc : ∀ data, spiReceiveComplete s.port.driver true data = (none, s.port.driver) := by
          intro data
          simp [spiReceiveComplete, hdir]
        rw [hrc] at h
        cases h
        exact hsame _
      · rw [spiReceiveComplete_overflow _ hdir] at h
        have hover : ∀ w, Inv { s with
            port := { s.port with driver := overflowDriver s.port.driver }
            current := none, wire := w } :=
          hs.staysIdle hcur hptr ⟨⟨rfl, rfl, rfl, rfl⟩, rfl, rfl, rfl, nofun, rfl, rfl,
            fun h => (Bool.and_eq_true_iff.mp h).1⟩
        cases hcall : spiCallCb s.port.driver .error with
        | none =>
            rw [hcall] at h
            cases h
            exact hover _
        | some type =>
            rw [hcall] at h
            dsimp only at h
            rw [hcb] at h
            cases h
            exact hover _

/-- The count that the handler is entered with. -/
theorem Going.count {t : Transfer} {p : Port} (h : Going t p) (htaken : t.taken.length < t.len) :
    p.driver.module.xferCount.toNat = if t.rx then t.taken.length else t.len := by
  have hle := h.le
  have hsize : UInt16.size = 65536 := rfl
  rw [SpiModule.xferCount, h.total, h.remainingRx]
  split
  · rw [ofNat_sub_ofNat (by omega), UInt16.toNat_ofNat_of_lt' (by omega)]
  · rw [UInt16.sub_zero, UInt16.toNat_ofNat_of_lt' (by omega)]

/-- The call of the application's callback in a transfer. -/
theorem samd21HalSpiCb_going {t : Transfer} {p : Port} {d : Driver} (hm : Master p)
    (hg : Going t p) : ∃ cb, samd21HalSpiCb { p with driver := d } =
      .ok (some cb, Port.setXfer { p with driver := d } false) := by
  obtain ⟨cb, hcb⟩ := Option.ne_none_iff_exists'.mp hm.callback
  exact ⟨cb, by simp [samd21HalSpiCb, hg.xfer, hcb]⟩

/-- An overflow that can be reported ends the transfer as it should. -/
theorem readData_overflow {s s' : Sys} {t : Transfer} (hs : Inv s) (hcur : s.current = some t)
    (hovf : s.wire.bufovf = true) (hrx : t.rx = true) (hcon : Connected s.port.driver .error)
    (h : readData s s.port.driver.module.xferCount = some s') : Inv s' := by
  have hm := hs.master
  have hg := hs.going t hcur
  obtain ⟨hright, hunfinished, hgoing⟩ := hs.faithful.running t hcur
  obtain ⟨hfresh, hnew⟩ := hs.fresh t hcur
  obtain ⟨cb, hcall⟩ := samd21HalSpiCb_going (d := overflowDriver s.port.driver) hm hg
  unfold readData at h
  dsimp only at h
  rw [hcur, hovf, spiReceiveComplete_overflow _ (by rw [hg.dir]; nofun),
    spiCallCb_eq_some.mpr hcon] at h
  dsimp only at h
  rw [hcall] at h
  cases h
  have hcount := hg.count hunfinished
  rw [hrx, if_pos rfl] at hcount
  have hreceived : t.received s.wire = { t with overflowed := true } := by
    rw [Transfer.received, hovf, if_pos rfl]
  simp only [Option.map_some, hreceived]
  have hmaster : Master (Port.setXfer { s.port with driver := overflowDriver s.port.driver } false) :=
    hm.congr rfl rfl rfl rfl rfl rfl
  refine .of_none rfl hmaster ?_ (List.nodup_cons.mpr ⟨hnew, hs.faithful.once⟩) ⟨rfl, nofun⟩
    (fun hdre => absurd hdre ?_) (fun hrxc => absurd hrxc ?_) ?_
  · intro r hr
    rcases List.mem_cons.mp hr with rfl | hr
    · exact ⟨⟨_, rfl, ⟨hright.sent, hright.own, hright.stored⟩, hcount, nofun⟩, rfl⟩
    · exact hs.faithful.reports r hr
  · simp [Port.setXfer, overflowDriver, spiDisableInts, hm.dummy]
  · simp [Port.setXfer, overflowDriver, spiDisableInts]
  · intro id hid
    rcases List.mem_cons.mp hid with rfl | hid
    · exact hfresh
    · exact hs.past id hid

/-- The transfer in progress has read one more character, which was not the last: what is left to
store, and what is stored. -/
theorem Inv.took {s : Sys} {t : Transfer} {c : UInt16} {w : Wire} {ptr : Option (List UInt8)}
    {rest : UInt16} (hs : Inv s) (hcur : s.current = some t)
    (hmore : t.taken.length + 1 < t.len)
    (hrest : rest = if t.rx then .ofNat (t.len - (t.taken.length + 1)) else 0)
    (hstored : t.rx = true → ptr = some (rxBytes s.port.driver.module.characterSize
      (t.taken ++ [(some t.id, c &&& dataMask)])))
    (hnone : t.rx = false → ptr = none) :
    Inv { s with
      port := { s.port with driver := { s.port.driver with module := { s.port.driver.module with
        rxBufferPtr := ptr, remainingRxLength := rest } } }
      current := some { t with taken := t.taken ++ [(some t.id, c &&& dataMask)] }
      wire := w } := by
  have hm := hs.master
  have hg := hs.going t hcur
  obtain ⟨hright, -, hgoing⟩ := hs.faithful.running t hcur
  have hlen : (t.taken ++ [(some t.id, c &&& dataMask)]).length = t.taken.length + 1 := by simp
  have hown : ∀ r ∈ t.taken ++ [(some t.id, c &&& dataMask)], r.1 = some t.id := by
    intro r hr
    rcases List.mem_append.mp hr with hr | hr
    · exact hright.own r hr
    · rw [List.mem_singleton.mp hr]
  constructor
  case master => exact hm.congr rfl rfl rfl rfl rfl rfl
  case faithful =>
    exact
      { running := by
          rintro _ ⟨⟩
          exact ⟨⟨hright.sent, hown, hstored⟩, by rw [hlen]; exact hmore, hgoing⟩
        reports := hs.faithful.reports
        once := hs.faithful.once
        free := nofun }
  case going =>
    rintro _ ⟨⟩
    exact
      { xfer := hg.xfer, status := hg.status, dir := hg.dir, pos := hg.pos, le := hg.le
        total := hg.total, written_le := hg.written_le, tx := hg.tx
        remainingTx := hg.remainingTx, dre := hg.dre
        remainingRx := by rw [hlen]; exact hrest
        noRx := hnone }
  case idle => nofun
  case fresh =>
    rintro _ ⟨⟩
    exact hs.fresh t hcur
  case past => exact hs.past

theorem Transfer.received_cons {t : Transfer} {w : Wire} {c : Char} {cs : List Char}
    (hovf : w.bufovf = false) (hin : w.incoming = c :: cs) :
    t.received w = { t with taken := t.taken ++ [(c.1, c.2 &&& dataMask)] } := by
  rw [Transfer.received, hovf, hin]
  rfl

/-- A character of the transfer that is not the last one is stored. -/
theorem readData_character {s s' : Sys} {t : Transfer} (hs : Inv s) (hcur : s.current = some t)
    (hovf : s.wire.bufovf = false) {c : Char} {cs : List Char} (hin : s.wire.incoming = c :: cs)
    (hmore : t.taken.length + 1 < t.len) (hown : c.1 = some t.id)
    {count : UInt16} (h : readData s count = some s') : Inv s' := by
  have hg := hs.going t hcur
  have hle := hg.le
  obtain ⟨hright, -, -⟩ := hs.faithful.running t hcur
  have hrem := hg.remainingRx
  unfold readData at h
  dsimp only at h
  rw [hcur, hovf, Option.map_some, Transfer.received_cons hovf hin, hin, List.head?_cons,
    Option.map_some, Option.getD_some] at h
  cases hrx : t.rx with
  | false =>
      rw [spiReceiveComplete_dropped _ (hg.noRx hrx)] at h
      cases h
      rw [hown]
      rw [hrx, if_neg (by decide)] at hrem
      exact hs.took hcur hmore (by rw [hrx]; exact hrem) (fun h => absurd (hrx.symm.trans h) (by decide))
        hg.noRx
  | true =>
      rw [hrx, if_pos rfl] at hrem
      have hnext : s.port.driver.module.remainingRxLength - 1 =
          .ofNat (t.len - (t.taken.length + 1)) := by
        rw [hrem, ofNat_sub_one (by omega)]
        rfl
      have hleft : s.port.driver.module.remainingRxLength - 1 ≠ 0 := by
        rw [hnext]
        exact (ofNat_eq_zero (by omega)).not.mpr (by omega)
      rw [spiReceiveComplete_stored _ (hright.stored hrx) hleft] at h
      cases h
      rw [hown]
      exact hs.took hcur hmore (by rw [hrx]; exact hnext) (fun _ => by simp [rxBytes])
        (fun h => absurd (hrx.symm.trans h) (by decide))

/-! ## Calls -/

/-- What `hal_spi_txrx` does to a master with a callback. -/
inductive TxrxMaster (x : Txrx) (p : Port) : Except Fault (Int × Port) → Prop
  | refused {rc : Int} (hrc : rc ≠ 0) : TxrxMaster x p (.ok (rc, p))
  | accepted {bytes : List UInt8} (hpos : 0 < x.len) (hle : x.len ≤ 65535)
      (htxbuf : x.txbuf = some bytes) :
      TxrxMaster x p (.ok (0,
        { hal := { p.hal with xfer := true }
          driver := spiTransceiveBuffer p.driver x.txbuf x.rxbuf (.ofNat x.len.toNat) }))

theorem txrxPort_master {p : Port} (hm : Master p)
    (hfree : p.hal.xfer = false → p.driver.module.status ≠ .busy) (x : Txrx) :
    TxrxMaster x p (txrxPort x p) := by
  unfold txrxPort
  split
  · exact .refused (by decide)
  rename_i hlen
  split
  · exact .refused (by decide)
  rename_i hxfer
  split
  · exact .refused (by decide)
  rename_i htxbuf
  rw [if_neg (by simp [hm.master]), if_neg hm.callback]
  rw [not_and, ← ne_eq] at htxbuf
  obtain ⟨bytes, hbytes⟩ := Option.ne_none_iff_exists'.mp (htxbuf hm.master)
  have hjob : spiTransceiveBufferJob p.driver x.txbuf x.rxbuf (.ofNat x.len.toNat) =
      (.ok, spiTransceiveBuffer p.driver x.txbuf x.rxbuf (.ofNat x.len.toNat)) := by
    unfold spiTransceiveBufferJob
    rw [if_neg ((ofNat_eq_zero (by omega)).not.mpr (by omega)),
      if_neg (by simp [hm.receiverEnabled]), if_neg (hfree (by simpa using hxfer))]
  have hcall : samd21HalSpiTxrxNonblocking x p = (0,
      { hal := { p.hal with xfer := true }
        driver := spiTransceiveBuffer p.driver x.txbuf x.rxbuf (.ofNat x.len.toNat) }) := by
    simp only [samd21HalSpiTxrxNonblocking, Port.setXfer, hjob, samd21HalSpiRcFromStatus]
  rw [hcall]
  exact .accepted (by omega) (by omega) hbytes

/-- A transfer begins. -/
theorem Inv.begun {s : Sys} {x : Txrx} {bytes : List UInt8} (hs : Inv s)
    (hpos : 0 < x.len) (hle : x.len ≤ 65535) (htxbuf : x.txbuf = some bytes)
    (hchars : (txChars s.port.driver.module.characterSize bytes).length = x.len.toNat) :
    Inv { s with
      port :=
        { hal := { s.port.hal with xfer := true }
          driver := spiTransceiveBuffer s.port.driver x.txbuf x.rxbuf (.ofNat x.len.toNat) }
      next := s.next + 1
      current := some
        { id := s.next, chars := txChars s.port.driver.module.characterSize bytes, rx := x.rxbuf,
          written := [], taken := [], overflowed := false } } := by
  have hm := hs.master
  constructor
  case master => exact hm.congr rfl rfl rfl rfl rfl rfl
  case faithful =>
    constructor
    case running =>
      rintro _ ⟨⟩
      refine ⟨⟨rfl, nofun, fun hrx => if_pos hrx⟩, ?_, rfl⟩
      simp only [Transfer.len, hchars, List.length_nil]
      omega
    case reports => exact hs.faithful.reports
    case once => exact hs.faithful.once
    case free => nofun
  case going =>
    rintro _ ⟨⟩
    exact
      { xfer := rfl
        status := rfl
        dir := rfl
        pos := by simp only [Transfer.len, hchars]; omega
        le := by simp only [Transfer.len, hchars]; omega
        total := by simp only [Transfer.len, hchars]; rfl
        written_le := Nat.zero_le _
        tx := ⟨bytes, htxbuf, rfl⟩
        remainingTx := by
          simp only [Transfer.len, hchars, htxbuf, spiTransceiveBuffer, Option.isSome_some, if_true]
          rfl
        dre := fun _ => by simp only [Transfer.len, hchars, List.length_nil]; omega
        remainingRx := by simp only [Transfer.len, hchars]; rfl
        noRx := fun hrx => by
          have hrx' : x.rxbuf = false := hrx
          simp [spiTransceiveBuffer, hrx'] }
  case idle => nofun
  case fresh =>
    rintro _ ⟨⟩
    exact ⟨Nat.lt_succ_self _, fun hid => Nat.lt_irrefl _ (hs.past _ hid)⟩
  case past => exact fun id hid => Nat.lt_succ_of_lt (hs.past id hid)

theorem startTransfer_inv {s s' : Sys} {x : Txrx} (hs : Inv s)
    (h : startTransfer s x = some s') : Inv s' := by
  have hfree : s.port.hal.xfer = false → s.port.driver.module.status ≠ .busy := by
    intro hxfer
    cases hcur : s.current with
    | none => exact (hs.faithful.free hcur).2
    | some t => exact absurd ((hs.going t hcur).xfer.symm.trans hxfer) (by decide)
  have hcases := txrxPort_master hs.master hfree x
  unfold startTransfer at h
  dsimp only at h
  generalize txrxPort x s.port = r at hcases h
  cases hcases with
  | refused hrc =>
      dsimp only at h
      rw [if_pos hrc] at h
      cases h
      exact hs
  | accepted hpos hle htxbuf =>
      dsimp only at h
      rw [if_neg (by decide), Option.ite_none_right_eq_some, htxbuf, Option.getD_some] at h
      obtain ⟨hchars, h⟩ := h
      cases h
      have hbegun := hs.begun hpos hle htxbuf hchars
      rw [htxbuf] at hbegun
      exact hbegun

theorem abortTransfer_inv {s s' : Sys} (hs : Inv s) (h : abortTransfer s = some s') : Inv s' := by
  have hm := hs.master
  simp only [abortTransfer, abortPort, spiAbortJob, hm.hw, Bool.true_eq_false, if_false] at h
  cases h
  refine .of_none rfl ?_ hs.faithful.reports hs.faithful.once ⟨rfl, fun h => by cases h⟩
    (fun hdre => absurd hdre ?_) (fun hrxc => absurd hrxc ?_) hs.past
  · exact hm.congr rfl rfl rfl rfl rfl rfl
  · simp [spiDisableInts, hm.dummy]
  · simp [spiDisableInts]

/-! ## What goes wrong -/

/-- Where no callback is called, the transfer stays in progress. -/
theorem readData_uncalled {s s' : Sys} {t : Transfer} {count : UInt16} {d : Driver}
    (hcur : s.current = some t)
    (hrc : spiReceiveComplete s.port.driver s.wire.bufovf
      ((s.wire.incoming.head?.map Prod.snd).getD 0) = (none, d))
    (h : readData s count = some s') : s'.current = some (t.received s.wire) := by
  unfold readData at h
  dsimp only at h
  rw [hrc, hcur] at h
  cases h
  rfl

/-- Where a callback is called, it is given the count. -/
theorem readData_called {s s' : Sys} {t : Transfer} {count : UInt16} {d : Driver}
    {type : SpiCallback} (hs : Inv s) (hcur : s.current = some t)
    (hrc : spiReceiveComplete s.port.driver s.wire.bufovf
      ((s.wire.incoming.head?.map Prod.snd).getD 0) = (some type, d))
    (h : readData s count = some s') :
    ∃ r ∈ s'.log, r.transfer = some (t.received s.wire) ∧ r.count = count := by
  obtain ⟨cb, hcall⟩ := samd21HalSpiCb_going (d := d) hs.master (hs.going t hcur)
  unfold readData at h
  dsimp only at h
  rw [hrc, hcur] at h
  dsimp only at h
  rw [hcall] at h
  cases h
  exact ⟨_, List.mem_cons_self .., rfl, rfl⟩

theorem Faithful.count {s : Sys} {r : Report} {t : Transfer} (h : Faithful s) (hr : r ∈ s.log)
    (ht : r.transfer = some t) : r.count.toNat = t.taken.length := by
  obtain ⟨t', ht', -, hcount, -⟩ := (h.reports r hr).transfer
  rw [ht] at ht'
  cases ht'
  exact hcount

/-- An overflow that is not reported, or without a buffer. -/
theorem readData_overflow_break {s s' : Sys} {t : Transfer} (hs : Inv s)
    (hcur : s.current = some t) (hovf : s.wire.bufovf = true)
    (hbad : ¬ (t.rx = true ∧ Connected s.port.driver .error))
    (h : readData s s.port.driver.module.xferCount = some s') : ¬ Faithful s' := by
  intro hf
  have hg := hs.going t hcur
  obtain ⟨-, hunfinished, -⟩ := hs.faithful.running t hcur
  have hrc := spiReceiveComplete_overflow ((s.wire.incoming.head?.map Prod.snd).getD 0)
    (d := s.port.driver) (by rw [hg.dir]; nofun)
  have hreceived : t.received s.wire = { t with overflowed := true } := by
    rw [Transfer.received, hovf, if_pos rfl]
  rw [← hovf] at hrc
  by_cases hcon : Connected s.port.driver .error
  · rw [spiCallCb_eq_some.mpr hcon] at hrc
    obtain ⟨r, hr, ht, hcount⟩ := readData_called hs hcur hrc h
    rw [hreceived] at ht
    have hright := hf.count hr ht
    have hnull := hg.count hunfinished
    rw [if_neg fun hrx => hbad ⟨hrx, hcon⟩, ← hcount, hright] at hnull
    exact absurd hnull (Nat.ne_of_lt hunfinished)
  · rw [spiCallCb_eq_none hcon] at hrc
    obtain ⟨-, -, hgoing⟩ := hf.running _ (readData_uncalled hcur hrc h)
    rw [hreceived] at hgoing
    cases hgoing

/-- A character of another transfer. -/
theorem readData_stale_break {s s' : Sys} {t : Transfer} {count : UInt16} (hs : Inv s)
    (hcur : s.current = some t) (hovf : s.wire.bufovf = false) {c : Char} {cs : List Char}
    (hin : s.wire.incoming = c :: cs) (hmore : t.taken.length + 1 < t.len)
    (hstale : c.1 ≠ some t.id) (h : readData s count = some s') : ¬ Faithful s' := by
  intro hf
  have hg := hs.going t hcur
  obtain ⟨hright, -, -⟩ := hs.faithful.running t hcur
  have hrc : ∃ d, spiReceiveComplete s.port.driver s.wire.bufovf
      ((s.wire.incoming.head?.map Prod.snd).getD 0) = (none, d) := by
    rw [hovf]
    by_cases hrx : t.rx = true
    · refine ⟨_, spiReceiveComplete_stored _ (hright.stored hrx) ?_⟩
      have hle := hg.le
      rw [hg.remainingRx, if_pos hrx, ofNat_sub_one (by omega)]
      exact (ofNat_eq_zero (by omega)).not.mpr (by omega)
    · exact ⟨_, spiReceiveComplete_dropped _ (hg.noRx (Bool.not_eq_true _ ▸ hrx))⟩
  obtain ⟨d, hrc⟩ := hrc
  obtain ⟨hown, -, -⟩ := hf.running _ (readData_uncalled hcur hrc h)
  rw [Transfer.received_cons hovf hin] at hown
  exact hstale (hown.own (c.1, c.2 &&& dataMask) (by simp))

/-- The last character: with a buffer the count is one short, without one the transfer does not
end. -/
theorem readData_last_break {s s' : Sys} {t : Transfer} (hs : Inv s) (hcur : s.current = some t)
    (hovf : s.wire.bufovf = false) {c : Char} {cs : List Char} (hin : s.wire.incoming = c :: cs)
    (hlast : ¬ t.taken.length + 1 < t.len)
    (h : readData s s.port.driver.module.xferCount = some s') : ¬ Faithful s' := by
  intro hf
  have hg := hs.going t hcur
  obtain ⟨hright, hunfinished, -⟩ := hs.faithful.running t hcur
  have hreceived := Transfer.received_cons (t := t) hovf hin
  have huncalled : ∀ d, spiReceiveComplete s.port.driver s.wire.bufovf
      ((s.wire.incoming.head?.map Prod.snd).getD 0) ≠ (none, d) := by
    intro d hrc
    obtain ⟨-, hend, -⟩ := hf.running _ (readData_uncalled hcur hrc h)
    rw [hreceived] at hend
    exact hlast (by simpa [Transfer.len] using hend)
  by_cases hrx : t.rx = true
  · have hdone : s.port.driver.module.remainingRxLength - 1 = 0 := by
      have hle := hg.le
      rw [hg.remainingRx, if_pos hrx, ofNat_sub_one (by omega)]
      exact (ofNat_eq_zero (by omega)).mpr (by omega)
    have hfst := spiReceiveComplete_done ((s.wire.incoming.head?.map Prod.snd).getD 0)
      (hright.stored hrx) hdone hg.dir
    rw [← hovf] at hfst
    generalize hrc : spiReceiveComplete s.port.driver s.wire.bufovf
      ((s.wire.incoming.head?.map Prod.snd).getD 0) = r at hfst
    obtain ⟨type, d⟩ := r
    cases type with
    | none => exact huncalled d hrc
    | some type =>
        obtain ⟨r, hr, ht, hcount⟩ := readData_called hs hcur hrc h
        rw [hreceived] at ht
        have hfull := hf.count hr ht
        have hshort := hg.count hunfinished
        rw [if_pos hrx, ← hcount, hfull, List.length_append, List.length_singleton] at hshort
        omega
  · refine huncalled s.port.driver ?_
    rw [hovf]
    exact spiReceiveComplete_dropped _ (hg.noRx (Bool.not_eq_true _ ▸ hrx))

/-! ## Runs -/

/-- What an interrupt comes to. -/
inductive IrqStep (s : Sys) (dre rxc : Bool) (mid : List UInt16) (t : Sys) : Prop
  | write (h : beforeRead s dre mid = some t) (hrxc : (rxc && s.port.driver.hw.inten.rxc) = false)
  | read {s' : Sys} (h : beforeRead s dre mid = some s')
      (hrxc : (rxc && s.port.driver.hw.inten.rxc) = true) (hin : s'.wire.incoming ≠ [])
      (hinten : s'.port.driver.hw.inten.rxc = true) (hs' : Inv s')
      (hmasks : Connected s'.port.driver .error ↔ Connected s.port.driver .error)
      (hread : readData s' s'.port.driver.module.xferCount = some t)

theorem irq_cases {s t : Sys} {dre rxc : Bool} {mid : List UInt16} (hs : Inv s)
    (h : step s (.irq dre rxc mid) = some t) : IrqStep s dre rxc mid t := by
  simp only [step] at h
  rw [Option.ite_none_right_eq_some] at h
  obtain ⟨⟨-, -, hne⟩, h⟩ := h
  obtain ⟨s', hbefore, h⟩ := Option.bind_eq_some_iff.mp h
  obtain ⟨hs', hsame, hin⟩ := beforeRead_inv hs hbefore
  cases hrxc : rxc && s.port.driver.hw.inten.rxc with
  | false =>
      rw [hrxc, if_neg (by decide)] at h
      cases h
      exact .write hbefore hrxc
  | true =>
      rw [hrxc, if_pos rfl] at h
      rw [Bool.and_eq_true] at hrxc
      refine .read hbefore (Bool.and_eq_true_iff.mpr hrxc) (hin (hne hrxc.1))
        (hsame.inten.trans hrxc.2) hs' ?_ ?_
      · rw [Connected, Connected, hsame.setup.registeredCallback, hsame.setup.enabledCallback]
      · rw [hsame.count]
        exact h

theorem step_inv {s t : Sys} {e : Event} (hs : Inv s) (hC : Clean s e)
    (h : step s e = some t) : Inv t := by
  cases e with
  | txrx x => exact startTransfer_inv hs h
  | abort => exact abortTransfer_inv hs h
  | exchange c =>
      obtain ⟨w, -, rfl⟩ := Option.map_eq_some_iff.mp h
      exact hs.setWire w
  | cbReturn =>
      simp only [step] at h
      split at h
      · cases h
      · cases h
        exact hs.setBus .idle _
  | irq dre rxc mid =>
      cases irq_cases hs h with
      | write hbefore => exact (beforeRead_inv hs hbefore).1
      | @read s' hbefore hrxc hin hinten hs' hmasks hread =>
          cases hcur : s'.current with
          | none => exact readData_idle hs' hcur hinten hread
          | some tr =>
              have hclean := hC hrxc s' hbefore tr hcur
              cases hovf : s'.wire.bufovf with
              | true =>
                  rw [hovf, if_pos rfl] at hclean
                  exact readData_overflow hs' hcur hovf hclean.1 (hmasks.mpr hclean.2) hread
              | false =>
                  rw [hovf, if_neg (by decide)] at hclean
                  obtain ⟨c, cs, hcs⟩ := List.exists_cons_of_ne_nil hin
                  exact readData_character hs' hcur hovf hcs hclean.1
                    (hclean.2 c (by rw [hcs]; rfl)) hread

/-- A step that is not clean goes wrong. -/
theorem not_faithful_of_not_clean {s t : Sys} {e : Event} (hs : Inv s) (hC : ¬ Clean s e)
    (h : step s e = some t) : ¬ Faithful t := by
  cases e with
  | txrx | abort | exchange | cbReturn => exact absurd trivial hC
  | irq dre rxc mid =>
      simp only [Clean, not_forall] at hC
      obtain ⟨hrxc, s', hbefore, tr, hcur, hbad⟩ := hC
      cases irq_cases hs h with
      | write _ hno =>
          rw [hno] at hrxc
          cases hrxc
      | @read s'' hbefore' _ hin _ hs' hmasks hread =>
          obtain rfl : s' = s'' := Option.some.inj (hbefore.symm.trans hbefore')
          cases hovf : s'.wire.bufovf with
          | true =>
              rw [hovf, if_pos rfl, ← hmasks] at hbad
              exact readData_overflow_break hs' hcur hovf hbad hread
          | false =>
              rw [hovf, if_neg (by decide)] at hbad
              obtain ⟨c, cs, hcs⟩ := List.exists_cons_of_ne_nil hin
              by_cases hmore : tr.taken.length + 1 < tr.len
              · refine readData_stale_break hs' hcur hovf hcs hmore (fun hown => hbad ⟨hmore, ?_⟩) hread
                rw [hcs]
                rintro _ ⟨⟩
                exact hown
              · exact readData_last_break hs' hcur hovf hcs hmore hread

/-- A master port that is configured, enabled and has a callback, with no transfer in progress. -/
structure Ready (p : Port) : Prop extends Master p where
  enabled : p.hal.enabled = true
  xfer : p.hal.xfer = false
  status : p.driver.module.status ≠ .busy
  dre : p.driver.hw.inten.dre = true → p.driver.module.txBufferPtr = none
  rxc : p.driver.hw.inten.rxc = true → p.driver.module.rxBufferPtr = none

theorem Inv.start {p : Port} (hp : Ready p) (outgoing incoming : List UInt16) (bufovf : Bool) :
    Inv (Sys.start p outgoing incoming bufovf) :=
  .of_none rfl hp.toMaster nofun List.nodup_nil ⟨hp.xfer, hp.status⟩ hp.dre hp.rxc nofun

/-- In every run of a ready port, with any characters of earlier times
on its bus, transfers are carried out faithfully in every state exactly when every interrupt that
reads DATA in a transfer is clean: it reads a character of this transfer that is not the last one,
or it meets an overflow that can be reported. -/
theorem faithful_iff_clean {p : Port} (hp : Ready p) {outgoing incoming : List UInt16}
    {bufovf : Bool} {es : List Event} {t : Sys}
    (hrun : Run.run step (Sys.start p outgoing incoming bufovf) es = some t) :
    Run.Throughout step Faithful (Sys.start p outgoing incoming bufovf) es ↔
      Run.Along step Clean (Sys.start p outgoing incoming bufovf) es :=
  Run.throughout_iff_along (fun _ hs => hs.faithful) (fun _ _ _ => step_inv)
    (fun _ _ _ => not_faithful_of_not_clean) (Inv.start hp outgoing incoming bufovf) hrun

/-! ## A port of the board -/

/-- A call on a port as a step. -/
def portStep (p : Port) (c : Call) : Option Port := (callPort c p).toOption.map Prod.snd

/-- A port is set up as a master. -/
def readyCalls : List Call :=
  [.init (some 0) .master, .config (some plainSettings), .setTxrxCb (some 1) none, .enable]

theorem readyCalls_run : (Run.run portStep .reset readyCalls).isSome := rfl

/-- The port that is set up. -/
def readyPort : Port := (Run.run portStep .reset readyCalls).get readyCalls_run

theorem readyPort_ready : Ready readyPort where
  master := rfl
  callback := Option.some_ne_none 1
  hw := rfl
  mode := rfl
  receiverEnabled := rfl
  dummy := rfl
  enabled := rfl
  xfer := rfl
  status := nofun
  dre := nofun
  rxc := nofun

/-- A transfer with a buffer for what comes in. -/
def transfer (bytes : List UInt8) : Event :=
  .txrx { txbuf := some bytes, rxbuf := true, len := bytes.length, irqs := [], wait := none }

instance (d : Driver) (type : SpiCallback) : Decidable (Connected d type) :=
  inferInstanceAs (Decidable (_ ∧ _))

instance (s : Sys) (e : Event) : Decidable (Clean s e) := by
  cases e <;> unfold Clean <;> infer_instance

/-- Two characters of three are exchanged, an abort ends the transfer. -/
def abortedRun : List Event :=
  [transfer [1, 2, 3], .irq true false [], .exchange 7, .irq true true [], .exchange 8,
    .irq true true [], .abort]

theorem abortedRun_run : (Run.run step (Sys.start readyPort [] [] false) abortedRun).isSome := by
  decide

theorem faithful_iff_clean_abortedRun :
    Run.Throughout step Faithful (Sys.start readyPort [] [] false) abortedRun :=
  (faithful_iff_clean readyPort_ready (Option.some_get abortedRun_run).symm).mpr (by decide)

/-- A transfer of one character completes. -/
def completedRun : List Event := [transfer [1], .irq true false [], .exchange 7, .irq true true []]

/-- The callback of a completed transfer is given a count that is one short. -/
theorem completed_count_short :
    ∃ t, Run.run step (Sys.start readyPort [] [] false) completedRun = some t ∧ ¬ Faithful t := by
  refine ⟨_, rfl, fun h => ?_⟩
  exact absurd (h.count (List.mem_cons_self ..) rfl) (by decide)

end HalSpi.Bus
