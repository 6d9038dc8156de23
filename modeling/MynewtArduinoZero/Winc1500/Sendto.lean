import MynewtArduinoZero.Lib.Cells
import MynewtArduinoZero.Winc1500.Socket
import MynewtArduinoZero.Winc1500.StreamTx

/-!
# Sending a datagram

`winc1500_sock_sendto` for a socket that is not a stream.  It reads the
destination, takes the mutex, copies the chain of mbufs into `tx_buf`, unless it
is too long, and hands the buffer to `sendto` of the chip driver.  The chain is
freed when the request has gone out.

The destination is a pointer, and the call reads through it without a look.
-/

namespace Winc1500

namespace Sendto

open Cells
open Rx (SockType)
open StreamTx (Mbuf bytes ids)

/-! ## The call -/

/-- What stops the call. -/
inductive Fault where
  | nullPointer
deriving DecidableEq

/-- A datagram and where it goes. -/
abbrev Datagram := SockaddrIn × List UInt8

/-- What the call writes, and what it has asked for. -/
structure Driver where
  /-- The memory from `tx_buf` on. -/
  txBuf : Nat → UInt8
  /-- The times `wi_mtx` was taken and released. -/
  taken : Nat
  released : Nat
  /-- What `sendto` was called with. -/
  passed : List Datagram
  /-- The requests that went to the chip. -/
  sent : List Datagram
  /-- The mbufs freed. -/
  freed : List Nat

/-- `sizeof(wss->tx_buf)`. -/
def txBufSize : Nat := 1500

/-- `SOCKET_BUFFER_MAX_LENGTH`. -/
def socketBufferMaxLength : Nat := 1400

/-- `sendto` of the chip driver, on `tx_buf`.  `ok` says whether `hif_send` takes the request. -/
def sendto (d : Driver) (bIsUsed ok : Bool) (u16SendLength : Nat) (sin : SockaddrIn) :
    Int × Driver :=
  let data := bytesAt d.txBuf 0 u16SendLength
  let d := { d with passed := d.passed ++ [(sin, data)] }
  if u16SendLength ≤ socketBufferMaxLength ∧ bIsUsed then
    if ok then (sockErrNoError, { d with sent := d.sent ++ [(sin, data)] })
    else (sockErrBufferFull, d)
  else (sockErrInvalidArg, d)

/-- The loop over the chain: `off` behind it, or `none` for the exit in the middle, and the
buffer. -/
def copyChain : List Mbuf → (off : Nat) → (txBuf : Nat → UInt8) → Option Nat × (Nat → UInt8)
  | [], off, txBuf => (some off, txBuf)
  | o :: rest, off, txBuf =>
      if off + o.omData.length > txBufSize then (none, txBuf)
      else copyChain rest (off + o.omData.length) (overlay txBuf off o.omData)

/-- `winc1500_sock_sendto` for a socket whose type is not `SOCK_STREAM`. -/
def winc1500SockSendto (mn : MnSocket) (wsType : SockType) (d : Driver) (m : List Mbuf)
    (dst : Option MnSockaddrIn) (bIsUsed ok : Bool) : Except Fault (Int × Driver) :=
  match dst with
  | none => .error .nullPointer
  | some dst =>
      match winc1500MnAddrToAddr mn dst with
      | .error rc => .ok (rc, d)
      | .ok sin =>
          let d := { d with taken := d.taken + 1 }
          match copyChain m 0 d.txBuf with
          | (none, txBuf) =>
              .ok (mn.einval, { d with txBuf := txBuf, released := d.released + 1 })
          | (some off, txBuf) =>
              let (rc, d) := sendto { d with txBuf := txBuf } bIsUsed ok off sin
              let d := { d with released := d.released + 1 }
              if rc ≠ 0 then .ok (mn.winc1500ErrToMnErr rc, d)
              else if wsType = .dgram then .ok (0, { d with freed := d.freed ++ ids m })
              else .ok (0, d)

/-! ## What the parts do -/

/-- A chain that fits is copied as a whole. -/
theorem copyChain_fits {m : List Mbuf} {off : Nat} (txBuf : Nat → UInt8)
    (h : off + (bytes m).length ≤ txBufSize) :
    copyChain m off txBuf = (some (off + (bytes m).length), overlay txBuf off (bytes m)) := by
  induction m generalizing off txBuf with
  | nil =>
      change (some off, txBuf) = (some (off + 0), overlay txBuf off [])
      rw [overlay_nil, Nat.add_zero]
  | cons o rest ih =>
      have hbytes : bytes (o :: rest) = o.omData ++ bytes rest := List.flatMap_cons
      rw [hbytes, List.length_append, ← Nat.add_assoc] at h ⊢
      rw [copyChain, if_neg (by omega), ih _ h, overlay_append]

/-- One that does not ends the loop. -/
theorem copyChain_long {m : List Mbuf} {off : Nat} (txBuf : Nat → UInt8) (hoff : off ≤ txBufSize)
    (h : txBufSize < off + (bytes m).length) : (copyChain m off txBuf).1 = none := by
  induction m generalizing off txBuf with
  | nil =>
      change txBufSize < off + 0 at h
      omega
  | cons o rest ih =>
      have hbytes : bytes (o :: rest) = o.omData ++ bytes rest := List.flatMap_cons
      rw [hbytes, List.length_append, ← Nat.add_assoc] at h
      rw [copyChain]
      split
      next => rfl
      next hroom => exact ih _ (Nat.not_lt.mp hroom) h

/-- The loop writes inside the buffer. -/
theorem copyChain_inside (m : List Mbuf) {off : Nat} (txBuf : Nat → UInt8) {a : Nat}
    (ha : txBufSize ≤ a) : (copyChain m off txBuf).2 a = txBuf a := by
  induction m generalizing off txBuf with
  | nil => rfl
  | cons o rest ih =>
      rw [copyChain]
      split
      next => rfl
      next hroom =>
        rw [ih]
        exact overlay_of_le (by omega)

/-- The chip driver takes a datagram. -/
def Takes (bIsUsed ok : Bool) (n : Nat) : Prop :=
  n ≤ socketBufferMaxLength ∧ bIsUsed = true ∧ ok = true

variable {d : Driver} {bIsUsed ok : Bool} {n : Nat} {sin : SockaddrIn}

theorem sendto_takes (h : Takes bIsUsed ok n) :
    sendto d bIsUsed ok n sin =
      (0, { d with
        passed := d.passed ++ [(sin, bytesAt d.txBuf 0 n)]
        sent := d.sent ++ [(sin, bytesAt d.txBuf 0 n)] }) := by
  obtain ⟨hlen, rfl, rfl⟩ := h
  rw [sendto, if_pos ⟨hlen, rfl⟩, if_pos rfl]
  rfl

theorem sendto_refuses (h : ¬ Takes bIsUsed ok n) :
    ∃ rc ≠ 0, sendto d bIsUsed ok n sin =
      (rc, { d with passed := d.passed ++ [(sin, bytesAt d.txBuf 0 n)] }) := by
  rw [sendto]
  split
  next hused =>
    cases ok with
    | true => exact absurd ⟨hused.1, hused.2, rfl⟩ h
    | false => exact ⟨sockErrBufferFull, by decide, rfl⟩
  next hunused => exact ⟨sockErrInvalidArg, by decide, rfl⟩

/-! ## When the call is right -/

/-- The destination is an address, and the datagram fits into the buffer. -/
def Sendable (mn : MnSocket) (m : List Mbuf) (dst : Option MnSockaddrIn) (sin : SockaddrIn) :
    Prop :=
  (∃ addr, dst = some addr ∧ winc1500MnAddrToAddr mn addr = .ok sin) ∧
    (bytes m).length ≤ txBufSize

/-- What a call that returns `rc` does: it passes on exactly the bytes of the chain, it sends and
frees nothing unless it succeeds, and the chain as a whole if it does, it writes inside the buffer,
and it releases the mutex as often as it takes it. -/
structure Right (mn : MnSocket) (d : Driver) (m : List Mbuf) (dst : Option MnSockaddrIn)
    (bIsUsed ok : Bool) (rc : Int) (t : Driver) : Prop where
  passed : ∀ sin, Sendable mn m dst sin → t.passed = d.passed ++ [(sin, bytes m)]
  notPassed : (∀ sin, ¬ Sendable mn m dst sin) → t.passed = d.passed ∧ rc ≠ 0
  refused : ¬ Takes bIsUsed ok (bytes m).length → rc ≠ 0
  failed : rc ≠ 0 → t.sent = d.sent ∧ t.freed = d.freed
  succeeded : rc = 0 → (∃ sin, Sendable mn m dst sin ∧ t.sent = d.sent ++ [(sin, bytes m)]) ∧
    t.freed = d.freed ++ ids m
  inside : ∀ a, txBufSize ≤ a → t.txBuf a = d.txBuf a
  mutex : t.taken + d.released = t.released + d.taken

variable {mn : MnSocket} {m : List Mbuf} {addr : MnSockaddrIn}

theorem sendable_iff (hsin : winc1500MnAddrToAddr mn addr = .ok sin) {sin' : SockaddrIn} :
    Sendable mn m (some addr) sin' ↔ sin' = sin ∧ (bytes m).length ≤ txBufSize := by
  constructor
  · rintro ⟨⟨addr', haddr, hsin'⟩, hlen⟩
    cases haddr
    exact ⟨Except.ok.inj (hsin'.symm.trans hsin), hlen⟩
  · rintro ⟨rfl, hlen⟩
    exact ⟨⟨addr, rfl, hsin⟩, hlen⟩

/-- An address that is refused. -/
theorem right_refused {rc : Int} (haddr : winc1500MnAddrToAddr mn addr = .error rc) :
    Right mn d m (some addr) bIsUsed ok rc d := by
  have hnone : ∀ sin, ¬ Sendable mn m (some addr) sin := by
    rintro sin ⟨⟨addr', heq, hsin⟩, -⟩
    cases heq
    rw [haddr] at hsin
    cases hsin
  have hrc : rc ≠ 0 := by
    rw [winc1500MnAddrToAddr] at haddr
    split at haddr
    · cases haddr
      exact Int.ne_of_gt mn.einval_pos
    · cases haddr
  exact ⟨fun sin h => absurd h (hnone sin), fun _ => ⟨rfl, hrc⟩, fun _ => hrc,
    fun _ => ⟨rfl, rfl⟩, fun h => absurd h hrc, fun _ _ => rfl, Nat.add_comm _ _⟩

/-- A chain that is too long: the exit in the middle of the loop. -/
theorem right_long (hlen : txBufSize < (bytes m).length) :
    Right mn d m (some addr) bIsUsed ok mn.einval
      { d with
        taken := d.taken + 1
        txBuf := (copyChain m 0 d.txBuf).2
        released := d.released + 1 } := by
  have hnone : ∀ sin, ¬ Sendable mn m (some addr) sin := fun sin h =>
    absurd h.2 (Nat.not_le.mpr hlen)
  have hrc : mn.einval ≠ 0 := Int.ne_of_gt mn.einval_pos
  exact ⟨fun sin h => absurd h (hnone sin), fun _ => ⟨rfl, hrc⟩, fun _ => hrc,
    fun _ => ⟨rfl, rfl⟩, fun h => absurd h hrc, fun _ => copyChain_inside m d.txBuf,
    by dsimp only; omega⟩

/-- The state behind the call for a chain that fits. -/
def afterFit (d : Driver) (m : List Mbuf) (sin : SockaddrIn) (sent : List Datagram)
    (freed : List Nat) : Driver where
  txBuf := overlay d.txBuf 0 (bytes m)
  taken := d.taken + 1
  released := d.released + 1
  passed := d.passed ++ [(sin, bytes m)]
  sent := d.sent ++ sent
  freed := d.freed ++ freed

theorem afterFit_inside (hlen : (bytes m).length ≤ txBufSize) {sent : List Datagram}
    {freed : List Nat} {a : Nat} (ha : txBufSize ≤ a) :
    (afterFit d m sin sent freed).txBuf a = d.txBuf a := by
  change overlay d.txBuf 0 (bytes m) a = d.txBuf a
  exact overlay_of_le (by omega)

theorem right_takes (hsin : winc1500MnAddrToAddr mn addr = .ok sin)
    (hlen : (bytes m).length ≤ txBufSize) (htakes : Takes bIsUsed ok (bytes m).length) :
    Right mn d m (some addr) bIsUsed ok 0 (afterFit d m sin [(sin, bytes m)] (ids m)) where
  passed := fun sin' h => by rw [((sendable_iff hsin).mp h).1, afterFit]
  notPassed := fun h => absurd ((sendable_iff hsin).mpr ⟨rfl, hlen⟩) (h sin)
  refused := fun h => absurd htakes h
  failed := fun h => absurd rfl h
  succeeded := fun _ => ⟨⟨sin, (sendable_iff hsin).mpr ⟨rfl, hlen⟩, rfl⟩, rfl⟩
  inside := fun _ => afterFit_inside hlen
  mutex := by
    dsimp only [afterFit]
    omega

theorem right_refuses (hsin : winc1500MnAddrToAddr mn addr = .ok sin)
    (hlen : (bytes m).length ≤ txBufSize) {rc : Int} (hrc : rc ≠ 0) :
    Right mn d m (some addr) bIsUsed ok rc (afterFit d m sin [] []) where
  passed := fun sin' h => by rw [((sendable_iff hsin).mp h).1, afterFit]
  notPassed := fun h => absurd ((sendable_iff hsin).mpr ⟨rfl, hlen⟩) (h sin)
  refused := fun _ => hrc
  failed := fun _ => ⟨List.append_nil _, List.append_nil _⟩
  succeeded := fun h => absurd h hrc
  inside := fun _ => afterFit_inside hlen
  mutex := by
    dsimp only [afterFit]
    omega

theorem winc1500SockSendto_long (hsin : winc1500MnAddrToAddr mn addr = .ok sin)
    (hlen : txBufSize < (bytes m).length) :
    winc1500SockSendto mn .dgram d m (some addr) bIsUsed ok =
      .ok (mn.einval, { d with
        taken := d.taken + 1
        txBuf := (copyChain m 0 d.txBuf).2
        released := d.released + 1 }) := by
  have hnone := @copyChain_long m 0 d.txBuf (Nat.zero_le _) (by omega)
  have hpair : copyChain m 0 d.txBuf = (none, (copyChain m 0 d.txBuf).2) := Prod.ext hnone rfl
  simp only [winc1500SockSendto, hsin]
  rw [hpair]

theorem winc1500SockSendto_takes (hsin : winc1500MnAddrToAddr mn addr = .ok sin)
    (hlen : (bytes m).length ≤ txBufSize) (htakes : Takes bIsUsed ok (bytes m).length) :
    winc1500SockSendto mn .dgram d m (some addr) bIsUsed ok =
      .ok (0, afterFit d m sin [(sin, bytes m)] (ids m)) := by
  have hfits := @copyChain_fits m 0 d.txBuf (by omega)
  rw [Nat.zero_add] at hfits
  simp only [winc1500SockSendto, hsin, hfits, sendto_takes htakes, bytesAt_overlay]
  rfl

theorem winc1500SockSendto_refuses (hsin : winc1500MnAddrToAddr mn addr = .ok sin)
    (hlen : (bytes m).length ≤ txBufSize) (hrefuses : ¬ Takes bIsUsed ok (bytes m).length) :
    ∃ rc ≠ 0, winc1500SockSendto mn .dgram d m (some addr) bIsUsed ok =
      .ok (rc, afterFit d m sin [] []) := by
  have hfits := @copyChain_fits m 0 d.txBuf (by omega)
  rw [Nat.zero_add] at hfits
  obtain ⟨rc, hrc, hsendto⟩ := @sendto_refuses
    { d with taken := d.taken + 1, txBuf := overlay d.txBuf 0 (bytes m) } bIsUsed ok _ sin hrefuses
  refine ⟨mn.winc1500ErrToMnErr rc, Int.ne_of_gt (mn.winc1500ErrToMnErr_pos hrc), ?_⟩
  simp only [winc1500SockSendto, hsin, hfits, hsendto, bytesAt_overlay, afterFit, List.append_nil]
  rw [if_pos hrc]

/-- `winc1500_sock_sendto` on a datagram socket is right exactly when the destination is not
NULL. -/
theorem winc1500SockSendto_right_iff (mn : MnSocket) (d : Driver) (m : List Mbuf)
    (dst : Option MnSockaddrIn) (bIsUsed ok : Bool) :
    (∃ rc t, winc1500SockSendto mn .dgram d m dst bIsUsed ok = .ok (rc, t) ∧
      Right mn d m dst bIsUsed ok rc t) ↔ dst ≠ none := by
  constructor
  · rintro ⟨rc, t, h, -⟩ rfl
    cases h
  · intro hdst
    obtain ⟨addr, rfl⟩ := Option.ne_none_iff_exists'.mp hdst
    cases haddr : winc1500MnAddrToAddr mn addr with
    | error rc =>
        refine ⟨rc, d, ?_, right_refused haddr⟩
        simp only [winc1500SockSendto, haddr]
    | ok sin =>
        rcases Nat.lt_or_ge txBufSize (bytes m).length with hlong | hfits
        · exact ⟨_, _, winc1500SockSendto_long haddr hlong, right_long hlong⟩
        · by_cases htakes : Takes bIsUsed ok (bytes m).length
          · exact ⟨_, _, winc1500SockSendto_takes haddr hfits htakes,
              right_takes haddr hfits htakes⟩
          · obtain ⟨rc, hrc, hcall⟩ := winc1500SockSendto_refuses haddr hfits htakes
            exact ⟨_, _, hcall, right_refuses haddr hfits hrc⟩

/-- Before any call. -/
def Driver.init : Driver := ⟨fun _ => 0, 0, 0, [], [], []⟩

/-- Without a destination the call reads through NULL. -/
theorem winc1500SockSendto_null :
    winc1500SockSendto someMnSocket .dgram Driver.init [⟨1, [5, 6]⟩] none true true
        = .error .nullPointer ∧
      ¬ ∃ rc t, winc1500SockSendto someMnSocket .dgram Driver.init [⟨1, [5, 6]⟩] none true true
          = .ok (rc, t) ∧ Right someMnSocket Driver.init [⟨1, [5, 6]⟩] none true true rc t := by
  refine ⟨rfl, ?_⟩
  rintro ⟨rc, t, h, -⟩
  cases h

end Sendto

end Winc1500
