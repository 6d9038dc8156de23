import MynewtArduinoZero.Winc1500.Socket
import MynewtArduinoZero.Winc1500.SyncCall

/-!
# `winc1500_sock_connect`

The call writes the peer address before it asks the chip, and sets the poll flag
whatever the chip says.  The address is what `winc1500_sock_getpeername` reports
and what `winc1500_sock_recvfrom` gives as the source of stream data, and the
flag is what `winc1500_sock_start_rx` goes by.
-/

namespace Winc1500

namespace Connect

open Rx (SockType maxSocket)

/-- A received packet, with the source that is kept in the header of a datagram. -/
structure Packet where
  id : Nat
  source : MnSockaddrIn

/-- The part of `struct winc1500_sock` that the calls use. -/
structure Sock where
  wsType : SockType
  wsTgt : MnSockaddrIn
  wsPoll : Bool
  wsRx : List Packet

/-- `winc1500_socks`, of `maxSocket` entries. -/
abbrev Socks := Nat → Sock

/-- `connect` of the chip driver.  It makes its request as `bind` and `listen` do. -/
def connect (bIsUsed sent : Bool) : Int := SyncCall.socketRequest bIsUsed sent

/-- `winc1500_sock_connect` for the socket with index `i`. -/
def winc1500SockConnect (mn : MnSocket) (socks : Socks) (i : Nat) (addr : MnSockaddrIn)
    (bIsUsed sent : Bool) : Int × Socks :=
  match winc1500MnAddrToAddr mn addr with
  | .error rc => (rc, socks)
  | .ok _ =>
      let ws := { socks i with wsTgt := addr }
      let rc := if ws.wsType = .stream then connect bIsUsed sent else sockErrInvalid
      (mn.winc1500ErrToMnErr rc, Function.update socks i { ws with wsPoll := true })

/-- `winc1500_sock_getpeername`. -/
def winc1500SockGetpeername (ws : Sock) : MnSockaddrIn := ws.wsTgt

/-- `winc1500_sock_recvfrom`: the packet taken, the address given with it and the socket. -/
def winc1500SockRecvfrom (ws : Sock) : Option (Nat × MnSockaddrIn) × Sock :=
  match ws.wsRx with
  | [] => (none, ws)
  | m :: rest =>
      (some (m.id, if ws.wsType = .dgram then m.source else ws.wsTgt), { ws with wsRx := rest })

/-- The socket that `winc1500_sock_start_rx` polls, from an index on. -/
def firstPolled (socks : Socks) (idx : Nat) : Option Nat :=
  (List.range' idx (maxSocket - idx)).find? fun i => (socks i).wsPoll

/-- A table of sockets is as another one: the fields that a connect writes, and what is read of
them. -/
structure LeftAlone (before after : Socks) : Prop where
  wsTgt : ∀ i, (after i).wsTgt = (before i).wsTgt
  wsPoll : ∀ i, (after i).wsPoll = (before i).wsPoll
  peer : ∀ i, winc1500SockGetpeername (after i) = winc1500SockGetpeername (before i)
  received : ∀ i, (winc1500SockRecvfrom (after i)).1 = (winc1500SockRecvfrom (before i)).1
  polled : ∀ idx, firstPolled after idx = firstPolled before idx

theorem LeftAlone.refl (socks : Socks) : LeftAlone socks socks :=
  ⟨fun _ => rfl, fun _ => rfl, fun _ => rfl, fun _ => rfl, fun _ => rfl⟩

variable {mn : MnSocket} {socks : Socks} {i : Nat} {addr : MnSockaddrIn} {bIsUsed sent : Bool}

theorem winc1500SockConnect_refused {rc : Int} (h : winc1500MnAddrToAddr mn addr = .error rc) :
    winc1500SockConnect mn socks i addr bIsUsed sent = (rc, socks) := by
  rw [winc1500SockConnect, h]

/-- With a good address the socket is written, and the code says whether the chip took the
request. -/
theorem winc1500SockConnect_written {sin : SockaddrIn}
    (h : winc1500MnAddrToAddr mn addr = .ok sin) :
    (winc1500SockConnect mn socks i addr bIsUsed sent).2
        = Function.update socks i { socks i with wsTgt := addr, wsPoll := true } ∧
      ((winc1500SockConnect mn socks i addr bIsUsed sent).1 = 0 ↔
        (socks i).wsType = .stream ∧ bIsUsed = true ∧ sent = true) := by
  rw [winc1500SockConnect, h]
  refine ⟨rfl, ?_⟩
  have hpos : ∀ rc : Int, rc ≠ 0 → mn.winc1500ErrToMnErr rc ≠ 0 := fun rc hrc heq => by
    have := @MnSocket.winc1500ErrToMnErr_pos mn rc hrc
    omega
  by_cases htype : (socks i).wsType = .stream
  · cases bIsUsed with
    | false =>
        simpa [htype, connect, SyncCall.socketRequest] using hpos sockErrInvalidArg (by decide)
    | true =>
        cases sent with
        | false =>
            simpa [htype, connect, SyncCall.socketRequest] using hpos sockErrInvalid (by decide)
        | true =>
            simp [htype, connect, SyncCall.socketRequest, MnSocket.winc1500ErrToMnErr,
              sockErrNoError]
  · simpa [htype] using hpos sockErrInvalid (by decide)

/-- A table in which one socket has been written is as before exactly if the socket had the address
and was polled. -/
theorem leftAlone_update_iff :
    LeftAlone socks (Function.update socks i { socks i with wsTgt := addr, wsPoll := true }) ↔
      (socks i).wsTgt = addr ∧ (socks i).wsPoll = true := by
  constructor
  · intro h
    have htgt := h.wsTgt i
    have hpoll := h.wsPoll i
    rw [Function.update_self] at htgt hpoll
    exact ⟨htgt.symm, hpoll.symm⟩
  · rintro ⟨htgt, hpoll⟩
    have hsame : Function.update socks i { socks i with wsTgt := addr, wsPoll := true } = socks := by
      rw [← htgt, ← hpoll, Function.update_eq_self]
    rw [hsame]
    exact LeftAlone.refl socks

/-- A `winc1500_sock_connect` that fails leaves the socket alone exactly if it fails by the address,
or if the socket has that address and is polled already. -/
theorem winc1500SockConnect_leftAlone_iff (mn : MnSocket) (socks : Socks) (i : Nat)
    (addr : MnSockaddrIn) (bIsUsed sent : Bool) :
    ((winc1500SockConnect mn socks i addr bIsUsed sent).1 ≠ 0 →
        LeftAlone socks (winc1500SockConnect mn socks i addr bIsUsed sent).2) ↔
      (addr.msinLen ≠ mn.sockaddrInSize ∨ addr.msinFamily ≠ mn.afInet) ∨
        ((socks i).wsType = .stream ∧ bIsUsed = true ∧ sent = true) ∨
        (socks i).wsTgt = addr ∧ (socks i).wsPoll = true := by
  by_cases hbad : addr.msinLen ≠ mn.sockaddrInSize ∨ addr.msinFamily ≠ mn.afInet
  · refine iff_of_true (fun _ => ?_) (.inl hbad)
    rw [winc1500SockConnect_refused (if_pos hbad)]
    exact LeftAlone.refl socks
  · obtain ⟨htable, hcode⟩ :=
      @winc1500SockConnect_written mn socks i addr bIsUsed sent _ (if_neg hbad)
    rw [htable, leftAlone_update_iff, Ne, hcode]
    simp only [hbad, false_or]
    exact or_iff_not_imp_left.symm

/-- A connected stream socket, and a datagram socket. -/
def twoSocks : Socks := fun i =>
  if i = 0 then ⟨.stream, ⟨8, 4, 80, 0x0a000001⟩, true, [⟨5, ⟨8, 4, 80, 0x0a000001⟩⟩]⟩
  else ⟨.dgram, ⟨0, 0, 0, 0⟩, false, []⟩

/-- Where the request is not sent, the connected socket has another peer, also for what it has
received already, and a datagram socket, for which there is no connect, is polled. -/
theorem winc1500SockConnect_disturbs :
    (winc1500SockConnect someMnSocket twoSocks 0 ⟨8, 4, 81, 0x0a000002⟩ true false).1 ≠ 0 ∧
      ¬ LeftAlone twoSocks
        (winc1500SockConnect someMnSocket twoSocks 0 ⟨8, 4, 81, 0x0a000002⟩ true false).2 ∧
      (winc1500SockConnect someMnSocket twoSocks 1 ⟨8, 4, 81, 0x0a000002⟩ true true).1 ≠ 0 ∧
      firstPolled twoSocks 1 = none ∧
      firstPolled (winc1500SockConnect someMnSocket twoSocks 1 ⟨8, 4, 81, 0x0a000002⟩ true true).2 1
        = some 1 := by
  refine ⟨by decide, fun h => ?_, by decide, by decide, by decide⟩
  exact absurd (congrArg MnSockaddrIn.msinPort (h.wsTgt 0)) (by decide)

end Connect

end Winc1500
