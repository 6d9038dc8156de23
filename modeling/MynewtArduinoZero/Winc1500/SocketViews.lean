import MynewtArduinoZero.Winc1500.Connect
import MynewtArduinoZero.Winc1500.Exclusion
import MynewtArduinoZero.Winc1500.Indexing
import MynewtArduinoZero.Winc1500.Slots
import MynewtArduinoZero.Winc1500.SockRx

/-!
# One socket in several models

A socket has in each model the fields that the results there are about: the
packets it receives (`Rx`), what a reuse of its index carries over (`Slots`), its
peer (`Connect`), the chain it sends (`StreamTx`), its index (`Tables`), and none
but the calls of the bus (`Exclusion`).  Where two models have one function, it
does the same in both, as far as their fields are the same.
-/

namespace Winc1500

namespace Slots

open Rx (SockType socketRange)

/-! ## Receiving, and the reuse of an index -/

/-- The slot has the index of a socket of the two tables. -/
structure Slot.Shows (x : Slot) (sock : Rx.TstrSocket) (ws : Rx.Winc1500Sock) : Prop where
  bIsUsed : x.bIsUsed = sock.bIsUsed
  u16SessionID : x.u16SessionID = sock.u16SessionID
  wsType : x.wsType = ws.wsType
  wsPoll : x.wsPoll = ws.wsPoll
  wsClosed : x.wsClosed = ws.wsClosed
  wsRx : x.wsRx = ws.wsRx

theorem Slot.Shows.winc1500SockWake {x : Slot} {sock : Rx.TstrSocket} {ws : Rx.Winc1500Sock}
    (h : x.Shows sock ws) (err : UInt8) : (x.winc1500SockWake err).Shows sock ws := by
  rw [Slot.winc1500SockWake]
  split
  · exact ⟨h.bIsUsed, h.u16SessionID, h.wsType, h.wsPoll, h.wsClosed, h.wsRx⟩
  · exact h

structure System.Shows (t : System) (s : Rx.System) : Prop where
  gu16SessionID : t.gu16SessionID = s.gu16SessionID
  slot : ∀ i, (t.slots i).Shows (s.gastrSockets i) (s.winc1500Socks i)

namespace System.Shows

theorem init : System.init.Shows .init :=
  ⟨rfl, fun _ => ⟨rfl, rfl, rfl, rfl, rfl, rfl⟩⟩

variable {t t' : System} {s s' : Rx.System}

/-- One index is changed in both. -/
theorem update (h : t.Shows s) {i : Nat} {x : Slot} {sock : Rx.TstrSocket}
    {ws : Rx.Winc1500Sock} (hid : t'.gu16SessionID = s'.gu16SessionID)
    (hslots : t'.slots = Function.update t.slots i x)
    (hsockets : s'.gastrSockets = Function.update s.gastrSockets i sock)
    (hsocks : s'.winc1500Socks = Function.update s.winc1500Socks i ws)
    (hx : x.Shows sock ws) : t'.Shows s' := by
  refine ⟨hid, fun j => ?_⟩
  rw [hslots, hsockets, hsocks]
  by_cases hj : j = i
  · subst hj
    rwa [Function.update_self, Function.update_self, Function.update_self]
  · rw [Function.update_of_ne hj, Function.update_of_ne hj, Function.update_of_ne hj]
    exact h.slot j

theorem winc1500SockCreate (h : t.Shows s) (type : SockType) :
    (t.winc1500SockCreate type).Shows (Rx.winc1500SockCreate type s) := by
  have hfree : (fun i => !(t.slots i).bIsUsed) = fun i => !(s.gastrSockets i).bIsUsed :=
    funext fun i => by rw [(h.slot i).bIsUsed]
  rw [System.winc1500SockCreate, Rx.winc1500SockCreate, Rx.socket, hfree]
  cases (socketRange type).find? fun i => !(s.gastrSockets i).bIsUsed with
  | none => exact h
  | some i =>
      have hx := h.slot i
      have hid : Rx.nextSessionID t.gu16SessionID = Rx.nextSessionID s.gu16SessionID := by
        rw [h.gu16SessionID]
      exact h.update hid rfl rfl rfl ⟨rfl, hid, rfl, hx.wsPoll, hx.wsClosed, hx.wsRx⟩

theorem winc1500SockClose (h : t.Shows s) (i : Nat) :
    (t.winc1500SockClose i).Shows (Rx.winc1500SockClose i s) := by
  have hx := h.slot i
  rw [Rx.winc1500SockClose, Rx.close]
  by_cases hused : (s.gastrSockets i).bIsUsed = true
  · rw [if_pos hused]
    refine h.update h.gu16SessionID rfl rfl rfl ?_
    rw [Slot.winc1500SockClose, Slot.close, if_pos (hx.bIsUsed.trans hused)]
    exact ⟨rfl, rfl, rfl, rfl, rfl, rfl⟩
  · rw [if_neg hused]
    refine h.update h.gu16SessionID rfl (Function.update_eq_self i _).symm rfl ?_
    rw [Slot.winc1500SockClose, Slot.close, if_neg (hx.bIsUsed ▸ hused)]
    exact ⟨hx.bIsUsed, hx.u16SessionID, rfl, rfl, rfl, rfl⟩

theorem winc1500SockConnect (h : t.Shows s) (i : Nat) :
    (t.winc1500SockConnect i).Shows (Rx.winc1500SockConnect i s) := by
  have hx := h.slot i
  exact h.update h.gu16SessionID rfl (Function.update_eq_self i _).symm rfl
    ⟨hx.bIsUsed, hx.u16SessionID, hx.wsType, rfl, hx.wsClosed, hx.wsRx⟩

theorem winc1500SockRecvfrom (h : t.Shows s) (i : Nat) :
    (t.winc1500SockRecvfrom i).Shows (Rx.winc1500SockRecvfrom i s) := by
  have hx := h.slot i
  have htail : (t.slots i).wsRx.tail = (s.winc1500Socks i).wsRx.tail := by rw [hx.wsRx]
  rw [Rx.winc1500SockRecvfrom]
  cases hrx : (s.winc1500Socks i).wsRx with
  | nil =>
      rw [hrx] at htail
      exact h.update h.gu16SessionID rfl (Function.update_eq_self i _).symm
        (Function.update_eq_self i _).symm
        ⟨hx.bIsUsed, hx.u16SessionID, hx.wsType, hx.wsPoll, hx.wsClosed, htail.trans hrx.symm⟩
  | cons m rest =>
      rw [hrx] at htail
      exact h.update h.gu16SessionID rfl (Function.update_eq_self i _).symm rfl
        ⟨hx.bIsUsed, hx.u16SessionID, hx.wsType, hx.wsPoll, hx.wsClosed, htail⟩

/-- A BIND message. -/
theorem bindMsg (h : t.Shows s) (i : Nat) (status : UInt8) :
    (t.setSlot i ((t.slots i).bindMsg status).1).Shows (Rx.bindReply i s) := by
  have hx := (h.slot i).winc1500SockWake status
  rw [Rx.bindReply, Slot.bindMsg]
  dsimp only
  by_cases hdgram : (s.winc1500Socks i).wsType = .dgram
  · rw [if_pos hdgram, if_pos (hx.wsType.trans hdgram)]
    exact h.update h.gu16SessionID rfl (Function.update_eq_self i _).symm rfl
      ⟨hx.bIsUsed, hx.u16SessionID, hx.wsType, rfl, hx.wsClosed, hx.wsRx⟩
  · rw [if_neg hdgram, if_neg (hx.wsType ▸ hdgram)]
    exact h.update h.gu16SessionID rfl (Function.update_eq_self i _).symm
      (Function.update_eq_self i _).symm hx

/-- An ACCEPT message. -/
theorem acceptMsg (h : t.Shows s) (m : Msg) (connectedSock : Nat) :
    (t.acceptMsg m connectedSock).Shows (Rx.acceptReply m.sock connectedSock s) := by
  have hx := h.slot connectedSock
  have hid : Rx.nextSessionID t.gu16SessionID = Rx.nextSessionID s.gu16SessionID := by
    rw [h.gu16SessionID]
  exact h.update hid rfl rfl rfl
    ⟨rfl, hid, (h.slot m.sock).wsType, rfl, hx.wsClosed, hx.wsRx⟩

end System.Shows

/-- What changes a socket in both models: the calls, and the BIND and ACCEPT messages. -/
inductive Change where
  | create (type : SockType)
  | close (i : Nat)
  | connect (i : Nat)
  | recvfrom (i : Nat)
  | bind (i : Nat) (status : UInt8)
  | accept (m : Msg) (connectedSock : Nat)

def Change.onSlots : Change → System → System
  | .create type, t => t.winc1500SockCreate type
  | .close i, t => t.winc1500SockClose i
  | .connect i, t => t.winc1500SockConnect i
  | .recvfrom i, t => t.winc1500SockRecvfrom i
  | .bind i status, t => t.setSlot i ((t.slots i).bindMsg status).1
  | .accept m connectedSock, t => t.acceptMsg m connectedSock

def Change.onSockets : Change → Rx.System → Rx.System
  | .create type, s => Rx.winc1500SockCreate type s
  | .close i, s => Rx.winc1500SockClose i s
  | .connect i, s => Rx.winc1500SockConnect i s
  | .recvfrom i, s => Rx.winc1500SockRecvfrom i s
  | .bind i _, s => Rx.bindReply i s
  | .accept m connectedSock, s => Rx.acceptReply m.sock connectedSock s

theorem System.Shows.change {t : System} {s : Rx.System} (h : t.Shows s) :
    ∀ c : Change, (c.onSlots t).Shows (c.onSockets s)
  | .create type => h.winc1500SockCreate type
  | .close i => h.winc1500SockClose i
  | .connect i => h.winc1500SockConnect i
  | .recvfrom i => h.winc1500SockRecvfrom i
  | .bind i status => h.bindMsg i status
  | .accept m connectedSock => h.acceptMsg m connectedSock

/-- The two models stay in step, over any sequence of changes. -/
theorem System.Shows.changes {t : System} {s : Rx.System} (h : t.Shows s) (cs : List Change) :
    (cs.foldl (fun t c => c.onSlots t) t).Shows (cs.foldl (fun s c => c.onSockets s) s) := by
  induction cs generalizing t s with
  | nil => exact h
  | cons c cs ih => exact ih (h.change c)

/-! ## Sending -/

/-- The socket of `StreamTx` has the slot. -/
structure Slot.Sends (x : Slot) (s : StreamTx.System) : Prop where
  isStream : s.isStream = true ↔ x.wsType = .stream
  wsTx : s.wsTx = x.wsTx

namespace Slot.Sends

variable {x : Slot} {s : StreamTx.System}

/-- `winc1500_stream_tx` of a socket in use leaves the same and returns the same. -/
theorem winc1500StreamTx (h : x.Sends s) (hused : x.bIsUsed = true) (mn : MnSocket)
    {results : List StreamTx.SendResult} {s' : StreamTx.System} {rc : Int}
    (hs : StreamTx.winc1500StreamTx mn s results = some (s', rc)) :
    ∃ y, x.winc1500StreamTx mn results = some (rc, y) ∧ y.Sends s' := by
  obtain ⟨⟨rc', rest, sent⟩, hloop, heq⟩ := Option.map_eq_some_iff.mp hs
  cases heq
  refine ⟨{ x with wsTx := rest }, ?_, h.isStream, rfl⟩
  rw [Slot.winc1500StreamTx, if_pos hused, ← h.wsTx, hloop]
  rfl

/-- `winc1500_sock_close` drops what was to be sent. -/
theorem winc1500SockClose (x : Slot) (s : StreamTx.System) :
    x.winc1500SockClose.Sends (StreamTx.winc1500SockClose s) :=
  ⟨by simp [StreamTx.winc1500SockClose, Slot.winc1500SockClose], rfl⟩

end Slot.Sends

end Slots

namespace Connect

/-! ## The peer of a socket -/

/-- The sockets of `winc1500_socks`. -/
structure Socks.Shows (socks : Socks) (s : Rx.System) : Prop where
  wsType : ∀ i, (socks i).wsType = (s.winc1500Socks i).wsType
  wsPoll : ∀ i, (socks i).wsPoll = (s.winc1500Socks i).wsPoll
  wsRx : ∀ i, (socks i).wsRx.map Packet.id = (s.winc1500Socks i).wsRx

namespace Socks.Shows

variable {socks : Socks} {s : Rx.System}

theorem setSock (h : socks.Shows s) (i : Nat) {ws : Sock} {ws' : Rx.Winc1500Sock}
    (hType : ws.wsType = ws'.wsType) (hPoll : ws.wsPoll = ws'.wsPoll)
    (hRx : ws.wsRx.map Packet.id = ws'.wsRx) :
    Socks.Shows (Function.update socks i ws) (s.setSock i ws') := by
  have hall : ∀ j,
      (Function.update socks i ws j).wsType = ((s.setSock i ws').winc1500Socks j).wsType ∧
      (Function.update socks i ws j).wsPoll = ((s.setSock i ws').winc1500Socks j).wsPoll ∧
      (Function.update socks i ws j).wsRx.map Packet.id =
        ((s.setSock i ws').winc1500Socks j).wsRx := by
    intro j
    by_cases hj : j = i
    · subst hj
      rw [Function.update_self, Rx.System.setSock_self]
      exact ⟨hType, hPoll, hRx⟩
    · rw [Function.update_of_ne hj, Rx.System.setSock_of_ne hj]
      exact ⟨h.wsType j, h.wsPoll j, h.wsRx j⟩
  exact ⟨fun j => (hall j).1, fun j => (hall j).2.1, fun j => (hall j).2.2⟩

theorem winc1500SockConnect (h : socks.Shows s) {mn : MnSocket} {addr : MnSockaddrIn}
    {sin : SockaddrIn} (haddr : winc1500MnAddrToAddr mn addr = .ok sin) (i : Nat)
    (bIsUsed sent : Bool) :
    Socks.Shows (winc1500SockConnect mn socks i addr bIsUsed sent).2
      (Rx.winc1500SockConnect i s) := by
  rw [(winc1500SockConnect_written haddr).1]
  exact h.setSock i (h.wsType i) rfl (h.wsRx i)

theorem winc1500SockRecvfrom (h : socks.Shows s) (i : Nat) :
    Socks.Shows (Function.update socks i (winc1500SockRecvfrom (socks i)).2)
      (Rx.winc1500SockRecvfrom i s) := by
  have hrx := h.wsRx i
  rw [Connect.winc1500SockRecvfrom, Rx.winc1500SockRecvfrom, ← hrx]
  cases hpackets : (socks i).wsRx with
  | nil =>
      dsimp only [List.map_nil]
      rwa [Function.update_eq_self]
  | cons m rest =>
      have hsame : socks.Shows { s with
          pool := s.pool.give .app (s.pool.chainFrom (some m.id))
          log := .returned i m.id (s.pool.bytes (s.pool.chainFrom (some m.id))) :: s.log } :=
        ⟨h.wsType, h.wsPoll, h.wsRx⟩
      exact hsame.setSock i (h.wsType i) (h.wsPoll i) rfl

/-- The same socket is polled next. -/
theorem firstPolled (h : socks.Shows s) (idx : Nat) :
    Connect.firstPolled socks idx = Rx.firstPolled s idx := by
  rw [Connect.firstPolled, Rx.firstPolled]
  exact congrArg (List.find? · _) (funext h.wsPoll)

end Socks.Shows

end Connect

namespace Exclusion

/-! ## The requests of `winc1500_stream_tx` -/

open StreamTx (SendResult winc1500StreamTxLoop)

/-- What `send` returns, for its request. -/
def sendResult : Option Send → SendResult
  | none => .invalidArg
  | some y => if y.ret = Hif.m2mSuccess then .accepted else .bufferFull

theorem accepted_iff (x : Option Send) : accepted x ↔ (sendResult x).code = 0 := by
  cases x with
  | none => exact iff_of_false nofun (by decide)
  | some y =>
      rw [sendResult]
      by_cases hret : y.ret = Hif.m2mSuccess
      · rw [if_pos hret]
        exact iff_of_true ⟨y, rfl, hret⟩ rfl
      · rw [if_neg hret]
        refine iff_of_false ?_ (by decide)
        rintro ⟨z, hz, hsuccess⟩
        cases hz
        exact hret hsuccess

/-- With one request for each mbuf, the script has those of the mbufs that are sent, and of the one
at which the loop ends. -/
theorem streamTxLoop_eq : ∀ {chain : List StreamTx.Mbuf} {xs : List (Option Send)} {rc : Int}
    {rest sent : List StreamTx.Mbuf}, xs.length = chain.length →
    winc1500StreamTxLoop chain (xs.map sendResult) = some (rc, rest, sent) →
    streamTxLoop xs = (xs.take (sent.length + 1)).flatMap socketRequest
  | [], [], _, _, _, _, h => by
      cases h
      rfl
  | m :: n, x :: xs, rc, rest, sent, hlen, h => by
      rw [List.map_cons, winc1500StreamTxLoop] at h
      by_cases hok : (sendResult x).code = 0
      · rw [if_pos hok] at h
        obtain ⟨⟨rc', rest', sent'⟩, hloop, heq⟩ := Option.map_eq_some_iff.mp h
        cases heq
        rw [streamTxLoop, if_pos ((accepted_iff x).mpr hok),
          streamTxLoop_eq (Nat.succ.inj hlen) hloop]
        rfl
      · rw [if_neg hok] at h
        cases h
        rw [streamTxLoop, if_neg (fun hx => hok ((accepted_iff x).mp hx))]
        simp

end Exclusion

namespace Tables

/-! ## The loop over the tables -/

open Checked
open Rx (maxSocket)
open StreamTx (SendResult winc1500StreamTxLoop)

/-- `om_len` of the mbufs. -/
def omLens (chain : List StreamTx.Mbuf) : List Nat := chain.map fun m => m.omData.length

/-- What `send` returns. -/
def sendResult (bIsUsed sent : Bool) (u16SendLength : Nat) : SendResult :=
  if u16SendLength ≤ socketBufferMaxLength ∧ bIsUsed then
    if sent then .accepted else .bufferFull
  else .invalidArg

/-- What `send` returns for the mbufs from the `k`-th call on. -/
def sendResults (bIsUsed : Bool) (w : Outcome) : (k : Nat) → List Nat → List SendResult
  | _, [] => []
  | k, m :: n => sendResult bIsUsed (w.sent k) m :: sendResults bIsUsed w (k + 1) n

/-- A socket with `ws_tx`. -/
def setTx (s : State) (ws : Fin maxSocket) (wsTx : List Nat) : State :=
  { s with
    winc1500Socks :=
      Function.update s.winc1500Socks ws { s.winc1500Socks ws with wsTx := wsTx } }

theorem getSocket_eq (s : State) (ws : Fin maxSocket) :
    getSocket ws.val s = .ok (s.gastrSockets ws, s) := by
  rw [getSocket, bind_ok (index_inside ws s)]
  rfl

theorem send_eq (s : State) (ws : Fin maxSocket) (sent : Bool) (len : Nat) :
    send sent ws.val len s =
      .ok ((sendResult (s.gastrSockets ws).bIsUsed sent len).code, s) := by
  rw [send, sendResult]
  by_cases hlen : len ≤ socketBufferMaxLength
  · rw [if_pos ⟨Int.natCast_nonneg _, hlen⟩, bind_ok (getSocket_eq s ws)]
    cases (s.gastrSockets ws).bIsUsed with
    | false => simp; rfl
    | true => cases sent <;> simp [hlen] <;> rfl
  · rw [if_neg (fun h => hlen h.2), if_neg (fun h => hlen h.1)]
    rfl

theorem setTx_self (s : State) (ws : Fin maxSocket) :
    setTx s ws (s.winc1500Socks ws).wsTx = s := by
  rw [setTx]
  simp

theorem setTx_setTx (s : State) (ws : Fin maxSocket) (wsTx wsTx' : List Nat) :
    setTx (setTx s ws wsTx) ws wsTx' = setTx s ws wsTx' := by
  simp only [setTx, Function.update_self, Function.update_idem]

theorem wsTx_setTx (s : State) (ws : Fin maxSocket) (wsTx : List Nat) :
    ((setTx s ws wsTx).winc1500Socks ws).wsTx = wsTx := by
  simp [setTx]

theorem setSock_wsTx (s : State) (ws : Fin maxSocket) (wsTx : List Nat) :
    setSock ws { s.winc1500Socks ws with wsTx := wsTx } s = .ok ((), setTx s ws wsTx) := rfl

theorem numbered_setTx {s : State} (hs : Numbered s) (ws : Fin maxSocket) (wsTx : List Nat) :
    Numbered (setTx s ws wsTx) :=
  ((safe_setSock hs ws _).ok (setSock_wsTx s ws wsTx)).1

/-- `winc1500_stream_tx` sends from the table what it sends from a chain. -/
theorem streamTxLoop_eq {w : Outcome} {ws : Fin maxSocket} {s : State} (hs : Numbered s)
    {chain : List StreamTx.Mbuf} (k : Nat) (htx : (s.winc1500Socks ws).wsTx = omLens chain) :
    ∃ rc rest sent,
      winc1500StreamTxLoop chain
        (sendResults (s.gastrSockets ws).bIsUsed w k (omLens chain)) = some (rc, rest, sent) ∧
      streamTxLoop w ws k (omLens chain) s = .ok (rc, setTx s ws (omLens rest)) := by
  induction chain generalizing k s with
  | nil =>
      refine ⟨0, [], [], rfl, ?_⟩
      rw [← htx, setTx_self, htx]
      rfl
  | cons m n ih =>
      have hsend := send_eq s ws (w.sent k) m.omData.length
      rw [← hs ws] at hsend
      rw [omLens, List.map_cons, streamTxLoop, sendResults, winc1500StreamTxLoop]
      rw [bind_ok (show getSock ws s = .ok (s.winc1500Socks ws, s) from rfl), bind_ok hsend]
      by_cases hok : (sendResult (s.gastrSockets ws).bIsUsed (w.sent k) m.omData.length).code = 0
      · rw [if_pos hok, if_pos hok]
        rw [bind_ok (show getSock ws s = .ok (s.winc1500Socks ws, s) from rfl)]
        obtain ⟨rc, rest, sent, hloop, hrun⟩ :=
          ih (numbered_setTx hs ws (omLens n)) (k + 1) (wsTx_setTx s ws _)
        refine ⟨rc, rest, m :: sent, ?_, ?_⟩
        · exact Option.map_eq_some_iff.mpr ⟨_, hloop, rfl⟩
        · rw [setTx_setTx] at hrun
          exact (bind_ok (setSock_wsTx s ws (omLens n))).trans hrun
      · rw [if_neg hok, if_neg hok]
        refine ⟨_, m :: n, [], rfl, ?_⟩
        rw [← htx, setTx_self]
        rfl

/-! ## The messages for a socket -/

/-- The entries of a socket have the slot. -/
structure Entry (sock : TstrSocket) (ws : Winc1500Sock) (x : Slots.Slot) : Prop where
  bIsUsed : sock.bIsUsed = x.bIsUsed
  u16SessionID : sock.u16SessionID = x.u16SessionID
  wsWaiting : ws.wsWaiting = x.wsWaiting
  wsPoll : ws.wsPoll = x.wsPoll
  wsClosed : ws.wsClosed = x.wsClosed
  wsErr : ws.wsErr = x.wsErr
  wsType : ws.wsType = x.wsType
  wsTx : ws.wsTx = omLens x.wsTx

structure State.Shows (s : State) (t : Slots.System) : Prop where
  gu16SessionID : s.gu16SessionID = t.gu16SessionID
  numbered : Numbered s
  entry : ∀ i : Fin maxSocket, Entry (s.gastrSockets i) (s.winc1500Socks i) (t.slots i)

/-- What a program leaves has the slots. -/
def Leaves (x : M Unit) (s : State) (t : Slots.System) : Prop :=
  ∃ s', x s = .ok ((), s') ∧ s'.Shows t

section Messages

variable {s : State} {t : Slots.System} {ws : Fin maxSocket}

theorem leaves_setSock (h : s.Shows t) {x : Winc1500Sock} {y : Slots.Slot}
    (hxy : Entry (s.gastrSockets ws) x y) : Leaves (setSock ws x) s (t.setSlot ws y) := by
  refine ⟨_, rfl, h.gu16SessionID, ((safe_setSock h.numbered ws x).ok rfl).1, fun i => ?_⟩
  rw [Slots.System.setSlot]
  dsimp only
  by_cases hi : i = ws
  · subst hi
    rw [Function.update_self, Function.update_self]
    exact ⟨hxy.bIsUsed, hxy.u16SessionID, hxy.wsWaiting, hxy.wsPoll, hxy.wsClosed, hxy.wsErr,
      hxy.wsType, hxy.wsTx⟩
  · rw [Function.update_of_ne hi, Function.update_of_ne (fun heq => hi (Fin.ext heq))]
    exact h.entry i

theorem setSlot_self (t : Slots.System) (i : Nat) : t.setSlot i (t.slots i) = t := by
  rw [Slots.System.setSlot, Function.update_eq_self]

theorem leaves_winc1500SockWake (h : s.Shows t) (err : UInt8) :
    Leaves (winc1500SockWake ws err) s (t.setSlot ws ((t.slots ws).winc1500SockWake err)) := by
  have he := h.entry ws
  rw [winc1500SockWake, Slots.Slot.winc1500SockWake]
  by_cases hwaiting : (t.slots ws).wsWaiting = true
  · rw [if_pos hwaiting]
    have hset := leaves_setSock (x := { s.winc1500Socks ws with wsErr := err }) h
      (y := { t.slots ws with wsErr := err, wsSem := (t.slots ws).wsSem + 1 })
      ⟨he.bIsUsed, he.u16SessionID, he.wsWaiting, he.wsPoll, he.wsClosed, rfl, he.wsType, he.wsTx⟩
    obtain ⟨s', hs', hshows⟩ := hset
    refine ⟨s', ?_, hshows⟩
    rw [bind_ok (show getSock ws s = .ok (s.winc1500Socks ws, s) from rfl),
      if_pos (he.wsWaiting.trans hwaiting)]
    exact hs'
  · rw [if_neg hwaiting]
    rw [setSlot_self]
    refine ⟨s, ?_, h⟩
    rw [bind_ok (show getSock ws s = .ok (s.winc1500Socks ws, s) from rfl),
      if_neg (he.wsWaiting ▸ hwaiting)]
    rfl

theorem setSlot_setSlot (t : Slots.System) (i : Nat) (x y : Slots.Slot) :
    (t.setSlot i x).setSlot i y = t.setSlot i y := by
  simp only [Slots.System.setSlot, Function.update_idem]

theorem slots_setSlot (t : Slots.System) (i : Nat) (x : Slots.Slot) :
    (t.setSlot i x).slots i = x := Function.update_self ..

theorem check_inside {idx : Int8} (hidx : idx.toInt = ws.val) :
    (check (idx.toInt < maxSocket) : M Unit) s = .ok ((), s) := by
  have hlt := ws.isLt
  exact if_pos (by omega)

theorem sockAt_inside {idx : Int8} (hidx : idx.toInt = ws.val) :
    sockAt idx.toInt s = .ok (ws, s) := by
  rw [sockAt, hidx]
  exact index_inside ws s

theorem getSock_eq : getSock ws s = .ok (s.winc1500Socks ws, s) := rfl

variable {mn : MnSocket} {w : Outcome} {idx : Int8}

theorem winc1500SockCb_bind (h : s.Shows t) (hidx : idx.toInt = ws.val) (status : Int8) :
    Leaves (winc1500SockCb mn w idx (.bind status)) s
      (t.setSlot ws ((t.slots ws).bindMsg status.toUInt8).1) := by
  have hleaves : Leaves (winc1500SockWake ws status.toUInt8) s _ := leaves_winc1500SockWake h _
  obtain ⟨s', hwake, hs'⟩ := hleaves
  have he := hs'.entry ws
  rw [slots_setSlot] at he
  rw [Leaves, winc1500SockCb, bind_ok (check_inside hidx), bind_ok (sockAt_inside hidx)]
  dsimp only
  rw [bind_ok hwake, bind_ok getSock_eq, Slots.Slot.bindMsg]
  by_cases hdgram : ((t.slots ws).winc1500SockWake status.toUInt8).wsType = .dgram
  · rw [if_pos hdgram, if_pos (he.wsType.trans hdgram)]
    have hset := leaves_setSock (x := { s'.winc1500Socks ws with wsPoll := true }) hs'
      (y := { (t.slots ws).winc1500SockWake status.toUInt8 with wsPoll := true })
      ⟨he.bIsUsed, he.u16SessionID, he.wsWaiting, rfl, he.wsClosed, he.wsErr, he.wsType, he.wsTx⟩
    rwa [setSlot_setSlot] at hset
  · rw [if_neg hdgram, if_neg (he.wsType ▸ hdgram)]
    exact ⟨s', rfl, hs'⟩

theorem winc1500SockCb_listen (h : s.Shows t) (hidx : idx.toInt = ws.val) (status : Int8) :
    Leaves (winc1500SockCb mn w idx (.listen status)) s
      (t.setSlot ws ((t.slots ws).winc1500SockWake status.toUInt8)) := by
  rw [Leaves, winc1500SockCb, bind_ok (check_inside hidx), bind_ok (sockAt_inside hidx)]
  exact leaves_winc1500SockWake h _

/-- The call of the application aside, a CONNECT message changes nothing. -/
theorem winc1500SockCb_connect (h : s.Shows t) (hcalls : w.calls = []) (hidx : idx.toInt = ws.val)
    (s8Error : Int8) : Leaves (winc1500SockCb mn w idx (.connect s8Error)) s t := by
  rw [Leaves, winc1500SockCb, bind_ok (check_inside hidx), bind_ok (sockAt_inside hidx)]
  dsimp only
  rw [hcalls]
  exact ⟨s, rfl, h⟩

theorem loop_results (wsTx : List StreamTx.Mbuf) (bIsUsed : Bool) (k : Nat) :
    winc1500StreamTxLoop wsTx
        (if bIsUsed then sendResults bIsUsed w k (omLens wsTx) else [.invalidArg]) =
      winc1500StreamTxLoop wsTx (sendResults bIsUsed w k (omLens wsTx)) := by
  cases bIsUsed with
  | true => rfl
  | false =>
      cases wsTx with
      | nil => rfl
      | cons m n =>
          have hinvalid : sendResult false (w.sent k) m.omData.length = .invalidArg := by
            rw [sendResult, if_neg (fun hused => Bool.false_ne_true hused.2)]
          have hcode : SendResult.invalidArg.code ≠ 0 := by decide
          simp [omLens, sendResults, winc1500StreamTxLoop, hinvalid, hcode]

theorem winc1500SockCb_send (h : s.Shows t) (hcalls : w.calls = []) (hidx : idx.toInt = ws.val) :
    ∃ y touches, (t.slots ws).sendMsg mn
        (sendResults (t.slots ws).bIsUsed w 0 (omLens (t.slots ws).wsTx)) = some (y, touches) ∧
      Leaves (winc1500SockCb mn w idx .send) s (t.setSlot ws y) := by
  have he := h.entry ws
  rw [Slots.Slot.sendMsg]
  simp only [Leaves]
  rw [winc1500SockCb, bind_ok (check_inside hidx), bind_ok (sockAt_inside hidx)]
  dsimp only
  rw [bind_ok getSock_eq, he.wsType]
  by_cases hstream : (t.slots ws).wsType = .stream
  · rw [if_pos hstream, if_pos hstream]
    obtain ⟨rc, rest, sent, hloop, hrun⟩ := streamTxLoop_eq (w := w) h.numbered 0 he.wsTx
    rw [he.bIsUsed, ← loop_results] at hloop
    obtain ⟨s', hset, hs'⟩ := leaves_setSock (x := { s.winc1500Socks ws with wsTx := omLens rest })
      h (y := { t.slots ws with wsTx := rest })
      ⟨he.bIsUsed, he.u16SessionID, he.wsWaiting, he.wsPoll, he.wsClosed, he.wsErr, he.wsType, rfl⟩
    obtain rfl : setTx s ws (omLens rest) = s' := by
      rw [setSock_wsTx] at hset
      cases hset
      rfl
    rw [Slots.Slot.winc1500StreamTx, hloop]
    refine ⟨_, _, rfl, setTx s ws (omLens rest), ?_, hs'⟩
    rw [winc1500StreamTx, bind_ok getSock_eq, he.wsTx, bind_ok hrun, bind_ok getSock_eq, hcalls]
    split <;> rfl
  · rw [if_neg hstream, if_neg hstream]
    exact ⟨_, _, rfl, s, rfl, by rwa [setSlot_self]⟩

theorem leaves_setSocket (h : s.Shows t) (hidx : idx.toInt = ws.val) {x : TstrSocket}
    (hx : Entry x (s.winc1500Socks ws) (t.slots ws)) : Leaves (setSocket idx.toInt x) s t := by
  refine ⟨{ s with gastrSockets := Function.update s.gastrSockets ws x }, ?_, h.gu16SessionID,
    h.numbered, fun i => ?_⟩
  · rw [hidx, setSocket, bind_ok (index_inside ws s)]
    rfl
  · by_cases hi : i = ws
    · subst hi
      dsimp only
      rwa [Function.update_self]
    · dsimp only
      rw [Function.update_of_ne hi]
      exact h.entry i

theorem getSocket_at (hidx : idx.toInt = ws.val) :
    getSocket idx.toInt s = .ok (s.gastrSockets ws, s) := by
  rw [hidx]
  exact getSocket_eq s ws

/-- A reply of the firmware for one socket, other than one with data, as both models have it. -/
inductive Same (sock : Int8) (m : Slots.Msg) : Reply → Prop where
  | bind (status : Int8) (h : m.body = .bind status.toUInt8) : Same sock m (.bind sock status)
  | listen (status : Int8) (h : m.body = .listen status.toUInt8) :
      Same sock m (.listen sock status)
  | connect (s8Error : Int8) (u16AppDataOffset : UInt16) (h : m.body = .connect) :
      Same sock m (.connect sock s8Error u16AppDataOffset)
  | send (h : m.body = .send) : Same sock m (.send sock m.u16SessionID)

/-- `m2m_ip_cb` leaves the slot of a socket as `Slots` has it, where the application makes no
calls. -/
theorem m2mIpCb_shows {w : World} {sock : Int8} {m : Slots.Msg} {reply : Reply} (h : s.Shows t)
    (hw : w.received = true) (hcalls : w.outcome.calls = []) (hsock : sock.toInt = ws.val)
    (hsame : Same sock m reply) :
    ∃ y touches, (t.slots ws).m2mIpCb mn m
        (sendResults (t.slots ws).bIsUsed w.outcome 0 (omLens (t.slots ws).wsTx)) =
          some (y, touches) ∧
      Leaves (m2mIpCb mn w reply) s (t.setSlot ws y) := by
  have he := h.entry ws
  rw [Slots.Slot.m2mIpCb]
  simp only [Leaves, m2mIpCb, if_pos hw]
  cases hsame with
  | bind status hm =>
      rw [hm]
      exact ⟨_, _, rfl, winc1500SockCb_bind h hsock status⟩
  | listen status hm =>
      rw [hm]
      exact ⟨_, _, rfl, winc1500SockCb_listen h hsock status⟩
  | connect s8Error u16AppDataOffset hm =>
      rw [hm]
      refine ⟨_, _, rfl, ?_⟩
      rw [setSlot_self]
      dsimp only
      by_cases hok : s8Error = 0
      · obtain ⟨s', hset, hs'⟩ := leaves_setSocket (x := { s.gastrSockets ws with
            u16DataOffset := u16AppDataOffset - m2mHifHdrOffset }) h hsock
          ⟨he.bIsUsed, he.u16SessionID, he.wsWaiting, he.wsPoll, he.wsClosed, he.wsErr, he.wsType,
            he.wsTx⟩
        rw [if_pos hok, bind_ok (getSocket_at hsock), bind_ok hset]
        exact winc1500SockCb_connect hs' hcalls hsock s8Error
      · rw [if_neg hok]
        exact winc1500SockCb_connect h hcalls hsock s8Error
  | send hm =>
      rw [hm]
      dsimp only
      rw [bind_ok (getSocket_at hsock), he.u16SessionID]
      by_cases hid : m.u16SessionID = (t.slots ws).u16SessionID
      · rw [if_pos hid, if_pos hid]
        exact winc1500SockCb_send h hcalls hsock
      · rw [if_neg hid, if_neg hid]
        exact ⟨_, _, rfl, s, rfl, by rwa [setSlot_self]⟩

/-- The slots are what counts. -/
theorem State.Shows.congr (h : s.Shows t) {t' : Slots.System}
    (hid : t'.gu16SessionID = t.gu16SessionID) (hslots : t'.slots = t.slots) : s.Shows t' :=
  ⟨h.gu16SessionID.trans hid.symm, h.numbered, fun i => hslots ▸ h.entry i⟩

/-- An ACCEPT message begins the same socket. -/
theorem m2mIpCb_accept {w : World} {sListenSock sConnectedSock : Int8} {m : Slots.Msg}
    {newWs : Fin maxSocket} (h : s.Shows t) (hw : w.received = true)
    (hcalls : w.outcome.calls = []) (hlisten : sListenSock.toInt = ws.val)
    (hconnected : sConnectedSock.toInt = newWs.val) (hm : m.sock = ws.val) :
    Leaves (m2mIpCb mn w (.accept sListenSock sConnectedSock)) s (t.acceptMsg m newWs) := by
  have hnonneg : sConnectedSock ≥ 0 := by
    rw [ge_iff_le, Int8.le_iff_toInt_le, hconnected]
    exact Int.natCast_nonneg _
  let id := Rx.nextSessionID s.gu16SessionID
  let sock : TstrSocket := { s.gastrSockets newWs with
    u8SSLFlags := 0, bIsUsed := true, u16SessionID := id }
  let s₁ : State := { s with
    gu16SessionID := id, gastrSockets := Function.update s.gastrSockets newWs sock }
  let t₁ := t.start true newWs fun x => x
  have hid : id = Rx.nextSessionID t.gu16SessionID := by rw [← h.gu16SessionID]
  have he := h.entry newWs
  have hs₁ : s₁.Shows t₁ := by
    refine ⟨hid, h.numbered, fun i => ?_⟩
    dsimp only [s₁, t₁, Slots.System.start, Slots.System.setSlot]
    by_cases hi : i = newWs
    · subst hi
      rw [Function.update_self, Function.update_self]
      exact ⟨rfl, hid, he.wsWaiting, he.wsPoll, he.wsClosed, he.wsErr, he.wsType, he.wsTx⟩
    · rw [Function.update_of_ne hi, Function.update_of_ne (fun heq => hi (Fin.ext heq))]
      exact h.entry i
  rw [Leaves, m2mIpCb, if_pos hw]
  dsimp only
  rw [if_pos hnonneg, bind_ok (getSocket_at hconnected), modify_bind, get_bind]
  have hset : setSocket sConnectedSock.toInt sock { s with gu16SessionID := id } =
      .ok ((), s₁) := by
    rw [hconnected, setSocket, bind_ok (index_inside newWs _)]
    rfl
  rw [bind_ok hset, winc1500SockCb, bind_ok (check_inside hlisten),
    bind_ok (sockAt_inside hlisten)]
  dsimp only
  rw [bind_ok (sockAt_inside hconnected), bind_ok getSock_eq, bind_ok getSock_eq]
  have he₁ := hs₁.entry newWs
  obtain ⟨s', hs', hshows⟩ := leaves_setSock hs₁
    (x := { s.winc1500Socks newWs with
      wsErr := 0, wsType := (s.winc1500Socks ws).wsType, wsPoll := true })
    (y := (t₁.slots newWs).accepted (t.slots m.sock).wsType)
    ⟨he₁.bIsUsed, he₁.u16SessionID, he₁.wsWaiting, rfl, he₁.wsClosed, rfl,
      hm ▸ (h.entry ws).wsType, he₁.wsTx⟩
  refine ⟨s', ?_, hshows.congr rfl ?_⟩
  · rw [bind_ok hs', hcalls]
    rfl
  · dsimp only [t₁, Slots.System.acceptMsg, Slots.System.start, Slots.System.setSlot]
    rw [Function.update_idem, Function.update_self]

end Messages

end Tables

end Winc1500
