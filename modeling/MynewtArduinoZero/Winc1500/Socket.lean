import MynewtArduinoZero.Winc1500.Mbuf
import MynewtArduinoZero.Winc1500.MnSocket

/-!
# Sockets

The two tables of sockets, indexed alike: `gastrSockets` of the chip driver
(`socket.c`) and `winc1500_socks` of the `mn_socket` layer (`winc1500_socket.c`),
and the calls on them.  `recvfrom` of the driver registers a buffer and, where no
request is pending, sends one to the firmware; the requests the firmware has not
answered are `outstanding`.

The calls run under a mutex, which the task that handles the firmware's messages
holds as well, so a call is one step.  Its `winc1500_socket_poll` runs outside
the mutex.  A poll is taken whole all the same: that a call comes while it
allocates its chain or sends its request is not among the steps.
-/

namespace Winc1500

namespace Rx

/-- `MAX_SOCKET`. -/
def maxSocket : Nat := 11

/-- `TCP_SOCK_MAX`. -/
def tcpSockMax : Nat := 7

/-- `ws_type`; a closed socket has none. -/
inductive SockType where
  | none
  | stream
  | dgram
deriving DecidableEq, Repr

/-- `tstrSocket`.  A buffer is the mbuf whose `om_data` it is. -/
structure TstrSocket where
  pu8UserBuffer : Option Nat
  u16UserBufferSize : Nat
  u16SessionID : UInt16
  bIsUsed : Bool
  bIsRecvPending : Bool
deriving DecidableEq, Repr

/-- A `tstrSocket` behind `m2m_memset`. -/
def TstrSocket.zero : TstrSocket := ⟨none, 0, 0, false, false⟩

/-- `struct winc1500_sock`. -/
structure Winc1500Sock where
  wsPoll : Bool
  wsClosed : Bool
  wsType : SockType
  /-- The packet headers of `ws_rx`. -/
  wsRx : List Nat
deriving DecidableEq, Repr

/-- `struct winc1500_sock_state`. -/
structure SockState where
  polling : Bool
  rxBuf : Option Nat
  curBuf : Option Nat
deriving DecidableEq, Repr

/-- A receive request. -/
structure Request where
  sock : Nat
  u16SessionID : UInt16
deriving DecidableEq, Repr

/-- A reply that `Socket_ReadSocketData` delivers: the bytes it has read and those it has not. -/
structure Reading where
  sock : Nat
  done : List UInt8
  rest : List UInt8
deriving DecidableEq, Repr

/-- Where the task that handles messages is. -/
inductive Phase where
  /-- Between two messages or polls. -/
  | idle
  /-- In `Socket_ReadSocketData`, before the next chunk. -/
  | reading (r : Reading)
  /-- In `mn_socket_readable`, behind which `winc1500_sock_start_rx` begins at `idx`. -/
  | notify (idx : Nat)
deriving DecidableEq, Repr

/-- What is observed. -/
inductive Obs where
  /-- A reply with data for a socket. -/
  | replied (sock : Nat) (data : List UInt8)
  /-- The mbuf a chunk was written to, who owned it, and the one it is accounted to, with the
  chain at `rx_buf`. -/
  | chunk (written : Nat) (owner : Owner) (accounted : Option Nat) (chain : List Nat)
  /-- A chain is appended to `ws_rx`. -/
  | appended (sock head : Nat) (bytes : List UInt8) (pktLen : Nat) (lens : List Nat)
  /-- `winc1500_sock_recvfrom` returns a chain. -/
  | returned (sock head : Nat) (bytes : List UInt8)
  | closed (sock : Nat)
deriving DecidableEq, Repr

/-- The sockets, the mbufs and the firmware; `log` has the latest observation first. -/
structure System where
  pool : Pool
  wss : SockState
  gastrSockets : Nat → TstrSocket
  gu16SessionID : UInt16
  winc1500Socks : Nat → Winc1500Sock
  gu8FlowCtrl : Bool
  outstanding : List Request
  phase : Phase
  /-- A NULL pointer has been used or an assertion has failed. -/
  fault : Bool
  log : List Obs

namespace System

/-- Behind `winc1500_socket_init` and `socketInit`. -/
def init : System where
  pool := .init
  wss := ⟨false, none, none⟩
  gastrSockets := fun _ => .zero
  gu16SessionID := 0
  winc1500Socks := fun _ => ⟨false, false, .none, []⟩
  gu8FlowCtrl := false
  outstanding := []
  phase := .idle
  fault := false
  log := []

variable (s : System)

/-- A socket of the driver is changed. -/
def setSocket (i : Nat) (x : TstrSocket) : System :=
  { s with gastrSockets := Function.update s.gastrSockets i x }

/-- A socket of the `mn_socket` layer is changed. -/
def setSock (i : Nat) (x : Winc1500Sock) : System :=
  { s with winc1500Socks := Function.update s.winc1500Socks i x }

/-- The request for the current session of a socket. -/
def request (i : Nat) : Request := ⟨i, (s.gastrSockets i).u16SessionID⟩

variable {s}

theorem setSocket_self (i : Nat) (x : TstrSocket) : (s.setSocket i x).gastrSockets i = x :=
  Function.update_self ..

theorem setSocket_of_ne {i j : Nat} (h : j ≠ i) (x : TstrSocket) :
    (s.setSocket i x).gastrSockets j = s.gastrSockets j :=
  Function.update_of_ne h ..

theorem setSock_self (i : Nat) (x : Winc1500Sock) : (s.setSock i x).winc1500Socks i = x :=
  Function.update_self ..

theorem setSock_of_ne {i j : Nat} (h : j ≠ i) (x : Winc1500Sock) :
    (s.setSock i x).winc1500Socks j = s.winc1500Socks j :=
  Function.update_of_ne h ..

end System

/-! ## The chip driver -/

/-- The next session: zero is skipped. -/
def nextSessionID (gu16SessionID : UInt16) : UInt16 :=
  if gu16SessionID + 1 = 0 then gu16SessionID + 1 + 1 else gu16SessionID + 1

theorem nextSessionID_ne_zero (id : UInt16) : nextSessionID id ≠ 0 := by
  rw [nextSessionID]
  split
  · rename_i hzero
    rw [hzero]
    decide
  · assumption

/-- A new session for an index, on what was there. -/
def openSession (i : Nat) (x : TstrSocket) (s : System) : System :=
  let id := nextSessionID s.gu16SessionID
  { s with gu16SessionID := id }.setSocket i { x with bIsUsed := true, u16SessionID := id }

/-- The indices `socket` searches. -/
def socketRange : SockType → List Nat
  | .stream => List.range tcpSockMax
  | .dgram => List.range' tcpSockMax (maxSocket - tcpSockMax)
  | .none => []

/-- `socket`: the index, or `none` for -1, and the state. -/
def socket (type : SockType) (s : System) : Option Nat × System :=
  match (socketRange type).find? fun i => !(s.gastrSockets i).bIsUsed with
  | some i => (some i, openSession i .zero s)
  | none => (none, s)

/-- `close`. -/
def close (i : Nat) (s : System) : System :=
  if (s.gastrSockets i).bIsUsed then s.setSocket i .zero else s

/-- `recvfrom` with the outcome of `hif_send`: the return code and the state. -/
def recvfrom (sent : Bool) (sock buf u16BufLen : Nat) (s : System) : Int × System :=
  let x := s.gastrSockets sock
  if u16BufLen ≠ 0 ∧ x.bIsUsed then
    let x := { x with pu8UserBuffer := some buf, u16UserBufferSize := u16BufLen }
    if !x.bIsRecvPending then
      let s := s.setSocket sock { x with bIsRecvPending := true }
      if sent then
        (sockErrNoError, { s with outstanding := s.outstanding ++ [⟨sock, x.u16SessionID⟩] })
      else (sockErrBufferFull, s)
    else (sockErrNoError, s.setSocket sock x)
  else (sockErrInvalidArg, s)

/-! ## The `mn_socket` layer -/

/-- `winc1500_sock_create`. -/
def winc1500SockCreate (type : SockType) (s : System) : System :=
  match socket type s with
  | (some i, s) => s.setSock i { s.winc1500Socks i with wsType := type }
  | (none, s) => s

/-- `winc1500_sock_connect` with a valid address: whatever `connect` returns. -/
def winc1500SockConnect (i : Nat) (s : System) : System :=
  s.setSock i { s.winc1500Socks i with wsPoll := true }

/-- `winc1500_sock_close`. -/
def winc1500SockClose (i : Nat) (s : System) : System :=
  let s := close i s
  let ws := s.winc1500Socks i
  { s with
    pool := ws.wsRx.foldl (fun P m => P.osMbufFreeChain (some m)) s.pool
    log := .closed i :: s.log }.setSock i ⟨false, false, .none, []⟩

/-- `winc1500_sock_recvfrom`. -/
def winc1500SockRecvfrom (i : Nat) (s : System) : System :=
  let ws := s.winc1500Socks i
  match ws.wsRx with
  | m :: rest =>
      let chain := s.pool.chainFrom (some m)
      { s with
        pool := s.pool.give .app chain
        log := .returned i m (s.pool.bytes chain) :: s.log }.setSock i { ws with wsRx := rest }
  | [] => s

/-- `SOCKET_MSG_BIND` of `winc1500_sock_cb`. -/
def bindReply (i : Nat) (s : System) : System :=
  if (s.winc1500Socks i).wsType = .dgram then
    s.setSock i { s.winc1500Socks i with wsPoll := true }
  else s

/-- `SOCKET_CMD_ACCEPT` of `m2m_ip_cb` and `SOCKET_MSG_ACCEPT` of `winc1500_sock_cb`. -/
def acceptReply (listenSock connectedSock : Nat) (s : System) : System :=
  let s := openSession connectedSock (s.gastrSockets connectedSock) s
  s.setSock connectedSock
    { s.winc1500Socks connectedSock with
      wsType := (s.winc1500Socks listenSock).wsType
      wsPoll := true }

end Rx

end Winc1500
