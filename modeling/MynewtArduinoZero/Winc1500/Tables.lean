import MynewtArduinoZero.Lib.Checked
import MynewtArduinoZero.Lib.Run
import MynewtArduinoZero.Winc1500.Socket
import MynewtArduinoZero.Winc1500.StreamTx

/-!
# The indices of the socket tables

`gastrSockets` and `winc1500_socks` have `MAX_SOCKET` entries each.  A message of
the firmware names a socket by a signed byte, which `m2m_ip_cb` and
`winc1500_sock_cb` use as an index: the one without a check but for a sign check
of the connected socket, the other behind an assertion that the number is less
than `MAX_SOCKET`.

Everything here indexes through `index`, which faults outside the table.  What
the transfers, the allocations and the application come to is given
(`Outcome`).  A call of the application uses a socket of the table and
`gastrSockets` at its `ws_idx`.
-/

namespace Winc1500

namespace Tables

open Checked Run
open Rx (maxSocket SockType nextSessionID)
open StreamTx (streamTxRc)

/-! ## The tables -/

inductive Table where
  | gastrSockets
  | winc1500Socks
deriving DecidableEq, Repr

/-- `tstrSocket`. -/
structure TstrSocket where
  /-- `pu8UserBuffer` is not NULL. -/
  pu8UserBuffer : Bool
  u16UserBufferSize : UInt16
  u16SessionID : UInt16
  u16DataOffset : UInt16
  bIsUsed : Bool
  u8SSLFlags : UInt8
  bIsRecvPending : Bool

/-- `struct winc1500_sock`. -/
structure Winc1500Sock where
  wsIdx : UInt8
  wsWaiting : Bool
  wsPoll : Bool
  wsClosed : Bool
  wsErr : UInt8
  wsType : SockType
  /-- `om_len` of the mbufs of `ws_tx`. -/
  wsTx : List Nat

structure State where
  gastrSockets : Fin maxSocket → TstrSocket
  winc1500Socks : Fin maxSocket → Winc1500Sock
  gu16SessionID : UInt16
  polling : Bool
  /-- `rx_buf` is not NULL. -/
  rxBuf : Bool
  /-- `cur_buf` is not NULL. -/
  curBuf : Bool
  gu8FlowCtrl : Bool

/-- Behind `winc1500_socket_init` and `socketInit`. -/
def State.init : State where
  gastrSockets := fun _ => ⟨false, 0, 0, 0, false, 0, false⟩
  winc1500Socks := fun i => ⟨.ofNat i, false, false, false, 0, .none, []⟩
  gu16SessionID := 0
  polling := false
  rxBuf := false
  curBuf := false
  gu8FlowCtrl := false

abbrev M := Prog Table State

/-- `gastrSockets[sock]`. -/
def getSocket (sock : Int) : M TstrSocket := do
  let i ← index maxSocket .gastrSockets sock
  return (← get).gastrSockets i

/-- A store to `gastrSockets[sock]`. -/
def setSocket (sock : Int) (x : TstrSocket) : M Unit := do
  let i ← index maxSocket .gastrSockets sock
  modify fun s => { s with gastrSockets := Function.update s.gastrSockets i x }

/-- `&winc1500_socks[idx]`, and the first use of it. -/
def sockAt (idx : Int) : M (Fin maxSocket) := index maxSocket .winc1500Socks idx

def getSock (ws : Fin maxSocket) : M Winc1500Sock := return (← get).winc1500Socks ws

/-- A store to `*ws`.  Nothing but `winc1500_socket_init` stores to `ws_idx`. -/
def setSock (ws : Fin maxSocket) (x : Winc1500Sock) : M Unit :=
  modify fun s =>
    let x := { x with wsIdx := (s.winc1500Socks ws).wsIdx }
    { s with winc1500Socks := Function.update s.winc1500Socks ws x }

/-! ## What comes from outside -/

/-- A call of the application on a socket, and what it makes of it. -/
structure Call where
  ws : Fin maxSocket
  effect : TstrSocket → Winc1500Sock → TstrSocket × Winc1500Sock

/-- The use of the tables in such a call. -/
def Call.run (c : Call) : M Unit := do
  let ws ← getSock c.ws
  let x ← getSocket ws.wsIdx.toNat
  setSocket ws.wsIdx.toNat (c.effect x ws).1
  setSock c.ws (c.effect x ws).2

/-- What one call of `winc1500_sock_cb` meets. -/
structure Outcome where
  /-- The calls the application makes when `mn_socket` calls it. -/
  calls : List Call
  /-- The mbufs for `rx_buf` are got. -/
  alloc : Bool
  /-- `OS_MBUF_TRAILINGSPACE` of the mbuf to receive to. -/
  space : UInt16
  /-- `hif_send` succeeds, by its calls. -/
  sent : Nat → Bool

/-- `mn_socket_newconn`, `mn_socket_writable` and `mn_socket_readable`. -/
def mnSocket : List Call → M Unit
  | [] => return
  | c :: calls => do
      c.run
      mnSocket calls

/-! ## Receive requests -/

/-- `recvfrom`, for a buffer that is not NULL. -/
def recvfrom (sent : Bool) (sock : Int) (u16BufLen : UInt16) : M Int := do
  if sock ≥ 0 ∧ u16BufLen ≠ 0 then
    let x ← getSocket sock
    if x.bIsUsed then
      let x := { x with pu8UserBuffer := true, u16UserBufferSize := u16BufLen }
      if !x.bIsRecvPending then
        setSocket sock { x with bIsRecvPending := true }
        return if sent then sockErrNoError else sockErrBufferFull
      else
        setSocket sock x
        return sockErrNoError
    else return sockErrInvalidArg
  else return sockErrInvalidArg

/-- The loop of `winc1500_sock_start_rx`, over the indices that are left. -/
def pollLoop (w : Outcome) : List Int → M Int
  | [] => return 0
  | idx :: rest => do
      let ws ← getSock (← sockAt idx)
      if !ws.wsPoll then pollLoop w rest
      else
        let rc ← recvfrom (w.sent 0) idx w.space
        if rc = 0 then
          modify fun s => { s with curBuf := true, polling := true }
          return 0
        else return -1

/-- The indices from `idx` up to `MAX_SOCKET`. -/
def indicesFrom (idx : Int) : List Int :=
  (List.range (maxSocket - idx).toNat).map fun k : Nat => idx + k

/-- `winc1500_sock_start_rx`. -/
def winc1500SockStartRx (w : Outcome) (idx : Int) : M Int := do
  modify fun s => { s with polling := false }
  let s ← get
  if !s.rxBuf && !w.alloc then
    modify fun s => { s with gu8FlowCtrl := true }
    return -1
  else
    modify fun s => { s with rxBuf := true, gu8FlowCtrl := false }
    pollLoop w (indicesFrom idx)

/-! ## Sends -/

/-- `SOCKET_BUFFER_MAX_LENGTH`. -/
def socketBufferMaxLength : Nat := 1400

/-- `send`, for a buffer that is not NULL. -/
def send (sent : Bool) (sock : Int) (u16SendLength : Nat) : M Int := do
  if sock ≥ 0 ∧ u16SendLength ≤ socketBufferMaxLength then
    let x ← getSocket sock
    if x.bIsUsed then return if sent then sockErrNoError else sockErrBufferFull
    else return sockErrInvalidArg
  else return sockErrInvalidArg

/-- The loop of `winc1500_stream_tx`, over the mbufs of `ws_tx`. -/
def streamTxLoop (w : Outcome) (ws : Fin maxSocket) : (k : Nat) → List Nat → M Int
  | _, [] => return 0
  | k, m :: n => do
      let rc ← send (w.sent k) (← getSock ws).wsIdx.toNat m
      if rc = 0 then
        setSock ws { ← getSock ws with wsTx := n }
        streamTxLoop w ws (k + 1) n
      else return rc

/-- `winc1500_stream_tx` for a notification. -/
def winc1500StreamTx (mn : MnSocket) (w : Outcome) (ws : Fin maxSocket) : M Unit := do
  let rc ← streamTxLoop w ws 0 (← getSock ws).wsTx
  let rc := streamTxRc mn rc
  if (← getSock ws).wsTx = [] ∨ rc ≠ 0 then mnSocket w.calls

/-! ## `winc1500_sock_cb` -/

/-- A message of the socket layer, with what `winc1500_sock_cb` uses of it. -/
inductive SocketMsg where
  | bind (status : Int8)
  | listen (status : Int8)
  | accept (sock : Int8)
  | connect (s8Error : Int8)
  /-- `SOCKET_MSG_RECV` and `SOCKET_MSG_RECVFROM`. -/
  | recv (s16BufferSize : Int16) (u16RemainingSize : UInt16)
  | send
  | sendto

/-- `winc1500_sock_wake`. -/
def winc1500SockWake (ws : Fin maxSocket) (err : UInt8) : M Unit := do
  let x ← getSock ws
  if x.wsWaiting then setSock ws { x with wsErr := err }

/-- `winc1500_sock_cb`. -/
def winc1500SockCb (mn : MnSocket) (w : Outcome) (idx : Int8) (msg : SocketMsg) : M Unit := do
  check (idx.toInt < maxSocket)
  let ws ← sockAt idx.toInt
  match msg with
  | .bind status => do
      winc1500SockWake ws status.toUInt8
      let x ← getSock ws
      if x.wsType = .dgram then setSock ws { x with wsPoll := true }
  | .listen status => winc1500SockWake ws status.toUInt8
  | .accept sock => do
      let newWs ← sockAt sock.toInt
      let wsType := (← getSock ws).wsType
      setSock newWs { ← getSock newWs with wsErr := 0, wsType, wsPoll := true }
      mnSocket w.calls
  | .connect _ => mnSocket w.calls
  | .recv s16BufferSize u16RemainingSize => do
      let len := s16BufferSize.toInt
      if len = sockErrTimeout then
        let _ ← winc1500SockStartRx w (idx + 1).toInt
      else if len > 0 then
        check ((← get).curBuf = true)
        if u16RemainingSize = 0 then
          modify fun s => { s with rxBuf := false }
          mnSocket w.calls
        let _ ← winc1500SockStartRx w idx.toInt
      else
        setSock ws { ← getSock ws with wsClosed := true, wsPoll := false }
        winc1500SockWake ws s16BufferSize.toUInt16.toUInt8
        mnSocket w.calls
        let _ ← winc1500SockStartRx w (idx + 1).toInt
  | .send => do
      if (← getSock ws).wsType = .stream then winc1500StreamTx mn w ws
  | .sendto => return

/-! ## `m2m_ip_cb` -/

/-- What a reply carries, as read with `hif_receive`. -/
inductive Reply where
  | bind (sock s8Status : Int8)
  | listen (sock s8Status : Int8)
  | accept (sListenSock sConnectedSock : Int8)
  /-- `SOCKET_CMD_CONNECT` and `SOCKET_CMD_SSL_CONNECT`. -/
  | connect (sock s8Error : Int8) (u16AppDataOffset : UInt16)
  /-- `SOCKET_CMD_RECV`, `SOCKET_CMD_RECVFROM` and `SOCKET_CMD_SSL_RECV`. -/
  | recv (sock : Int8) (s16RecvStatus : Int16) (u16SessionID : UInt16)
  /-- `SOCKET_CMD_SEND` and `SOCKET_CMD_SSL_SEND`. -/
  | send (sock : Int8) (u16SessionID : UInt16)
  /-- `SOCKET_CMD_SENDTO`. -/
  | sendto (sock : Int8) (u16SessionID : UInt16)

/-- A chunk of data of a receive reply. -/
structure Chunk where
  received : Bool
  outcome : Outcome

/-- `M2M_HIF_HDR_OFFSET`. -/
def m2mHifHdrOffset : UInt16 := 8

/-- The loop of `Socket_ReadSocketData`, as far as the chunks go. -/
def readLoop (mn : MnSocket) (sock : Int8) : List Chunk → (u16ReadCount : UInt16) → M Unit
  | [], _ => return
  | c :: chunks, u16ReadCount => do
      let size := (← getSocket sock.toInt).u16UserBufferSize
      let s16Diff := (u16ReadCount - size).toInt16
      let u16Read := if 0 < s16Diff then size else u16ReadCount
      if c.received then
        let remaining := u16ReadCount - u16Read
        winc1500SockCb mn c.outcome sock (.recv u16Read.toInt16 remaining)
        if remaining ≠ 0 then readLoop mn sock chunks remaining

/-- `Socket_ReadSocketData`. -/
def socketReadSocketData (mn : MnSocket) (sock : Int8) (chunks : List Chunk)
    (u16ReadCount : UInt16) : M Unit := do
  if u16ReadCount > 0 then
    let x ← getSocket sock.toInt
    if x.pu8UserBuffer && x.u16UserBufferSize > 0 && x.bIsUsed then
      readLoop mn sock chunks u16ReadCount

/-- What one call of `m2m_ip_cb` meets. -/
structure World where
  /-- The reply is read. -/
  received : Bool
  u16BufferSize : UInt16
  /-- What `strRecvMsg.u16RemainingSize` holds before it is set. -/
  u16RemainingSize : UInt16
  outcome : Outcome
  chunks : List Chunk

/-- `m2m_ip_cb`, with `winc1500_sock_cb` registered. -/
def m2mIpCb (mn : MnSocket) (w : World) (reply : Reply) : M Unit := do
  if w.received then
    match reply with
    | .bind sock s8Status => winc1500SockCb mn w.outcome sock (.bind s8Status)
    | .listen sock s8Status => winc1500SockCb mn w.outcome sock (.listen s8Status)
    | .accept sListenSock sConnectedSock => do
        if sConnectedSock ≥ 0 then
          let x ← getSocket sConnectedSock.toInt
          modify fun s => { s with gu16SessionID := nextSessionID s.gu16SessionID }
          let u16SessionID := (← get).gu16SessionID
          setSocket sConnectedSock.toInt { x with u8SSLFlags := 0, bIsUsed := true, u16SessionID }
        winc1500SockCb mn w.outcome sListenSock (.accept sConnectedSock)
    | .connect sock s8Error u16AppDataOffset => do
        if s8Error = 0 then
          let x ← getSocket sock.toInt
          setSocket sock.toInt { x with u16DataOffset := u16AppDataOffset - m2mHifHdrOffset }
        winc1500SockCb mn w.outcome sock (.connect s8Error)
    | .recv sock s16RecvStatus u16SessionID => do
        let x ← getSocket sock.toInt
        setSocket sock.toInt { x with bIsRecvPending := false }
        if u16SessionID = x.u16SessionID then
          if 0 < s16RecvStatus ∧ s16RecvStatus.toInt < w.u16BufferSize.toNat then
            socketReadSocketData mn sock w.chunks s16RecvStatus.toUInt16
          else winc1500SockCb mn w.outcome sock (.recv s16RecvStatus w.u16RemainingSize)
    | .send sock u16SessionID => do
        let x ← getSocket sock.toInt
        if u16SessionID = x.u16SessionID then winc1500SockCb mn w.outcome sock .send
    | .sendto sock u16SessionID => do
        let x ← getSocket sock.toInt
        if u16SessionID = x.u16SessionID then winc1500SockCb mn w.outcome sock .sendto

end Tables

end Winc1500
