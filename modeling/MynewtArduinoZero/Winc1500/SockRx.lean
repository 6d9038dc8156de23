import MynewtArduinoZero.Winc1500.Socket

/-!
# Receiving

`winc1500_sock_start_rx` allocates a chain to receive to, asks the firmware for
data on the first socket that is polled, and stops the flow of messages when it
gets no mbufs.  It is called by `winc1500_socket_poll`, and by `winc1500_sock_cb`
behind every chunk and every reply.  `m2m_ip_cb` reads the reply to a receive
request, and `Socket_ReadSocketData` its data in chunks of the size of the
registered buffer.

A reply is cut into steps where something can come in between: before each
chunk, which may fail to be read, and in `mn_socket_readable`, where the
application may make calls.  Allocations, requests and transfers succeed or fail
as an event says.
-/

namespace Winc1500

namespace Rx

/-- `WINC1500_SOCK_RX_SIZE`. -/
def winc1500SockRxSize : Int := 1500

/-- How the mbuf gets of `winc1500_sock_start_rx` end, in order, and its request.  A request that
`hif_send` returns an error for is taken not to have reached the firmware, though its error may
come behind the transfer. -/
structure Io where
  gets : List (Option Space)
  /-- `hif_send` returns 0, and the firmware has the request. -/
  sent : Bool

/-! ## `winc1500_sock_start_rx` -/

/-- The allocation of `winc1500_sock_start_rx`; `rx_buf` stays NULL if it fails. -/
def getRxBuf (gets : List (Option Space)) (s : System) : System :=
  match s.wss.rxBuf, gets with
  | some _, _ => s
  | none, [] | none, none :: _ => s
  | none, some space :: gets =>
      let m := s.pool.fresh
      let (pool, got) := (s.pool.osMsysGet space).grow m (winc1500SockRxSize - space.val) gets
      if got then { s with pool := pool, wss := { s.wss with rxBuf := some m } }
      else { s with pool := pool.osMbufFreeChain (some m) }

/-- The first socket from `idx` on with `ws_poll`. -/
def firstPolled (s : System) (idx : Nat) : Option Nat :=
  (List.range' idx (maxSocket - idx)).find? fun i => (s.winc1500Socks i).wsPoll

theorem firstPolled_eq_some {s : System} {idx i : Nat} (h : firstPolled s idx = some i) :
    i < maxSocket ∧ (s.winc1500Socks i).wsPoll = true := by
  have hmem := List.mem_of_find?_eq_some h
  rw [List.mem_range'_1] at hmem
  have hpoll := List.find?_some (p := fun i => (s.winc1500Socks i).wsPoll) h
  exact ⟨by omega, hpoll⟩

/-- A socket that is polled is the first one from itself on. -/
theorem firstPolled_self {s : System} {i : Nat} (hi : i < maxSocket)
    (hpoll : (s.winc1500Socks i).wsPoll = true) : firstPolled s i = some i := by
  obtain ⟨k, hk⟩ := Nat.exists_eq_add_of_lt hi
  have hlen : maxSocket - i = k + 1 := by omega
  rw [firstPolled, hlen, List.range'_succ]
  exact List.find?_cons_of_pos (p := fun i => (s.winc1500Socks i).wsPoll) hpoll

/-- `OS_MBUF_TRAILINGSPACE(m)` as the `uint16` argument of `recvfrom`. -/
def u16BufLen (m : Mbuf) : Nat := (m.trailingSpace % 65536).toNat

/-- The request of `winc1500_sock_start_rx` to receive to `m`. -/
def requestTo (sent : Bool) (i m : Nat) (s : System) : System :=
  let r := recvfrom sent i m (u16BufLen (s.pool.mbuf m)) s
  if r.1 = 0 then { r.2 with wss := { r.2.wss with curBuf := some m, polling := true } } else r.2

/-- A socket with a buffer registered for `m`. -/
def registered (i m : Nat) (bIsRecvPending : Bool) (s : System) : TstrSocket :=
  { s.gastrSockets i with
    pu8UserBuffer := some m
    u16UserBufferSize := u16BufLen (s.pool.mbuf m)
    bIsRecvPending := bIsRecvPending }

/-- `cur_buf` and `polling` behind a `recvfrom` that succeeds. -/
def SockState.pollTo (wss : SockState) (m : Nat) : SockState :=
  { wss with curBuf := some m, polling := true }

/-- What a request can come to. -/
inductive RequestStep (sent : Bool) (i m : Nat) (s : System) : System → Prop where
  | refused : ¬ (u16BufLen (s.pool.mbuf m) ≠ 0 ∧ (s.gastrSockets i).bIsUsed = true) →
      RequestStep sent i m s s
  /-- One is pending already, and the buffer is registered for its reply. -/
  | pending : u16BufLen (s.pool.mbuf m) ≠ 0 → (s.gastrSockets i).bIsUsed = true →
      (s.gastrSockets i).bIsRecvPending = true →
      RequestStep sent i m s
        ({ s with wss := s.wss.pollTo m }.setSocket i (registered i m true s))
  | sent : u16BufLen (s.pool.mbuf m) ≠ 0 → (s.gastrSockets i).bIsUsed = true →
      (s.gastrSockets i).bIsRecvPending = false → sent = true →
      RequestStep sent i m s
        ({ s with wss := s.wss.pollTo m, outstanding := s.outstanding ++ [s.request i] }.setSocket i
          (registered i m true s))
  | unsent : (s.gastrSockets i).bIsUsed = true → (s.gastrSockets i).bIsRecvPending = false →
      sent = false → RequestStep sent i m s (s.setSocket i (registered i m true s))

theorem requestTo_cases (sent : Bool) (i m : Nat) (s : System) :
    RequestStep sent i m s (requestTo sent i m s) := by
  have hok : sockErrNoError = 0 := rfl
  have hinvalid : ¬ sockErrInvalidArg = 0 := by decide
  have hfull : ¬ sockErrBufferFull = 0 := by decide
  unfold requestTo recvfrom
  by_cases hlen : u16BufLen (s.pool.mbuf m) ≠ 0 ∧ (s.gastrSockets i).bIsUsed = true
  · cases hpending : (s.gastrSockets i).bIsRecvPending with
    | true =>
        simp only [if_pos hlen, hpending, Bool.not_true, Bool.false_eq_true, if_false, if_pos hok]
        exact .pending hlen.1 hlen.2 hpending
    | false =>
        cases sent with
        | true =>
            simp only [if_pos hlen, hpending, Bool.not_false, if_true, if_pos hok]
            exact .sent hlen.1 hlen.2 hpending rfl
        | false =>
            simp only [if_pos hlen, hpending, Bool.not_false, if_true, Bool.false_eq_true,
              if_false, if_neg hfull]
            exact .unsent hlen.2 hpending rfl
  · simp only [if_neg hlen, if_neg hinvalid]
    exact .refused hlen

/-- `winc1500_sock_start_rx`. -/
def winc1500SockStartRx (io : Io) (idx : Nat) (cont : Bool) (s : System) : System :=
  let s := getRxBuf io.gets { s with wss := { s.wss with polling := false } }
  match s.wss.rxBuf with
  | none => { s with gu8FlowCtrl := true }
  | some rxBuf =>
      let s := { s with gu8FlowCtrl := false }
      match firstPolled s idx with
      | none => s
      | some i =>
          -- `cur_buf` is NULL only before the first request
          match if cont then s.wss.curBuf.bind s.pool.next else some rxBuf with
          | none => { s with fault := true }
          | some m => requestTo io.sent i m s

/-- What `winc1500_sock_start_rx` can do, behind its allocation. -/
inductive StartRxStep (io : Io) (idx : Nat) (cont : Bool) (s : System) : System → Prop where
  /-- There are no mbufs. -/
  | flowCtl : s.wss.rxBuf = none → StartRxStep io idx cont s { s with gu8FlowCtrl := true }
  | unpolled {rxBuf : Nat} : s.wss.rxBuf = some rxBuf → firstPolled s idx = none →
      StartRxStep io idx cont s { s with gu8FlowCtrl := false }
  /-- The chain has no mbuf behind `cur_buf`. -/
  | noMbuf {rxBuf i : Nat} : s.wss.rxBuf = some rxBuf → firstPolled s idx = some i →
      cont = true → s.wss.curBuf.bind s.pool.next = none →
      StartRxStep io idx cont s { s with gu8FlowCtrl := false, fault := true }
  | request {rxBuf i m : Nat} : s.wss.rxBuf = some rxBuf → firstPolled s idx = some i →
      (if cont then s.wss.curBuf.bind s.pool.next else some rxBuf) = some m →
      StartRxStep io idx cont s (requestTo io.sent i m { s with gu8FlowCtrl := false })

/-- The state behind the allocation of `winc1500_sock_start_rx`. -/
def allocated (io : Io) (s : System) : System :=
  getRxBuf io.gets { s with wss := { s.wss with polling := false } }

theorem winc1500SockStartRx_cases (io : Io) (idx : Nat) (cont : Bool) (s : System) :
    StartRxStep io idx cont (allocated io s) (winc1500SockStartRx io idx cont s) := by
  have hpolled : firstPolled { allocated io s with gu8FlowCtrl := false } idx
      = firstPolled (allocated io s) idx := rfl
  unfold winc1500SockStartRx
  dsimp only
  rw [← allocated, hpolled]
  cases hrx : (allocated io s).wss.rxBuf with
  | none => exact .flowCtl hrx
  | some rxBuf =>
      dsimp only
      cases hi : firstPolled (allocated io s) idx with
      | none => exact .unpolled hrx hi
      | some i =>
          dsimp only
          cases hm : if cont then (allocated io s).wss.curBuf.bind (allocated io s).pool.next
              else some rxBuf with
          | none =>
              cases cont with
              | true => exact .noMbuf hrx hi rfl hm
              | false => cases hm
          | some m => exact .request hrx hi hm

/-- The allocation changes the mbufs and `rx_buf`, which it sets only where it is NULL. -/
theorem allocated_eq (io : Io) (s : System) :
    ∃ pool rxBuf, allocated io s
        = { s with pool := pool, wss := { s.wss with polling := false, rxBuf := rxBuf } } ∧
      (s.wss.rxBuf ≠ none → pool = s.pool ∧ rxBuf = s.wss.rxBuf) := by
  unfold allocated getRxBuf
  dsimp only
  split
  · exact ⟨s.pool, s.wss.rxBuf, rfl, fun _ => ⟨rfl, rfl⟩⟩
  · exact ⟨s.pool, s.wss.rxBuf, rfl, fun _ => ⟨rfl, rfl⟩⟩
  · exact ⟨s.pool, s.wss.rxBuf, rfl, fun _ => ⟨rfl, rfl⟩⟩
  · rename_i hnone _
    split
    · exact ⟨_, _, rfl, fun hrx => absurd hnone hrx⟩
    · exact ⟨_, s.wss.rxBuf, rfl, fun hrx => absurd hnone hrx⟩

theorem allocated_of_some {io : Io} {s : System} {b : Nat} (hrx : s.wss.rxBuf = some b) :
    allocated io s = { s with wss := { s.wss with polling := false } } := by
  unfold allocated getRxBuf
  dsimp only
  rw [hrx]

/-- Without mbufs for a whole chain there is no chain. -/
theorem allocated_none (io : Io) {s : System} (hrx : s.wss.rxBuf = none)
    (hgets : Pool.supplies winc1500SockRxSize io.gets = false) :
    (allocated io s).wss.rxBuf = none := by
  unfold allocated getRxBuf
  dsimp only
  rw [hrx]
  cases hcases : io.gets with
  | nil => rfl
  | cons got gets =>
      cases got with
      | none => rfl
      | some space =>
          rw [hcases] at hgets
          have hgrow : Pool.supplies (winc1500SockRxSize - space.val) gets = false :=
            (Bool.or_eq_false_iff.mp hgets).2
          dsimp only
          rw [Pool.grow_snd, hgrow, if_neg Bool.false_ne_true]

/-- `winc1500_socket_poll`. -/
def winc1500SocketPoll (io : Io) (s : System) : System :=
  if s.wss.polling then s else winc1500SockStartRx io 0 false s

/-! ## `winc1500_sock_cb` -/

/-- The last chunk of a reply: what is left of the chain is freed, and the packet appended. -/
def appendPacket (idx rx cur : Nat) (s : System) : System :=
  let rest := s.pool.chainFrom (s.pool.next cur)
  let pool := (s.pool.give .free rest).setNext cur none
  let chain := pool.chainFrom (some rx)
  let ws := s.winc1500Socks idx
  { s with
    pool := pool.give (.queued idx rx) chain
    wss := { s.wss with rxBuf := none }
    log := .appended idx rx (pool.bytes chain) (pool.mbuf rx).ompLen (pool.lens chain) :: s.log
    }.setSock idx { ws with wsRx := ws.wsRx ++ [rx] }

/-- A chunk of `len` bytes is accounted to `cur_buf`. -/
def accountChunk (rx cur len : Nat) (s : System) : System :=
  let pool := s.pool.modify rx fun m => { m with ompLen := m.ompLen + len }
  { s with pool := pool.modify cur fun m => { m with omLen := len } }

/-- `SOCKET_MSG_RECV` and `SOCKET_MSG_RECVFROM` of `winc1500_sock_cb`, up to
`mn_socket_readable` where it is called. -/
def winc1500SockCb (io : Io) (idx : Nat) (s16BufferSize : Int) (u16RemainingSize : Nat)
    (s : System) : System :=
  if s16BufferSize = sockErrTimeout then winc1500SockStartRx io (idx + 1) false s
  else if 0 < s16BufferSize then
    match s.wss.curBuf, s.wss.rxBuf with
    | some cur, some rx =>
        let s := accountChunk rx cur s16BufferSize.toNat s
        if u16RemainingSize ≠ 0 then winc1500SockStartRx io idx true s
        else { appendPacket idx rx cur s with phase := .notify idx }
    | _, _ => { s with fault := true }
  else
    { s.setSock idx { s.winc1500Socks idx with wsClosed := true, wsPoll := false } with
      phase := .notify (idx + 1) }

theorem winc1500SockCb_chunk {s : System} {cur rx len : Nat} (hcur : s.wss.curBuf = some cur)
    (hrx : s.wss.rxBuf = some rx) (hlen : 0 < len) (io : Io) (idx u16RemainingSize : Nat) :
    winc1500SockCb io idx len u16RemainingSize s
      = if u16RemainingSize ≠ 0 then winc1500SockStartRx io idx true (accountChunk rx cur len s)
        else { appendPacket idx rx cur (accountChunk rx cur len s) with phase := .notify idx } := by
  have htimeout : ¬ (len : Int) = sockErrTimeout := by
    unfold sockErrTimeout
    omega
  unfold winc1500SockCb
  rw [if_neg htimeout, if_pos (Int.natCast_pos.mpr hlen), hcur, hrx]
  rfl

/-! ## `m2m_ip_cb` -/

/-- The value of `(sint16)x`. -/
def sint16 (x : Int) : Int := if x % 65536 < 32768 then x % 65536 else x % 65536 - 65536

/-- `u16Read` of `Socket_ReadSocketData`. -/
def readSize (u16ReadCount u16UserBufferSize : Nat) : Nat :=
  if 0 < sint16 (u16ReadCount - u16UserBufferSize) then u16UserBufferSize else u16ReadCount

/-- A chunk has been written to `buf`.  What is left to read is noted before the callback, which
may leave for `mn_socket_readable`. -/
def received (buf u16Read : Nat) (r : Reading) (s : System) : System :=
  let rest := r.rest.drop u16Read
  let pool := s.pool.modify buf fun m => m.write (r.rest.take u16Read)
  { s with
    pool := pool
    phase := if rest = [] then .idle else .reading ⟨r.sock, r.done ++ r.rest.take u16Read, rest⟩
    log := .chunk buf (pool.mbuf buf).owner s.wss.curBuf (pool.chainFrom s.wss.rxBuf) :: s.log }

/-- One turn of the loop of `Socket_ReadSocketData`; `ok` is the outcome of `hif_receive`. -/
def readChunk (io : Io) (ok : Bool) (r : Reading) (s : System) : System :=
  let x := s.gastrSockets r.sock
  let u16Read := readSize r.rest.length x.u16UserBufferSize
  match ok, x.pu8UserBuffer with
  | true, some buf =>
      winc1500SockCb io r.sock u16Read (r.rest.drop u16Read).length (received buf u16Read r s)
  | _, _ => { s with phase := .idle }

/-- The answer of the firmware to a receive request. -/
inductive Reply where
  | data (bytes : List UInt8)
  /-- `SOCK_ERR_NO_ERROR` for a closed connection, or an error. -/
  | status (s16RecvStatus : Int)
deriving DecidableEq, Repr

/-- A reply the firmware can send. -/
def Reply.WF : Reply → Prop
  | .data bytes => bytes ≠ [] ∧ bytes.length ≤ 1500
  | .status code => code ≤ 0

instance (r : Reply) : Decidable r.WF := by
  cases r <;> unfold Reply.WF <;> infer_instance

/-- `SOCKET_CMD_RECV` and `SOCKET_CMD_RECVFROM` of `m2m_ip_cb`; `ok` is the outcome of
`hif_receive` for the reply structure. -/
def m2mIpCb (io : Io) (ok : Bool) (q : Request) (reply : Reply) (s : System) : System :=
  if ok then
    let x := s.gastrSockets q.sock
    let s := s.setSocket q.sock { x with bIsRecvPending := false }
    if q.u16SessionID = x.u16SessionID then
      match reply with
      | .data bytes =>
          if x.pu8UserBuffer ≠ none ∧ 0 < x.u16UserBufferSize ∧ x.bIsUsed then
            { s with phase := .reading ⟨q.sock, [], bytes⟩, log := .replied q.sock bytes :: s.log }
          else s
      | .status code => winc1500SockCb io q.sock code 0 s
    else s
  else s

/-! ## The system -/

/-- What can happen next. -/
inductive Event where
  | create (type : SockType)
  | connect (i : Nat)
  | close (i : Nat)
  /-- `winc1500_sock_recvfrom`. -/
  | recvfrom (i : Nat)
  /-- The answer to a `bind`. -/
  | bindReply (i : Nat)
  | acceptReply (listenSock connectedSock : Nat)
  | poll (io : Io)
  /-- The answer to a receive request. -/
  | reply (q : Request) (reply : Reply) (ok : Bool) (io : Io)
  /-- The next chunk of a reply. -/
  | chunk (ok : Bool) (io : Io)
  /-- `mn_socket_readable` returns. -/
  | resume (io : Io)

/-- The application can make a call. -/
def Phase.callable : Phase → Bool
  | .reading _ => false
  | _ => true

/-- A message is taken: nothing is being handled, and the flow is not stopped. -/
def System.Takes (s : System) : Prop := s.phase = .idle ∧ s.gu8FlowCtrl = false

instance (s : System) : Decidable s.Takes := by
  unfold System.Takes
  infer_instance

/-- One event; none behind a fault. -/
def step (s : System) (e : Event) : Option System :=
  if s.fault then none
  else
    match e with
    | .create type => if s.phase.callable then some (winc1500SockCreate type s) else none
    | .connect i =>
        if s.phase.callable ∧ i < maxSocket then some (winc1500SockConnect i s) else none
    | .close i =>
        if s.phase.callable ∧ i < maxSocket then some (winc1500SockClose i s) else none
    | .recvfrom i =>
        if s.phase.callable ∧ i < maxSocket then some (winc1500SockRecvfrom i s) else none
    | .bindReply i => if s.Takes ∧ i < maxSocket then some (bindReply i s) else none
    | .acceptReply l c =>
        if s.Takes ∧ l < maxSocket ∧ c < maxSocket then some (acceptReply l c s) else none
    | .poll io => if s.phase = .idle then some (winc1500SocketPoll io s) else none
    | .reply q reply ok io =>
        if s.Takes ∧ q ∈ s.outstanding ∧ reply.WF then
          some (m2mIpCb io ok q reply { s with outstanding := s.outstanding.erase q })
        else none
    | .chunk ok io =>
        match s.phase with
        | .reading r => some (readChunk io ok r s)
        | _ => none
    | .resume io =>
        match s.phase with
        | .notify idx => some { winc1500SockStartRx io idx false s with phase := .idle }
        | _ => none

theorem System.Takes.callable {s : System} (h : s.Takes) : s.phase.callable = true := by
  rw [h.1]
  rfl

/-- What an event can do. -/
inductive EventStep (s : System) : Event → System → Prop where
  | create (type : SockType) : s.phase.callable = true →
      EventStep s (.create type) (winc1500SockCreate type s)
  | connect {i : Nat} : s.phase.callable = true → i < maxSocket →
      EventStep s (.connect i) (winc1500SockConnect i s)
  | close {i : Nat} : s.phase.callable = true → i < maxSocket →
      EventStep s (.close i) (winc1500SockClose i s)
  | recvfrom {i : Nat} : s.phase.callable = true → i < maxSocket →
      EventStep s (.recvfrom i) (winc1500SockRecvfrom i s)
  | bindReply {i : Nat} : s.Takes → i < maxSocket → EventStep s (.bindReply i) (bindReply i s)
  | acceptReply {l c : Nat} : s.Takes → l < maxSocket → c < maxSocket →
      EventStep s (.acceptReply l c) (acceptReply l c s)
  | poll (io : Io) : s.phase = .idle → EventStep s (.poll io) (winc1500SocketPoll io s)
  | reply {q : Request} {reply : Reply} (ok : Bool) (io : Io) :
      s.Takes → q ∈ s.outstanding → reply.WF →
      EventStep s (.reply q reply ok io)
        (m2mIpCb io ok q reply { s with outstanding := s.outstanding.erase q })
  | chunk {r : Reading} (ok : Bool) (io : Io) : s.phase = .reading r →
      EventStep s (.chunk ok io) (readChunk io ok r s)
  | resume {idx : Nat} (io : Io) : s.phase = .notify idx →
      EventStep s (.resume io) { winc1500SockStartRx io idx false s with phase := .idle }

theorem step_cases {s s' : System} {e : Event} (h : step s e = some s') : EventStep s e s' := by
  unfold step at h
  rw [Option.ite_none_left_eq_some] at h
  obtain ⟨-, h⟩ := h
  cases e with
  | create type =>
      rw [Option.ite_none_right_eq_some] at h
      cases h.2
      exact .create type h.1
  | connect i =>
      rw [Option.ite_none_right_eq_some] at h
      cases h.2
      exact .connect h.1.1 h.1.2
  | close i =>
      rw [Option.ite_none_right_eq_some] at h
      cases h.2
      exact .close h.1.1 h.1.2
  | recvfrom i =>
      rw [Option.ite_none_right_eq_some] at h
      cases h.2
      exact .recvfrom h.1.1 h.1.2
  | bindReply i =>
      rw [Option.ite_none_right_eq_some] at h
      cases h.2
      exact .bindReply h.1.1 h.1.2
  | acceptReply l c =>
      rw [Option.ite_none_right_eq_some] at h
      cases h.2
      exact .acceptReply h.1.1 h.1.2.1 h.1.2.2
  | poll io =>
      rw [Option.ite_none_right_eq_some] at h
      cases h.2
      exact .poll io h.1
  | reply q reply ok io =>
      rw [Option.ite_none_right_eq_some] at h
      obtain ⟨⟨htakes, hq, hwf⟩, heq⟩ := h
      cases heq
      exact .reply ok io htakes hq hwf
  | chunk ok io =>
      dsimp only at h
      split at h
      · rename_i r hr
        cases h
        exact .chunk ok io hr
      · cases h
  | resume io =>
      dsimp only at h
      split at h
      · rename_i idx hidx
        cases h
        exact .resume io hidx
      · cases h

end Rx

end Winc1500
