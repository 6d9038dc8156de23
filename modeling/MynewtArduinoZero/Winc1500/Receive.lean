import MynewtArduinoZero.Winc1500.RxQueue
import MynewtArduinoZero.Winc1500.StartRx

/-!
# Receiving in chunks

`RxInv` is what holds in every state: between messages (`Idle`), in
`mn_socket_readable` (`Notifying`), and in `Socket_ReadSocketData` before a chunk
(`Receiving`), where `cur_buf`, the buffer that is registered, and the first empty
mbuf of the chain are the same (`Buffers`).  Calls keep it, and so does a chunk.
-/

namespace Winc1500

open Log

namespace Rx

/-! ## Calls -/

/-- What a call leaves alone.  Where a socket is changed, no outstanding request is for its
session. -/
structure Kept (s s' : System) : Prop where
  wss : s'.wss = s.wss
  flow : s'.gu8FlowCtrl = s.gu8FlowCtrl
  outstanding : s'.outstanding = s.outstanding
  sockets : ∀ i, s'.request i ∈ s.outstanding → s'.gastrSockets i = s.gastrSockets i ∧
    ((s.winc1500Socks i).wsPoll = true → (s'.winc1500Socks i).wsPoll = true)
  pool : Pool.Only (· ≠ .rx) s.pool s'.pool

namespace Kept

variable {s s' : System} {q : Request}

theorem request (h : Kept s s') {i : Nat} (hi : s'.request i ∈ s.outstanding) :
    s'.request i = s.request i := by
  rw [System.request, (h.sockets i hi).1, System.request]

theorem noneDue (h : Kept s s') (hnone : NoneDue s) : NoneDue s' := by
  intro q hq heq
  rw [h.outstanding] at hq
  refine hnone q hq (heq.trans (h.request ?_))
  rwa [← heq]

theorem due (h : Kept s s') (hq : Due s q) :
    NoneDue s' ∨ Due s' q ∧ s'.request q.sock ∈ s.outstanding := by
  by_cases hmem : s'.request q.sock ∈ s.outstanding
  · refine .inr ⟨?_, hmem⟩
    exact
      { outstanding := h.outstanding ▸ hq.outstanding
        current := hq.current.trans (h.request hmem).symm
        sole := by
          intro q' hq' heq
          rw [h.outstanding] at hq'
          have hout := List.mem_of_mem_erase hq'
          refine hq.sole q' hq' (heq.trans (h.request ?_))
          rwa [← heq] }
  · refine .inl fun q' hq' heq => ?_
    rw [h.outstanding] at hq'
    have hold : q' = s.request q'.sock := heq.trans (h.request (heq ▸ hq'))
    cases hq.unique hq' hold
    exact hmem (heq ▸ hq')

theorem rxReady (h : Kept s s') (hready : RxReady s) : RxReady s' := by
  intro b hb
  rw [h.wss] at hb
  obtain ⟨l, hl, hroom⟩ := hready b hb
  refine ⟨l, hl.only h.pool fun hrx => hrx rfl, ?_⟩
  rw [Pool.room_congr (P := s.pool)]
  · exact hroom
  · intro i hi
    rw [h.pool.same_of_holds hl.holds (fun hrx => hrx rfl) i hi]

/-- The call leaves what waits for a reply. -/
theorem waiting (h : Kept s s') {X : System → Request → Prop}
    (hX : ∀ q, s'.gastrSockets q.sock = s.gastrSockets q.sock → X s q → X s' q)
    (hwaiting : Waiting X s) : Waiting X s' := by
  rcases hwaiting with hnone | ⟨q, hq, hpoll, hx⟩
  · exact .inl (h.noneDue hnone)
  · rcases h.due hq with hnone | ⟨hq', hmem⟩
    · exact .inl hnone
    · obtain ⟨hsame, hpolled⟩ := h.sockets q.sock hmem
      exact .inr ⟨q, hq', hpolled hpoll, hX q hsame hx⟩

theorem idle (h : Kept s s') (hidle : Idle s) : Idle s' where
  ready := h.rxReady hidle.ready
  waiting := by
    refine h.waiting (fun q hsame hawaiting => ?_) hidle.waiting
    cases hawaiting with
    | @polled b hpolling hrx hcur hregistered =>
        obtain ⟨l, hl, -⟩ := hidle.ready b hrx
        have hb := h.pool.same_of_holds hl.holds (fun hrx => hrx rfl) b hl.holds.head_mem
        refine .polled (h.wss ▸ hpolling) (h.wss ▸ hrx) (h.wss ▸ hcur) ⟨?_, ?_⟩
        · rw [hsame, hregistered.buffer]
        · rw [hsame, hregistered.size, hb]
    | stopped hpolling hrx hflow hpending =>
        refine .stopped (h.wss ▸ hpolling) (h.wss ▸ hrx) (h.flow.trans hflow) ?_
        rw [hsame, hpending]

theorem notifying (h : Kept s s') {idx : Nat} (hnotifying : Notifying idx s) :
    Notifying idx s' where
  ready := h.rxReady hnotifying.ready
  waiting := by
    refine h.waiting (fun q hsame hcontinued => ?_) hnotifying.waiting
    exact
      { sock := hcontinued.sock
        pending := by rw [hsame, hcontinued.pending]
        rxBuf := h.wss ▸ hcontinued.rxBuf }

end Kept

/-! ## In a reply -/

/-- The chain in the middle of a reply: `cur` is the mbuf of the next chunk, and there is room for
what is left. -/
structure Buffers (s : System) (r : Reading) (b cur : Nat) (filled rest : List Nat) : Prop where
  rxBuf : s.wss.rxBuf = some b
  curBuf : s.wss.curBuf = some cur
  registered : Registered s r.sock cur
  filling : s.pool.Filling b filled (cur :: rest) r.done
  room : winc1500SockRxSize ≤ r.done.length + s.pool.room (cur :: rest)
  first : r.done = [] → filled = []

/-- `Socket_ReadSocketData` before a chunk. -/
structure Receiving (r : Reading) (s : System) : Prop where
  buffers : ∃ b cur filled rest, Buffers s r b cur filled rest
  rest : r.rest ≠ []
  total : r.done.length + r.rest.length ≤ 1500
  used : (s.gastrSockets r.sock).bIsUsed = true
  sock : r.sock < maxSocket
  polled : (s.winc1500Socks r.sock).wsPoll = true
  reply : lastReply s.log = some (.replied r.sock (r.done ++ r.rest))
  /-- The first continuation has sent a request. -/
  request : NoneDue s ∧ (s.gastrSockets r.sock).bIsRecvPending = false ∨
    r.done ≠ [] ∧ Due s (s.request r.sock) ∧ (s.gastrSockets r.sock).bIsRecvPending = true

/-- What holds in every state. -/
structure RxInv (s : System) : Prop where
  sessions : Sessions s
  queues : Queues s.pool s.winc1500Socks s.log
  safe : s.fault = false
  idle : s.phase = .idle → Idle s
  notifying : ∀ idx, s.phase = .notify idx → Notifying idx s
  receiving : ∀ r, s.phase = .reading r → Receiving r s

namespace RxInv

variable {s s' : System}

theorem init : RxInv .init where
  sessions :=
    { unused := fun _ _ => rfl
      session := fun _ hused => by cases hused
      requests := fun _ hq => by cases hq }
  queues :=
    { heads := fun _ => rfl
      packets := fun _ _ he => by cases he
      nodup := fun _ => List.nodup_nil
      justified := allJustified_nil }
  safe := rfl
  idle := fun _ => ⟨rxReady_of_none rfl, .inl fun _ hq => by cases hq⟩
  notifying := fun _ hphase => by cases hphase
  receiving := fun _ hphase => by cases hphase

/-- A call. -/
theorem call (h : RxInv s) (hkept : Kept s s') (hcallable : s.phase.callable = true)
    (hphase : s'.phase = s.phase) (hsessions : Sessions s')
    (hqueues : Queues s'.pool s'.winc1500Socks s'.log) (hfault : s'.fault = s.fault) :
    RxInv s' where
  sessions := hsessions
  queues := hqueues
  safe := hfault.trans h.safe
  idle := fun hidle => hkept.idle (h.idle (hphase.symm.trans hidle))
  notifying := fun idx hidx => hkept.notifying (h.notifying idx (hphase.symm.trans hidx))
  receiving := fun r hr => by
    rw [← hphase, hr] at hcallable
    cases hcallable

/-- A call that changes a socket of the `mn_socket` layer, and mbufs that are not received to. -/
theorem setSock (h : RxInv s) (hcallable : s.phase.callable = true) (i : Nat) {x : Winc1500Sock}
    (hpoll : (s.winc1500Socks i).wsPoll = true → x.wsPoll = true) {pool : Pool}
    (honly : Pool.Only (· ≠ .rx) s.pool pool) {log : List Obs}
    (hqueues : Queues pool (Function.update s.winc1500Socks i x) log) :
    RxInv ({ s with pool := pool, log := log }.setSock i x) := by
  have hsockets : ∀ j, (s.winc1500Socks j).wsPoll = true →
      (({ s with pool := pool, log := log }.setSock i x).winc1500Socks j).wsPoll = true := by
    intro j hj
    rcases eq_or_ne j i with rfl | hne
    · rw [System.setSock_self]
      exact hpoll hj
    · rw [System.setSock_of_ne hne]
      exact hj
  exact h.call ⟨rfl, rfl, rfl, fun j _ => ⟨rfl, hsockets j⟩, honly⟩ hcallable rfl
    ⟨h.sessions.unused, h.sessions.session, h.sessions.requests⟩ hqueues rfl

/-- A call that changes the sockets of both layers at an index. -/
theorem setSockets (h : RxInv s) (hcallable : s.phase.callable = true) {i : Nat} {x : TstrSocket}
    (hunused : x.bIsUsed = false → x = .zero) (hsession : x.bIsUsed = true → x.u16SessionID ≠ 0)
    (hnew : ⟨i, x.u16SessionID⟩ ∉ s.outstanding) (id : UInt16) {ws : Winc1500Sock} {pool : Pool}
    (honly : Pool.Only (· ≠ .rx) s.pool pool) {log : List Obs}
    (hqueues : Queues pool (Function.update s.winc1500Socks i ws) log) :
    RxInv (({ s with pool := pool, gu16SessionID := id, log := log }.setSocket i x).setSock i ws) := by
  refine h.call ⟨rfl, rfl, rfl, fun j hj => ?_, honly⟩ hcallable rfl ?_ hqueues rfl
  · have hne : j ≠ i := by
      rintro rfl
      refine hnew ?_
      have hself := System.setSocket_self (s := s) j x
      rwa [← hself]
    refine ⟨Function.update_of_ne hne .., fun hpoll => ?_⟩
    rw [System.setSock_of_ne hne]
    exact hpoll
  · have hset := h.sessions.setSocket (i := i) hunused hsession
    exact ⟨hset.unused, hset.session, hset.requests⟩

theorem create (h : RxInv s) (hcallable : s.phase.callable = true) {type : SockType}
    (hnew : ∀ i ∈ (socket type s).1, ⟨i, nextSessionID s.gu16SessionID⟩ ∉ s.outstanding) :
    RxInv (winc1500SockCreate type s) := by
  unfold winc1500SockCreate
  unfold socket at hnew ⊢
  cases hi : (socketRange type).find? fun i => !(s.gastrSockets i).bIsUsed with
  | none => exact h
  | some i =>
      rw [hi] at hnew
      exact h.setSockets hcallable (fun hfree => by cases hfree)
        (fun _ => nextSessionID_ne_zero _) (hnew i rfl) _ (.refl _) (h.queues.setSock i rfl)

theorem accept (h : RxInv s) (hcallable : s.phase.callable = true) (l : Nat) {c : Nat}
    (hnew : ⟨c, nextSessionID s.gu16SessionID⟩ ∉ s.outstanding) : RxInv (acceptReply l c s) :=
  h.setSockets hcallable (fun hfree => by cases hfree) (fun _ => nextSessionID_ne_zero _) hnew _
    (.refl _) (h.queues.setSock c rfl)

theorem close (h : RxInv s) (hcallable : s.phase.callable = true) (i : Nat) :
    RxInv (winc1500SockClose i s) := by
  obtain ⟨hqueues, honly⟩ := h.queues.closeSock i (x := ⟨false, false, .none, []⟩) rfl
  have honly : Pool.Only (· ≠ .rx) s.pool _ := honly.mono fun owner hqueued hrx => by
    obtain ⟨m, rfl⟩ := hqueued
    cases hrx
  have hclose : Rx.close i s = s.setSocket i .zero := by
    unfold Rx.close
    split
    · rfl
    · rename_i hfree
      rw [← h.sessions.unused i (Bool.eq_false_iff.mpr hfree), System.setSocket,
        Function.update_eq_self]
  unfold winc1500SockClose
  rw [hclose]
  exact h.setSockets hcallable (fun _ => rfl) (fun hused => by cases hused)
    (fun hq => (h.sessions.requests _ hq).1 rfl) s.gu16SessionID honly hqueues

theorem recvfrom (h : RxInv s) (hcallable : s.phase.callable = true) (i : Nat) :
    RxInv (winc1500SockRecvfrom i s) := by
  unfold winc1500SockRecvfrom
  dsimp only
  split
  · rename_i m rest hrx
    obtain ⟨hqueues, honly⟩ := h.queues.takeHead hrx
    refine h.setSock hcallable i ?_
      (honly.mono fun owner hqueued hrx => by cases hqueued.symm.trans hrx) hqueues
    exact id
  · exact h

end RxInv

/-! ## Chunks -/

theorem readSize_eq {u16ReadCount u16UserBufferSize : Nat} (hcount : u16ReadCount ≤ 1500)
    (hsize : u16UserBufferSize < 2 ^ 15) :
    readSize u16ReadCount u16UserBufferSize = min u16ReadCount u16UserBufferSize := by
  unfold readSize sint16
  split <;> split at * <;> omega

/-- The state behind a chunk that is accounted to its mbuf. -/
def chunked (b cur n : Nat) (chain : List Nat) (r : Reading) (s : System) : System :=
  { s with
    pool := s.pool.fill b cur (r.rest.take n)
    phase :=
      if r.rest.drop n = [] then .idle
      else .reading ⟨r.sock, r.done ++ r.rest.take n, r.rest.drop n⟩
    log := .chunk cur .rx (some cur) chain :: s.log }

namespace Buffers

variable {s : System} {r : Reading} {b cur : Nat} {filled rest : List Nat}

theorem owner_cur (h : Buffers s r b cur filled rest) : (s.pool.mbuf cur).owner = .rx :=
  h.filling.holds.owner cur (by simp)

/-- The chunk is written to `cur_buf`, and accounted to it. -/
theorem accountChunk_received (h : Buffers s r b cur filled rest) {n : Nat}
    (hn : n ≤ r.rest.length) :
    accountChunk b cur n (received cur n r s) = chunked b cur n (filled ++ cur :: rest) r s := by
  have hlen : (r.rest.take n).length = n := List.length_take_of_le hn
  have hholds := h.filling.holds.modify (i := cur)
    (f := fun m => m.write (r.rest.take n)) rfl rfl
  unfold accountChunk received chunked Pool.fill
  dsimp only
  rw [h.rxBuf, h.curBuf, hholds.chainFrom, hlen, Pool.modify_self]
  rw [show ((s.pool.mbuf cur).write (r.rest.take n)).owner = .rx from h.owner_cur]

theorem queues (h : Buffers s r b cur filled rest) (hs : RxInv s) {n : Nat} :
    Queues (chunked b cur n (filled ++ cur :: rest) r s).pool s.winc1500Socks
      (chunked b cur n (filled ++ cur :: rest) r s).log := by
  have hb := h.filling.holds.owner b h.filling.holds.head_mem
  have honly := Pool.RxOnly.fill hb h.owner_cur (r.rest.take n)
  exact (hs.queues.rxOnly honly).observe (fun _ => rfl) ⟨rfl, rfl, by simp⟩

/-- The last chunk: the packet is complete. -/
theorem last (h : Buffers s r b cur filled rest) (hs : RxInv s) (hr : Receiving r s) {n : Nat}
    (hn : n = r.rest.length) :
    RxInv { appendPacket r.sock b cur (chunked b cur n (filled ++ cur :: rest) r s) with
      phase := .notify r.sock } := by
  have htake : r.rest.take n = r.rest := List.take_of_length_le (Nat.le_of_eq hn.symm)
  have hfilling := h.filling.fill (r.rest.take n)
  have hdone := hfilling.truncate
  have hchain := hdone.holds.chainFrom
  rw [List.append_nil] at hchain
  have hqueues := (h.queues hs (n := n)).rxOnly hfilling.rxOnly_truncate
  have hreply : lastReply (chunked b cur n (filled ++ cur :: rest) r s).log
      = some (.replied r.sock (r.done ++ r.rest.take n)) := by
    rw [htake]
    exact hr.reply
  have happend := hqueues.append hdone hreply
  have hpolled : ((appendPacket r.sock b cur
      (chunked b cur n (filled ++ cur :: rest) r s)).winc1500Socks r.sock).wsPoll = true := by
    unfold appendPacket
    rw [System.setSock_self]
    exact hr.polled
  have hpool : ((chunked b cur n (filled ++ cur :: rest) r s).pool.give .free
      ((chunked b cur n (filled ++ cur :: rest) r s).pool.chainFrom
        ((chunked b cur n (filled ++ cur :: rest) r s).pool.next cur))).setNext cur none
      = (s.pool.fill b cur (r.rest.take n)).truncate cur := rfl
  exact
    { sessions := ⟨hs.sessions.unused, hs.sessions.session, hs.sessions.requests⟩
      queues := by
        unfold appendPacket
        dsimp only
        rw [hpool, hchain, hdone.bytes]
        exact happend
      safe := hs.safe
      idle := fun hphase => by cases hphase
      notifying := by
        intro idx hphase
        cases hphase
        refine ⟨rxReady_of_none rfl, ?_⟩
        rcases hr.request with ⟨hnone, -⟩ | ⟨-, hdue, hpending⟩
        · exact .inl (hnone.congr rfl rfl)
        · exact .inr ⟨_, hdue.congr rfl rfl, hpolled, ⟨rfl, hpending, rfl⟩⟩
      receiving := fun _ hphase => by cases hphase }

/-- A chunk that fills its mbuf, behind which more is left: there is another mbuf. -/
theorem continued (h : Buffers s r b cur filled rest) (hr : Receiving r s) {n : Nat}
    (hn : n = (s.pool.mbuf cur).space.val) (hlt : n < r.rest.length) :
    ∃ m rest', (s.pool.fill b cur (r.rest.take n)).next cur = some m ∧
      (s.pool.fill b cur (r.rest.take n)).Filling b (filled ++ [cur]) (m :: rest')
        (r.done ++ r.rest.take n) ∧
      winc1500SockRxSize ≤ (r.done ++ r.rest.take n).length +
        (s.pool.fill b cur (r.rest.take n)).room (m :: rest') := by
  have hfilling := h.filling.fill (r.rest.take n)
  have hroom := h.room
  have htotal := hr.total
  have hlen : (r.rest.take n).length = n := List.length_take_of_le (Nat.le_of_lt hlt)
  have hsplit : s.pool.room (cur :: rest) = s.pool.room [cur] + s.pool.room rest :=
    Pool.room_append [cur] rest
  rw [hsplit, Pool.room_singleton, winc1500SockRxSize] at hroom
  cases rest with
  | nil =>
      have hnil : s.pool.room [] = 0 := rfl
      omega
  | cons m rest' =>
      have hholds := hfilling.holds
      rw [List.append_assoc] at hholds
      have hsame : (s.pool.fill b cur (r.rest.take n)).room (m :: rest') = s.pool.room (m :: rest') :=
        Pool.room_congr fun i _ => by rw [Pool.fill_mbuf]
      refine ⟨m, rest', hholds.behind.chain.1, hfilling, ?_⟩
      rw [hsame, List.length_append, hlen, winc1500SockRxSize]
      omega

/-- The chain behind the request for its next mbuf. -/
theorem requested (h : Buffers s r b cur filled rest) {n m : Nat} {rest' : List Nat} {t : System}
    (htake : r.rest.take n ≠ [])
    (hrequested : Requested r.sock m (chunked b cur n (filled ++ cur :: rest) r s) t)
    (hfilling : (s.pool.fill b cur (r.rest.take n)).Filling b (filled ++ [cur]) (m :: rest')
      (r.done ++ r.rest.take n))
    (hroom : winc1500SockRxSize ≤ (r.done ++ r.rest.take n).length +
      (s.pool.fill b cur (r.rest.take n)).room (m :: rest')) :
    Buffers t ⟨r.sock, r.done ++ r.rest.take n, r.rest.drop n⟩ b m (filled ++ [cur]) rest' where
  rxBuf := by
    rw [hrequested.wss]
    exact h.rxBuf
  curBuf := by
    rw [hrequested.wss]
    rfl
  registered := by
    refine ⟨?_, ?_⟩
    · rw [hrequested.registered]
      rfl
    · rw [hrequested.registered, hrequested.pool]
      exact u16BufLen_of_blank (hfilling.blank m List.mem_cons_self)
  filling := by
    rw [hrequested.pool]
    exact hfilling
  room := by
    rw [hrequested.pool]
    exact hroom
  first := fun hnil => absurd (List.append_eq_nil_iff.mp hnil).2 htake

/-- The next chunk goes to the next mbuf, whether its request is the first one of the reply or
not. -/
theorem next (h : Buffers s r b cur filled rest) (hs : RxInv s) (hr : Receiving r s) {n : Nat}
    (hn : n = (s.pool.mbuf cur).space.val) (hlt : n < r.rest.length) {io : Io}
    (hsent : io.sent = true) :
    RxInv (winc1500SockStartRx io r.sock true
      (chunked b cur n (filled ++ cur :: rest) r s)) := by
  obtain ⟨m, rest', hnext, hfilling, hroom⟩ := h.continued hr hn hlt
  have hblank := u16BufLen_of_blank (hfilling.blank m List.mem_cons_self)
  obtain ⟨hpos, -⟩ := ((s.pool.fill b cur (r.rest.take n)).mbuf m).space.property
  have hdue : NoneDue (chunked b cur n (filled ++ cur :: rest) r s) ∧
        (s.gastrSockets r.sock).bIsRecvPending = false ∨
      Due (chunked b cur n (filled ++ cur :: rest) r s) (s.request r.sock) ∧
        (s.gastrSockets r.sock).bIsRecvPending = true :=
    hr.request.imp (fun h => ⟨h.1.congr rfl rfl, h.2⟩) fun h => ⟨h.2.1.congr rfl rfl, h.2.2⟩
  have hdrop : r.rest.drop n ≠ [] := by
    rw [ne_eq, List.drop_eq_nil_iff]
    omega
  have htake : r.rest.take n ≠ [] := by
    rw [ne_eq, List.take_eq_nil_iff]
    obtain ⟨hspace, -⟩ := (s.pool.mbuf cur).space.property
    exact fun hnil => hnil.elim (by omega) hr.rest
  have hrequested := winc1500SockStartRx_requested
    (s := chunked b cur n (filled ++ cur :: rest) r s)
    ⟨hs.sessions.unused, hs.sessions.session, hs.sessions.requests⟩ hr.sock hr.polled hr.used
    h.rxBuf h.curBuf hnext (hblank ▸ Nat.ne_of_gt hpos) hdue hsent
  have hphase := hrequested.phase.trans (if_neg hdrop)
  generalize winc1500SockStartRx io r.sock true _ = t at hrequested hphase ⊢
  exact
    { sessions := hrequested.sessions
      queues := by
        rw [hrequested.pool, hrequested.socks, hrequested.log]
        exact h.queues hs
      safe := hrequested.fault.trans hs.safe
      idle := fun hidle => by cases hphase.symm.trans hidle
      notifying := fun _ hidx => by cases hphase.symm.trans hidx
      receiving := by
        intro r' hr'
        cases hphase.symm.trans hr'
        exact
          { buffers := ⟨b, m, filled ++ [cur], rest', h.requested htake hrequested hfilling hroom⟩
            rest := hdrop
            total := by
              have htotal := hr.total
              rw [List.length_append, List.length_take, List.length_drop]
              omega
            used := hrequested.used
            sock := hr.sock
            polled := by
              rw [hrequested.socks]
              exact hr.polled
            reply := by
              rw [hrequested.log, List.append_assoc, List.take_append_drop]
              exact hr.reply
            request := .inr ⟨fun hnil => htake (List.append_eq_nil_iff.mp hnil).2,
              hrequested.due, hrequested.pending⟩ } }

end Buffers

end Rx

end Winc1500
