import MynewtArduinoZero.Lib.Run
import MynewtArduinoZero.Winc1500.Receive

/-!
# Integrity of received packets

A continuation asks for the rest of the reply with `recvfrom`, which sends a second
request to the same socket, as `bIsRecvPending` has been reset by the reply.  It is
outstanding when the packet is complete, with the last mbuf of the packet for its
buffer.  Behind `mn_socket_readable` the next chain is registered in its place, but
where there are no mbufs this is left to a poll, which starts at the first socket:
the reply may then be written to an mbuf of the application (`stray_chunk`).  A reply
that breaks off, and a continuation whose request is refused, leave `cur_buf` behind
what has been received as well.  Where none of this happens (`Orderly`), packets are
intact (`received_intact`).
-/

namespace Winc1500

open Run Log

namespace Rx

namespace RxInv

variable {s s' : System}

/-! ## Chunks -/

/-- A chunk that cannot be read, where nothing of the reply has been. -/
theorem broken (h : RxInv s) {r : Reading} (hr : s.phase = .reading r) (hdone : r.done = []) :
    RxInv { s with phase := .idle } where
  sessions := ⟨h.sessions.unused, h.sessions.session, h.sessions.requests⟩
  queues := h.queues
  safe := h.safe
  idle := fun _ => by
    have hrec := h.receiving r hr
    obtain ⟨b, cur, filled, rest, hb⟩ := hrec.buffers
    refine ⟨?_, ?_⟩
    · intro b' hb'
      cases hb.rxBuf.symm.trans hb'
      have hfilling := hb.filling
      have hroom := hb.room
      rw [hb.first hdone, hdone] at hfilling
      rw [hdone] at hroom
      exact ⟨cur :: rest, hfilling, by simpa using hroom⟩
    · rcases hrec.request with ⟨hnone, -⟩ | ⟨hmore, -, -⟩
      · exact .inl (hnone.congr rfl rfl)
      · exact absurd hdone hmore
  notifying := fun _ hphase => by cases hphase
  receiving := fun _ hphase => by cases hphase

/-- One turn of the loop of `Socket_ReadSocketData`. -/
theorem chunk (h : RxInv s) {r : Reading} (hr : s.phase = .reading r) {io : Io} {ok : Bool}
    (hcond : if ok then io.sent = true ∨ r.rest.length ≤ (s.gastrSockets r.sock).u16UserBufferSize
      else r.done = []) : RxInv (readChunk io ok r s) := by
  cases ok with
  | false => exact h.broken hr hcond
  | true =>
      have hrec := h.receiving r hr
      obtain ⟨b, cur, filled, rest, hb⟩ := hrec.buffers
      have htotal := hrec.total
      obtain ⟨hspace, hbound⟩ := (s.pool.mbuf cur).space.property
      have hread : readSize r.rest.length (s.pool.mbuf cur).space.val
          = min r.rest.length (s.pool.mbuf cur).space.val := readSize_eq (by omega) hbound
      have hpos : 0 < r.rest.length := List.length_pos_of_ne_nil hrec.rest
      rw [if_pos rfl, hb.registered.size] at hcond
      unfold readChunk
      dsimp only
      rw [hb.registered.buffer, hb.registered.size, hread]
      generalize hn : min r.rest.length (s.pool.mbuf cur).space.val = n
      dsimp only
      rw [winc1500SockCb_chunk (s := received cur n r s) hb.curBuf hb.rxBuf (by omega),
        hb.accountChunk_received (by omega)]
      split
      · rename_i hmore
        rw [ne_eq, List.length_eq_zero_iff, List.drop_eq_nil_iff] at hmore
        exact hb.next h hrec (by omega) (by omega) (hcond.resolve_right (by omega))
      · rename_i hlast
        rw [ne_eq, not_not, List.length_eq_zero_iff, List.drop_eq_nil_iff] at hlast
        exact hb.last h hrec (by omega)

/-! ## Polls -/

/-- `winc1500_sock_start_rx` was the last thing done. -/
theorem settled (h : RxInv s) (hset : Settled s s') : RxInv { s' with phase := .idle } where
  sessions := ⟨hset.sessions.unused, hset.sessions.session, hset.sessions.requests⟩
  queues := by
    rw [hset.socks, hset.log]
    exact h.queues.rxOnly hset.rxOnly
  safe := hset.fault.trans h.safe
  idle := fun _ => by
    refine ⟨hset.idle.ready.congr rfl rfl, ?_⟩
    rcases hset.idle.waiting with hnone | ⟨q, hq, hpoll, hawaiting⟩
    · exact .inl (hnone.congr rfl rfl)
    · refine .inr ⟨q, hq.congr rfl rfl, hpoll, ?_⟩
      cases hawaiting with
      | polled hpolling hrx hcur hregistered =>
          exact .polled hpolling hrx hcur ⟨hregistered.buffer, hregistered.size⟩
      | stopped hpolling hrx hflow hpending => exact .stopped hpolling hrx hflow hpending
  notifying := fun _ hphase => by cases hphase
  receiving := fun _ hphase => by cases hphase

theorem settled_idle (h : RxInv s) (hset : Settled s s') (hidle : s.phase = .idle) : RxInv s' := by
  have hinv := h.settled hset
  rwa [← hidle, ← hset.phase] at hinv

theorem resume (h : RxInv s) {idx : Nat} (hphase : s.phase = .notify idx) (io : Io) :
    RxInv { winc1500SockStartRx io idx false s with phase := .idle } := by
  obtain ⟨hready, hwaiting⟩ := h.notifying idx hphase
  refine h.settled (winc1500SockStartRx_settled h.sessions hready io idx ?_)
  rcases hwaiting with hnone | ⟨q, hq, hpoll, hcontinued⟩
  · exact .inl hnone
  · obtain ⟨-, hlt⟩ := h.sessions.requests q hq.outstanding
    refine .inr ⟨q, hq, hpoll, hcontinued.pending, hcontinued.rxBuf, fun _ => ?_⟩
    rw [← hcontinued.sock]
    exact firstPolled_self hlt hpoll

theorem poll (h : RxInv s) (hidle : s.phase = .idle) {io : Io}
    (hcond : s.wss.polling = false → Pool.supplies winc1500SockRxSize io.gets = true →
      ∀ q ∈ s.outstanding, q = s.request q.sock → firstPolled s 0 = some q.sock) :
    RxInv (winc1500SocketPoll io s) := by
  obtain ⟨hready, hwaiting⟩ := h.idle hidle
  unfold winc1500SocketPoll
  split
  · exact h
  · rename_i hpolling
    refine h.settled_idle (winc1500SockStartRx_settled h.sessions hready io 0 ?_) hidle
    rcases hwaiting with hnone | ⟨q, hq, hpoll, hawaiting⟩
    · exact .inl hnone
    · cases hawaiting with
      | polled hset _ _ _ => exact absurd hset hpolling
      | stopped hclear hrx _ hpending =>
          exact .inr ⟨q, hq, hpoll, hpending, hrx,
            fun hgets => hcond hclear hgets q hq.outstanding hq.current⟩

/-! ## Replies -/

/-- The reply to `q` is lost or dropped: the flow is on, so the request that is due, if it is not
`q`, waits with the first mbuf of the chain. -/
theorem dropped (h : RxInv s) (htakes : s.Takes) {q : Request}
    (hphase : s'.phase = .idle) (hsessions : Sessions s') (hpool : s'.pool = s.pool)
    (hwss : s'.wss = s.wss) (hsocks : s'.winc1500Socks = s.winc1500Socks) (hlog : s'.log = s.log)
    (hfault : s'.fault = s.fault) (hrequest : s'.request = s.request)
    (hout : s'.outstanding = s.outstanding.erase q)
    (hbuffers : ∀ i, (s'.gastrSockets i).pu8UserBuffer = (s.gastrSockets i).pu8UserBuffer ∧
      (s'.gastrSockets i).u16UserBufferSize = (s.gastrSockets i).u16UserBufferSize) : RxInv s' where
  sessions := hsessions
  queues := by
    rw [hpool, hsocks, hlog]
    exact h.queues
  safe := hfault.trans h.safe
  idle := fun _ => by
    obtain ⟨hready, hwaiting⟩ := h.idle htakes.1
    refine ⟨hready.congr hpool (congrArg SockState.rxBuf hwss), ?_⟩
    rcases hwaiting with hnone | ⟨q', hq', hpoll, hawaiting⟩
    · exact .inl (hnone.erase hrequest hout)
    · rcases eq_or_ne q q' with rfl | hne
      · exact .inl (hq'.answered hrequest hout)
      · refine .inr ⟨q', hq'.erase hrequest hne hout, by rw [hsocks, hpoll], ?_⟩
        cases hawaiting with
        | polled hpolling hrx hcur hregistered =>
            obtain ⟨hbuffer, hsize⟩ := hbuffers q'.sock
            refine .polled (hwss ▸ hpolling) (hwss ▸ hrx) (hwss ▸ hcur) ⟨?_, ?_⟩
            · rw [hbuffer, hregistered.buffer]
            · rw [hsize, hregistered.size, hpool]
        | stopped _ _ hflow _ => cases htakes.2.symm.trans hflow
  notifying := fun _ hidx => by cases hphase.symm.trans hidx
  receiving := fun _ hr => by cases hphase.symm.trans hr

/-- A reply without data. -/
theorem status (h : RxInv s) (hidle : s.phase = .idle) (hnone : NoneDue s) (io : Io) (i : Nat)
    {code : Int} (hcode : code ≤ 0) : RxInv (winc1500SockCb io i code 0 s) := by
  have hready := (h.idle hidle).ready
  unfold winc1500SockCb
  split
  · exact h.settled_idle (winc1500SockStartRx_settled h.sessions hready io _ (.inl hnone)) hidle
  · rw [if_neg (Int.not_lt.mpr hcode)]
    exact
      { sessions := ⟨h.sessions.unused, h.sessions.session, h.sessions.requests⟩
        queues := h.queues.setSock i rfl
        safe := h.safe
        idle := fun hphase => by cases hphase
        notifying := fun _ _ => ⟨hready.congr rfl rfl, .inl (hnone.congr rfl rfl)⟩
        receiving := fun _ hphase => by cases hphase }

section Answered

variable {q : Request}

/-- Behind the header of a reply. -/
def answered (q : Request) (s : System) : System :=
  System.setSocket { s with outstanding := s.outstanding.erase q } q.sock
    { s.gastrSockets q.sock with bIsRecvPending := false }

theorem answered_sock : (answered q s).gastrSockets q.sock
    = { s.gastrSockets q.sock with bIsRecvPending := false } :=
  System.setSocket_self ..

theorem answered_request : (answered q s).request = s.request := request_setSocket rfl

theorem answered_sessions (h : RxInv s) : Sessions (answered q s) :=
  (h.sessions.erase q).reset rfl rfl fun hzero => by
    rw [hzero]
    rfl

theorem answered_dropped (h : RxInv s) (htakes : s.Takes) : RxInv (answered q s) := by
  refine h.dropped (q := q) htakes htakes.1 h.answered_sessions rfl rfl rfl rfl rfl
    answered_request rfl fun i => ?_
  rcases eq_or_ne i q.sock with rfl | hne
  · rw [answered_sock]
    exact ⟨rfl, rfl⟩
  · rw [answered, System.setSocket_of_ne hne]
    exact ⟨rfl, rfl⟩

/-- The reply to a request of a current session is the one that is due, and it can be received. -/
theorem answered_due (h : RxInv s) (htakes : s.Takes) (hq : q ∈ s.outstanding)
    (hcurrent : q = s.request q.sock) : NoneDue (answered q s) ∧
      (s.winc1500Socks q.sock).wsPoll = true ∧ (s.gastrSockets q.sock).bIsUsed = true ∧
      ∃ b, s.wss.rxBuf = some b ∧ s.wss.curBuf = some b ∧ Registered s q.sock b := by
  rcases (h.idle htakes.1).waiting with hnone | ⟨q', hq', hpoll, hawaiting⟩
  · exact absurd hcurrent (hnone q hq)
  · cases hq'.unique hq hcurrent
    refine ⟨hq'.answered answered_request rfl, hpoll, hq'.used h.sessions, ?_⟩
    cases hawaiting with
    | polled _ hrx hcur hregistered => exact ⟨_, hrx, hcur, hregistered⟩
    | stopped _ _ hflow _ => cases htakes.2.symm.trans hflow

/-- A reply with data begins. -/
theorem data (h : RxInv s) (htakes : s.Takes) (hq : q ∈ s.outstanding)
    (hcurrent : q = s.request q.sock) {bytes : List UInt8} (hwf : (Reply.data bytes).WF) :
    RxInv { answered q s with
      phase := .reading ⟨q.sock, [], bytes⟩
      log := .replied q.sock bytes :: s.log } := by
  obtain ⟨hnone, hpoll, hused, b, hrx, hcur, hregistered⟩ := h.answered_due htakes hq hcurrent
  obtain ⟨l, hl, hroom⟩ := (h.idle htakes.1).ready b hrx
  obtain ⟨rest, rfl⟩ := hl.holds.head
  have hsessions := h.answered_sessions (q := q)
  exact
    { sessions := ⟨hsessions.unused, hsessions.session, hsessions.requests⟩
      queues := h.queues.observe (fun _ => rfl) trivial
      safe := h.safe
      idle := fun hphase => by cases hphase
      notifying := fun _ hphase => by cases hphase
      receiving := by
        intro r hr
        cases hr
        exact
          { buffers :=
              ⟨b, b, [], rest,
                { rxBuf := hrx
                  curBuf := hcur
                  registered := by
                    refine ⟨?_, ?_⟩
                    · exact (congrArg TstrSocket.pu8UserBuffer answered_sock).trans
                        hregistered.buffer
                    · exact (congrArg TstrSocket.u16UserBufferSize answered_sock).trans
                        hregistered.size
                  filling := hl
                  room := hroom.trans_eq (Int.zero_add _).symm
                  first := fun _ => rfl }⟩
            rest := hwf.1
            total := by simpa using hwf.2
            used := (congrArg TstrSocket.bIsUsed answered_sock).trans hused
            sock := (h.sessions.requests q hq).2
            polled := hpoll
            reply := rfl
            request := .inl ⟨hnone.congr rfl rfl,
              congrArg TstrSocket.bIsRecvPending answered_sock⟩ } }

end Answered

theorem reply (h : RxInv s) (htakes : s.Takes) {q : Request} (hq : q ∈ s.outstanding)
    {reply : Reply} (hwf : reply.WF) (io : Io) (ok : Bool) :
    RxInv (m2mIpCb io ok q reply { s with outstanding := s.outstanding.erase q }) := by
  cases ok with
  | false =>
      exact h.dropped htakes (q := q) htakes.1 (h.sessions.erase q) rfl rfl rfl rfl rfl rfl rfl
        fun _ => ⟨rfl, rfl⟩
  | true =>
      have hdropped := h.answered_dropped (q := q) htakes
      unfold m2mIpCb
      rw [if_pos rfl]
      dsimp only
      split
      · rename_i hsession
        have hcurrent : q = s.request q.sock := by
          rw [System.request, ← hsession]
        cases reply with
        | status code =>
            have hnone := (h.answered_due htakes hq hcurrent).1
            exact hdropped.status htakes.1 hnone io q.sock hwf
        | data bytes =>
            dsimp only
            split
            · exact h.data htakes hq hcurrent hwf
            · exact hdropped
      · exact hdropped

end RxInv

/-! ## Runs -/

/-- The reply that is being delivered. -/
def Phase.reading? : Phase → Option Reading
  | .reading r => some r
  | _ => none

/-- What goes wrong otherwise: a new session has an identifier that no request of an earlier one
at its index still carries; a poll that gets a chain while a request is due asks the same socket
again; once a chunk of a reply has been delivered the next ones can be read; and the request of a
continuation is accepted. -/
def Orderly (s : System) : Event → Prop
  | .create type =>
      ∀ i ∈ (socket type s).1, ⟨i, nextSessionID s.gu16SessionID⟩ ∉ s.outstanding
  | .acceptReply _ c => ⟨c, nextSessionID s.gu16SessionID⟩ ∉ s.outstanding
  | .poll io =>
      s.wss.polling = false → Pool.supplies winc1500SockRxSize io.gets = true →
        ∀ q ∈ s.outstanding, q = s.request q.sock → firstPolled s 0 = some q.sock
  | .chunk ok io =>
      ∀ r ∈ s.phase.reading?,
        if ok then io.sent = true ∨ r.rest.length ≤ (s.gastrSockets r.sock).u16UserBufferSize
        else r.done = []
  | _ => True

instance (s : System) (e : Event) : Decidable (Orderly s e) :=
  match e with
  | .create _ => Option.decidableForallMem _
  | .acceptReply _ _ => instDecidableNot
  | .poll _ => instDecidableForall
  | .chunk _ _ => Option.decidableForallMem _
  | .connect _ | .close _ | .recvfrom _ | .bindReply _ | .reply _ _ _ _ | .resume _ =>
      instDecidableTrue

/-- One event keeps the invariant. -/
theorem step_rxInv (s : System) (e : Event) (s' : System) (h : RxInv s) (hcond : Orderly s e)
    (hstep : step s e = some s') : RxInv s' := by
  cases step_cases hstep with
  | create type hcallable => exact h.create hcallable hcond
  | @connect i hcallable =>
      exact h.setSock hcallable i (fun _ => rfl) (.refl _) (h.queues.setSock i rfl)
  | @close i hcallable => exact h.close hcallable i
  | @recvfrom i hcallable => exact h.recvfrom hcallable i
  | @bindReply i htakes =>
      unfold bindReply
      split
      · exact h.setSock htakes.callable i (fun _ => rfl) (.refl _) (h.queues.setSock i rfl)
      · exact h
  | @acceptReply l c htakes => exact h.accept htakes.callable l hcond
  | poll io hidle => exact h.poll hidle hcond
  | reply ok io htakes hq hwf => exact h.reply htakes hq hwf io ok
  | @chunk r ok io hr => exact h.chunk hr (hcond r (hr ▸ rfl))
  | resume io hidx => exact h.resume hidx io

/-- In a run that meets `Orderly` throughout, chunks are written to the mbufs they are accounted
to, packets carry the replies to their sockets, and `recvfrom` returns them in order. -/
theorem received_intact {es : List Event} {s : System} (hcond : Along step Orderly .init es)
    (hrun : run step .init es = some s) : s.fault = false ∧ AllJustified Justified s.log :=
  have h := run_invariant_along step_rxInv RxInv.init hcond hrun
  ⟨h.safe, h.queues.justified⟩

/-- A chain of two mbufs, of which the first has little room. -/
def smallFirst : Io := ⟨[some ⟨2, by decide⟩, some ⟨1498, by decide⟩], true⟩

/-- No mbufs are left. -/
def noMbufs : Io := ⟨[], true⟩

/-- A reply in two chunks, then no mbufs until the next poll, then another reply. -/
def starvedRun : List Event :=
  [.create .stream, .connect 0, .poll smallFirst, .reply ⟨0, 1⟩ (.data [1, 2, 3]) true smallFirst,
    .chunk true smallFirst, .chunk true smallFirst, .recvfrom 0, .resume noMbufs, .poll smallFirst,
    .reply ⟨0, 1⟩ (.data [4]) true smallFirst, .chunk true smallFirst, .recvfrom 0]

theorem received_intact_starvedRun :
    ∃ s, run step .init starvedRun = some s ∧
      s.log.take 2 = [.returned 0 2 [4], .appended 0 2 [4] 1 [1]] ∧
      s.fault = false ∧ AllJustified Justified s.log :=
  ⟨_, rfl, rfl, @received_intact starvedRun _ (by decide +kernel) rfl⟩

/-- The same on socket 1, and a socket with a lower index has been connected in between. -/
def strayRun : List Event :=
  [.create .stream, .create .stream, .connect 1, .poll smallFirst,
    .reply ⟨1, 2⟩ (.data [1, 2, 3]) true smallFirst, .chunk true smallFirst, .chunk true smallFirst,
    .recvfrom 1, .connect 0, .resume noMbufs, .poll smallFirst,
    .reply ⟨1, 2⟩ (.data [4]) true smallFirst, .chunk true smallFirst]

/-- The second reply is written to an mbuf of the application. -/
theorem stray_chunk :
    ∃ s log, run step .init strayRun = some s ∧
      s.log = .appended 1 2 [] 1 [1] :: .chunk 1 .app (some 2) [2, 3] :: log ∧
      ¬ AllJustified Justified s.log := by
  refine ⟨_, _, rfl, rfl, fun h => ?_⟩
  cases h.tail.head.1

end Rx

end Winc1500
