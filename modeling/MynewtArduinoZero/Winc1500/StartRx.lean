import MynewtArduinoZero.Winc1500.Requests
import MynewtArduinoZero.Winc1500.RxChain

/-!
# Starting to receive

What `winc1500_sock_start_rx` comes to.  Behind a reply and behind a poll, the request
that is due, if any, has the first mbuf of the chain for its buffer, or the flow is
stopped until there is a chain (`winc1500SockStartRx_settled`).  For a continuation,
the next mbuf of the chain is registered (`winc1500SockStartRx_requested`).
-/

namespace Winc1500

namespace Rx

/-! ## The chain at `rx_buf` -/

/-- The chain at `rx_buf`, where there is one, is empty and has room for any reply. -/
def RxReady (s : System) : Prop :=
  ∀ b, s.wss.rxBuf = some b →
    ∃ l, s.pool.Filling b [] l [] ∧ winc1500SockRxSize ≤ s.pool.room l

/-- The buffer registered for a socket is an mbuf with all its room. -/
structure Registered (s : System) (i m : Nat) : Prop where
  buffer : (s.gastrSockets i).pu8UserBuffer = some m
  size : (s.gastrSockets i).u16UserBufferSize = (s.pool.mbuf m).space.val

section Chain

variable {s s' : System} {io : Io}

theorem u16BufLen_of_blank {m : Mbuf} (h : m.omLen = 0) : u16BufLen m = m.space.val := by
  obtain ⟨-, hspace⟩ := m.space.property
  unfold u16BufLen Mbuf.trailingSpace
  omega

theorem RxReady.congr (h : RxReady s) (hpool : s'.pool = s.pool)
    (hrx : s'.wss.rxBuf = s.wss.rxBuf) : RxReady s' := by
  intro b hb
  rw [hpool]
  exact h b (hrx ▸ hb)

theorem rxReady_of_none (h : s.wss.rxBuf = none) : RxReady s :=
  fun _ hb => by cases h.symm.trans hb

/-- What becomes of the chain that is allocated. -/
theorem allocated_spec (h : RxReady s) (io : Io) :
    RxReady (allocated io s) ∧ Pool.RxOnly s.pool (allocated io s).pool := by
  unfold allocated getRxBuf
  dsimp only
  split
  · exact ⟨h.congr rfl rfl, .refl _⟩
  · exact ⟨h.congr rfl rfl, .refl _⟩
  · exact ⟨h.congr rfl rfl, .refl _⟩
  · rename_i space gets hnone _
    obtain ⟨l, hl, honly, hroom⟩ := Pool.grow_spec gets (l := [])
      (winc1500SockRxSize - space.val) (Pool.blankChain_osMsysGet s.pool space)
    have honly := (Pool.Only.osMsysGet s.pool space).trans honly
    split
    · rename_i hgot
      have hroom := hroom hgot
      refine ⟨?_, honly⟩
      intro b hb
      cases hb
      refine ⟨l, hl.filling, ?_⟩
      rw [List.nil_append, Pool.room_singleton, Pool.osMsysGet_fresh] at hroom
      dsimp only at hroom ⊢
      omega
    · refine ⟨rxReady_of_none hnone, ?_⟩
      rw [Pool.osMbufFreeChain, hl.holds.chainFrom]
      exact honly.trans (Pool.Only.give hl.holds.owner _)

end Chain

/-! ## Between messages -/

/-- How the request that is due stands between messages: its reply goes to the first mbuf of the
chain, or the flow is stopped until there is a chain. -/
inductive Awaiting (s : System) (q : Request) : Prop where
  | polled {b : Nat} : s.wss.polling = true → s.wss.rxBuf = some b → s.wss.curBuf = some b →
      Registered s q.sock b → Awaiting s q
  | stopped : s.wss.polling = false → s.wss.rxBuf = none → s.gu8FlowCtrl = true →
      (s.gastrSockets q.sock).bIsRecvPending = true → Awaiting s q

/-- How it stands in `mn_socket_readable`: it was sent with a continuation. -/
structure Continued (idx : Nat) (s : System) (q : Request) : Prop where
  sock : q.sock = idx
  pending : (s.gastrSockets q.sock).bIsRecvPending = true
  rxBuf : s.wss.rxBuf = none

/-- No request is due, or one of a socket that is polled, for which `X` holds. -/
def Waiting (X : System → Request → Prop) (s : System) : Prop :=
  NoneDue s ∨ ∃ q, Due s q ∧ (s.winc1500Socks q.sock).wsPoll = true ∧ X s q

structure Idle (s : System) : Prop where
  ready : RxReady s
  waiting : Waiting Awaiting s

structure Notifying (idx : Nat) (s : System) : Prop where
  ready : RxReady s
  waiting : Waiting (Continued idx) s

/-- What `winc1500_sock_start_rx` comes to. -/
structure Settled (s s' : System) : Prop where
  sessions : Sessions s'
  idle : Idle s'
  rxOnly : Pool.RxOnly s.pool s'.pool
  socks : s'.winc1500Socks = s.winc1500Socks
  log : s'.log = s.log
  fault : s'.fault = s.fault
  phase : s'.phase = s.phase

section StartRx

variable {s s' : System}

/-- A request for the first mbuf of the chain. -/
theorem requestTo_settled (hs : Sessions s) (hready : RxReady s)
    {b i : Nat} (hrx : s.wss.rxBuf = some b) (hi : i < maxSocket)
    (hpoll : (s.winc1500Socks i).wsPoll = true)
    (hdue : NoneDue s ∨ ∃ q, q.sock = i ∧ Due s q ∧ (s.gastrSockets i).bIsRecvPending = true)
    (sent : Bool) : Settled s (requestTo sent i b s) := by
  obtain ⟨l, hl, hroom⟩ := hready b hrx
  obtain ⟨rest, rfl⟩ := hl.holds.head
  have hlen := u16BufLen_of_blank (hl.blank b List.mem_cons_self)
  have hregistered : ∀ t : System, t.pool = s.pool →
      Registered (t.setSocket i (registered i b true s)) i b := by
    intro t ht
    refine { buffer := ?_, size := ?_ }
    · rw [System.setSocket_self]
      rfl
    · rw [System.setSocket_self, System.setSocket, ht]
      exact hlen
  have hstep := requestTo_cases sent i b s
  generalize requestTo sent i b s = t at hstep ⊢
  cases hstep with
  | refused hrefused =>
      rcases hdue with hnone | ⟨q, rfl, hq, -⟩
      · exact ⟨hs, ⟨hready, .inl hnone⟩, .refl _, rfl, rfl, rfl, rfl⟩
      · refine absurd ⟨?_, hq.used hs⟩ hrefused
        obtain ⟨hpos, -⟩ := (s.pool.mbuf b).space.property
        omega
  | pending _ hused _ =>
      have hrequest := request_setSocket (s := { s with wss := s.wss.pollTo b }) (i := i)
        (x := registered i b true s) rfl
      have hpollTo : Sessions { s with wss := s.wss.pollTo b } :=
        ⟨hs.unused, hs.session, hs.requests⟩
      refine ⟨hs.register hpollTo hused b, ⟨hready, ?_⟩, .refl _, rfl, rfl, rfl, rfl⟩
      · rcases hdue with hnone | ⟨q, rfl, hq, -⟩
        · exact .inl (hnone.congr hrequest rfl)
        · exact .inr ⟨q, hq.congr hrequest rfl, hpoll, .polled rfl hrx rfl (hregistered _ rfl)⟩
  | sent _ hused hpending _ =>
      have hnone : NoneDue s := by
        rcases hdue with hnone | ⟨q, -, -, hset⟩
        · exact hnone
        · cases hpending.symm.trans hset
      have hrequest := request_setSocket (i := i) (x := registered i b true s)
        (s := { s with wss := s.wss.pollTo b, outstanding := s.outstanding ++ [s.request i] }) rfl
      refine ⟨hs.register (hs.send hused hi _) hused b,
        ⟨hready, .inr ⟨s.request i, ?_, hpoll, ?_⟩⟩, .refl _, rfl, rfl, rfl, rfl⟩
      · exact hnone.sent hrequest rfl
      · exact .polled rfl hrx rfl (hregistered _ rfl)
  | unsent hused hpending _ =>
      have hnone : NoneDue s := by
        rcases hdue with hnone | ⟨q, -, -, hset⟩
        · exact hnone
        · cases hpending.symm.trans hset
      have hrequest := request_setSocket (s := s) (i := i) (x := registered i b true s) rfl
      exact ⟨hs.register hs hused b, ⟨hready, .inl (hnone.congr hrequest rfl)⟩, .refl _, rfl, rfl,
        rfl, rfl⟩

/-- `winc1500_sock_start_rx` behind a reply or a poll.  A request that is due must be one that
waits for a chain, and its socket the next one to be polled if there is a chain. -/
theorem winc1500SockStartRx_settled (hs : Sessions s) (hready : RxReady s) (io : Io) (idx : Nat)
    (hdue : NoneDue s ∨ ∃ q, Due s q ∧ (s.winc1500Socks q.sock).wsPoll = true ∧
      (s.gastrSockets q.sock).bIsRecvPending = true ∧ s.wss.rxBuf = none ∧
      (Pool.supplies winc1500SockRxSize io.gets = true → firstPolled s idx = some q.sock)) :
    Settled s (winc1500SockStartRx io idx false s) := by
  have hstep := winc1500SockStartRx_cases io idx false s
  obtain ⟨hchain, honly⟩ := allocated_spec hready io
  have hnochain := allocated_none io (s := s)
  obtain ⟨pool, rxBuf, ha, -⟩ := allocated_eq io s
  rw [ha] at hstep hchain honly hnochain
  generalize winc1500SockStartRx io idx false s = t at hstep ⊢
  have hsessions : ∀ flow wss pool,
      Sessions { s with pool := pool, wss := wss, gu8FlowCtrl := flow } :=
    fun _ _ _ => ⟨hs.unused, hs.session, hs.requests⟩
  cases hstep with
  | flowCtl hnone =>
      refine ⟨hsessions _ _ _, ⟨hchain, ?_⟩, honly, rfl, rfl, rfl, rfl⟩
      rcases hdue with hnone | ⟨q, hq, hpoll, hpending, -, -⟩
      · exact .inl (hnone.congr rfl rfl)
      · exact .inr ⟨q, hq.congr rfl rfl, hpoll, .stopped rfl hnone rfl hpending⟩
  | @unpolled b hsome hunpolled =>
      refine ⟨hsessions _ _ _, ⟨hchain, ?_⟩, honly, rfl, rfl, rfl, rfl⟩
      rcases hdue with hnone | ⟨q, hq, hpoll, hpending, hrx, hfirst⟩
      · exact .inl (hnone.congr rfl rfl)
      · cases hgets : Pool.supplies winc1500SockRxSize io.gets with
        | true => cases (hfirst hgets).symm.trans hunpolled
        | false => cases hsome.symm.trans (hnochain hrx hgets)
  | noMbuf _ _ hcont _ => cases hcont
  | @request b i m hsome hi hm =>
      cases hm
      obtain ⟨hlt, hpolled⟩ := firstPolled_eq_some hi
      have hsettled := requestTo_settled (s := { s with
          pool := pool
          wss := { s.wss with polling := false, rxBuf := rxBuf }
          gu8FlowCtrl := false }) (hsessions _ _ _) hchain hsome hlt hpolled ?_ io.sent
      · exact
          { sessions := hsettled.sessions
            idle := hsettled.idle
            rxOnly := honly.trans hsettled.rxOnly
            socks := hsettled.socks
            log := hsettled.log
            fault := hsettled.fault
            phase := hsettled.phase }
      · rcases hdue with hnone | ⟨q, hq, hpoll, hpending, hrx, hfirst⟩
        · exact .inl (hnone.congr rfl rfl)
        · cases hgets : Pool.supplies winc1500SockRxSize io.gets with
          | true =>
              have hqi : q.sock = i := Option.some.inj ((hfirst hgets).symm.trans hi)
              exact .inr ⟨q, hqi, hq.congr rfl rfl, hqi ▸ hpending⟩
          | false => cases hsome.symm.trans (hnochain hrx hgets)

end StartRx

/-! ## Continuations -/

/-- The request of a continuation has been accepted. -/
structure Requested (i m : Nat) (s s' : System) : Prop where
  sessions : Sessions s'
  due : Due s' (s'.request i)
  pending : (s'.gastrSockets i).bIsRecvPending = true
  used : (s'.gastrSockets i).bIsUsed = true
  registered : s'.gastrSockets i = registered i m true s
  wss : s'.wss = s.wss.pollTo m
  pool : s'.pool = s.pool
  socks : s'.winc1500Socks = s.winc1500Socks
  log : s'.log = s.log
  fault : s'.fault = s.fault
  phase : s'.phase = s.phase

theorem requestTo_requested {s : System} {i m : Nat} (hs : Sessions s) (hi : i < maxSocket)
    (hused : (s.gastrSockets i).bIsUsed = true) (hlen : u16BufLen (s.pool.mbuf m) ≠ 0)
    (hdue : NoneDue s ∧ (s.gastrSockets i).bIsRecvPending = false ∨
      Due s (s.request i) ∧ (s.gastrSockets i).bIsRecvPending = true) :
    Requested i m s (requestTo true i m s) := by
  have hstep := requestTo_cases true i m s
  generalize requestTo true i m s = t at hstep ⊢
  cases hstep with
  | refused hrefused => exact absurd ⟨hlen, hused⟩ hrefused
  | pending _ _ hpending =>
      have hrequest := request_setSocket (s := { s with wss := s.wss.pollTo m }) (i := i)
        (x := registered i m true s) rfl
      have hpollTo : Sessions { s with wss := s.wss.pollTo m } :=
        ⟨hs.unused, hs.session, hs.requests⟩
      have hdue : Due s (s.request i) := by
        rcases hdue with ⟨-, hclear⟩ | ⟨hdue, -⟩
        · cases hpending.symm.trans hclear
        · exact hdue
      have hself := System.setSocket_self (s := { s with wss := s.wss.pollTo m }) i
        (registered i m true s)
      refine ⟨hs.register hpollTo hused m, ?_, ?_, ?_, hself, rfl, rfl, rfl, rfl, rfl, rfl⟩
      · rw [hrequest]
        exact hdue.congr hrequest rfl
      · rw [hself]
        rfl
      · rw [hself]
        exact hused
  | sent _ _ hpending _ =>
      have hrequest := request_setSocket (i := i) (x := registered i m true s)
        (s := { s with wss := s.wss.pollTo m, outstanding := s.outstanding ++ [s.request i] }) rfl
      have hnone : NoneDue s := by
        rcases hdue with ⟨hnone, -⟩ | ⟨-, hset⟩
        · exact hnone
        · cases hpending.symm.trans hset
      have hself := System.setSocket_self i (registered i m true s)
        (s := { s with wss := s.wss.pollTo m, outstanding := s.outstanding ++ [s.request i] })
      refine ⟨hs.register (hs.send hused hi _) hused m, ?_, ?_, ?_, hself, rfl, rfl, rfl, rfl, rfl,
        rfl⟩
      · rw [hrequest]
        exact hnone.sent hrequest rfl
      · rw [hself]
        rfl
      · rw [hself]
        exact hused
  | unsent _ _ hunsent => cases hunsent

/-- `winc1500_sock_start_rx` for a continuation. -/
theorem winc1500SockStartRx_requested {s : System} {i b cur m : Nat} (hs : Sessions s)
    (hi : i < maxSocket) (hpoll : (s.winc1500Socks i).wsPoll = true)
    (hused : (s.gastrSockets i).bIsUsed = true) (hrx : s.wss.rxBuf = some b)
    (hcur : s.wss.curBuf = some cur) (hnext : s.pool.next cur = some m)
    (hlen : u16BufLen (s.pool.mbuf m) ≠ 0)
    (hdue : NoneDue s ∧ (s.gastrSockets i).bIsRecvPending = false ∨
      Due s (s.request i) ∧ (s.gastrSockets i).bIsRecvPending = true)
    {io : Io} (hsent : io.sent = true) : Requested i m s (winc1500SockStartRx io i true s) := by
  have hfirst := firstPolled_self hi hpoll
  have hstep := winc1500SockStartRx_cases io i true s
  rw [allocated_of_some hrx] at hstep
  generalize winc1500SockStartRx io i true s = t at hstep ⊢
  cases hstep with
  | flowCtl hnone => cases hrx.symm.trans hnone
  | unpolled _ hunpolled => cases hfirst.symm.trans hunpolled
  | noMbuf _ _ _ hlast =>
      rw [hcur] at hlast
      cases hnext.symm.trans hlast
  | @request _ j m' _ hj hm =>
      cases hfirst.symm.trans hj
      rw [if_pos rfl, hcur] at hm
      cases hnext.symm.trans hm
      have hrequested := requestTo_requested (m := m) (s := { s with
          wss := { s.wss with polling := false }
          gu8FlowCtrl := false }) ⟨hs.unused, hs.session, hs.requests⟩ hi hused hlen
        (hdue.imp (fun h => ⟨h.1.congr rfl rfl, h.2⟩) fun h => ⟨h.1.congr rfl rfl, h.2⟩)
      rw [hsent]
      exact
        { sessions := hrequested.sessions
          due := hrequested.due
          pending := hrequested.pending
          used := hrequested.used
          registered := hrequested.registered
          wss := hrequested.wss
          pool := hrequested.pool
          socks := hrequested.socks
          log := hrequested.log
          fault := hrequested.fault
          phase := hrequested.phase }

end Rx

end Winc1500
