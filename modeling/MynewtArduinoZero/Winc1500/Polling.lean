import MynewtArduinoZero.Lib.Run
import MynewtArduinoZero.Winc1500.SockRx

/-!
# Polling

`polling` says that a reply is to come, and `winc1500_socket_poll` does nothing
while it is set.  `winc1500_sock_start_rx` clears it and sets it where `recvfrom`
succeeds; nothing else does either, so a reply that never reaches
`winc1500_sock_cb` stops reception on every socket.

Closing the socket that is being polled does that: the reply is discarded with
its session, and `polling` stays (`close_leaves_polling`).  So do a request that
could not be sent, which leaves `bIsRecvPending` set, and a reply or first chunk
that cannot be read.  Where these do not happen (`Answered`), the socket that is
polled has a request outstanding whose reply will be dispatched
(`polling_answered`).  A poll is one step here (`Winc1500/Socket.lean`), so that
no socket is closed while one is under way is part of the condition.
-/

namespace Winc1500

open Run

namespace Rx

/-- A reply is to come for the current session of a socket in use, and there is a buffer for
it. -/
structure Live (s : System) (i : Nat) : Prop where
  used : (s.gastrSockets i).bIsUsed = true
  outstanding : s.request i ∈ s.outstanding
  buffer : (s.gastrSockets i).pu8UserBuffer ≠ none
  size : 0 < (s.gastrSockets i).u16UserBufferSize

/-- What the sockets, the requests and `cur_buf` have to do with each other. -/
structure Core (s : System) : Prop where
  unused : ∀ i, (s.gastrSockets i).bIsUsed = false → s.gastrSockets i = .zero
  /-- A pending request is outstanding. -/
  pending : ∀ i, (s.gastrSockets i).bIsUsed = true → (s.gastrSockets i).bIsRecvPending = true →
    s.request i ∈ s.outstanding
  current : s.outstanding ≠ [] → s.wss.curBuf ≠ none

/-- No `winc1500_sock_start_rx` is to come behind what is being handled. -/
def Phase.settled : Phase → Bool
  | .idle => true
  | .reading r => r.done ≠ []
  | .notify _ => false

structure PollInv (s : System) : Prop where
  core : Core s
  polling : s.phase.settled = true → s.wss.polling = true →
    s.gu8FlowCtrl = false ∧ ∃ i, Live s i
  /-- The flow is stopped while there is no chain to receive to. -/
  chain : s.phase = .idle → s.outstanding ≠ [] → s.wss.rxBuf ≠ none ∨ s.gu8FlowCtrl = true
  reading : ∀ r, s.phase = .reading r → s.wss.rxBuf ≠ none ∧ s.wss.curBuf ≠ none ∧
    (s.gastrSockets r.sock).pu8UserBuffer ≠ none

namespace Core

variable {s : System}

theorem setSocket (h : Core s) {i : Nat} {x : TstrSocket} (hunused : x.bIsUsed = false → x = .zero)
    (hpending : x.bIsUsed = true → x.bIsRecvPending = true →
      ⟨i, x.u16SessionID⟩ ∈ s.outstanding) : Core (s.setSocket i x) where
  unused := by
    intro j hj
    rcases eq_or_ne j i with rfl | hne
    · rw [System.setSocket_self] at hj ⊢
      exact hunused hj
    · rw [System.setSocket_of_ne hne] at hj ⊢
      exact h.unused j hj
  pending := by
    intro j hused hj
    rw [System.request]
    rcases eq_or_ne j i with rfl | hne
    · rw [System.setSocket_self] at hused hj ⊢
      exact hpending hused hj
    · rw [System.setSocket_of_ne hne] at hused hj ⊢
      exact h.pending j hused hj
  current := h.current

/-- A `recvfrom` succeeds: `cur_buf` is set, and a request may have been sent. -/
theorem pollTo (h : Core s) (m : Nat) (sent : List Request) :
    Core { s with wss := s.wss.pollTo m, outstanding := s.outstanding ++ sent } where
  unused := h.unused
  pending := fun i hused hi => List.mem_append_left sent (h.pending i hused hi)
  current := fun _ => Option.some_ne_none m

end Core

/-! ## `winc1500_sock_start_rx` -/

/-- What `winc1500_sock_start_rx` comes to where its request is accepted. -/
structure Started (s s' : System) : Prop where
  core : Core s'
  phase : s'.phase = s.phase
  polling : s'.wss.polling = true → s'.gu8FlowCtrl = false ∧ ∃ i, Live s' i
  chain : s'.wss.rxBuf ≠ none ∨ s'.gu8FlowCtrl = true
  rxBuf : s.wss.rxBuf ≠ none → s'.wss.rxBuf ≠ none
  curBuf : s.wss.curBuf ≠ none → s'.wss.curBuf ≠ none
  buffers : ∀ j, (s.gastrSockets j).pu8UserBuffer ≠ none →
    (s'.gastrSockets j).pu8UserBuffer ≠ none

theorem live_registered {s t : System} {i m : Nat} (hlen : u16BufLen (s.pool.mbuf m) ≠ 0)
    (hused : (s.gastrSockets i).bIsUsed = true) (hout : s.request i ∈ t.outstanding) :
    Live (t.setSocket i (registered i m true s)) i where
  used := by
    rw [System.setSocket_self]
    exact hused
  outstanding := by
    rw [System.request, System.setSocket_self]
    exact hout
  buffer := by
    rw [System.setSocket_self]
    exact Option.some_ne_none m
  size := by
    rw [System.setSocket_self]
    exact Nat.pos_of_ne_zero hlen

theorem registered_buffers {s t : System} {i m : Nat} (j : Nat)
    (hj : (t.gastrSockets j).pu8UserBuffer ≠ none) :
    ((t.setSocket i (registered i m true s)).gastrSockets j).pu8UserBuffer ≠ none := by
  rcases eq_or_ne j i with rfl | hne
  · rw [System.setSocket_self]
    exact Option.some_ne_none m
  · rw [System.setSocket_of_ne hne]
    exact hj

theorem requestTo_started {s : System} (h : Core s) (hflow : s.gu8FlowCtrl = false)
    (hpolling : s.wss.polling = false) (hrx : s.wss.rxBuf ≠ none) {sent : Bool}
    (hsent : sent = true) (i m : Nat) : Started s (requestTo sent i m s) := by
  have hcore : ∀ requests, (s.gastrSockets i).bIsUsed = true →
      s.request i ∈ s.outstanding ++ requests →
      Core ({ s with wss := s.wss.pollTo m, outstanding := s.outstanding ++ requests }.setSocket i
        (registered i m true s)) := by
    intro requests hused hout
    exact (h.pollTo m requests).setSocket (fun hfree => by cases hused.symm.trans hfree)
      fun _ _ => hout
  have hstep := requestTo_cases sent i m s
  generalize requestTo sent i m s = t at hstep ⊢
  cases hstep with
  | refused _ =>
      exact
        { core := h
          phase := rfl
          polling := fun hset => by cases hpolling.symm.trans hset
          chain := .inl hrx
          rxBuf := id
          curBuf := id
          buffers := fun _ => id }
  | pending hlen hused hpending =>
      have hout := h.pending i hused hpending
      have hcore := hcore [] hused (List.mem_append_left [] hout)
      rw [List.append_nil] at hcore
      exact
        { core := hcore
          phase := rfl
          polling := fun _ => ⟨hflow, i, live_registered hlen hused hout⟩
          chain := .inl hrx
          rxBuf := id
          curBuf := fun _ => Option.some_ne_none m
          buffers := registered_buffers }
  | sent hlen hused hpending _ =>
      have hout : s.request i ∈ s.outstanding ++ [s.request i] := by simp
      exact
        { core := hcore [s.request i] hused hout
          phase := rfl
          polling := fun _ => ⟨hflow, i, live_registered hlen hused hout⟩
          chain := .inl hrx
          rxBuf := id
          curBuf := fun _ => Option.some_ne_none m
          buffers := registered_buffers }
  | unsent _ _ hunsent => cases hsent.symm.trans hunsent

theorem winc1500SockStartRx_started {s : System} (h : Core s) {io : Io} (hsent : io.sent = true)
    (idx : Nat) (cont : Bool) : Started s (winc1500SockStartRx io idx cont s) := by
  have hstep := winc1500SockStartRx_cases io idx cont s
  obtain ⟨pool, rxBuf, ha, hrx⟩ := allocated_eq io s
  rw [ha] at hstep
  generalize winc1500SockStartRx io idx cont s = t at hstep ⊢
  have hkept : s.wss.rxBuf ≠ none → rxBuf ≠ none := fun hne => (hrx hne).2 ▸ hne
  have hcore : ∀ flow,
      Core
        { s with
          pool := pool
          wss := { s.wss with polling := false, rxBuf := rxBuf }
          gu8FlowCtrl := flow } :=
    fun _ => ⟨h.unused, h.pending, h.current⟩
  cases hstep with
  | flowCtl hnone =>
      exact
        { core := hcore true
          phase := rfl
          polling := fun hset => by cases hset
          chain := .inr rfl
          rxBuf := hkept
          curBuf := id
          buffers := fun _ => id }
  | unpolled hsome _ | noMbuf hsome _ _ _ =>
      exact
        { core := ⟨h.unused, h.pending, h.current⟩
          phase := rfl
          polling := fun hset => by cases hset
          chain := .inl (Option.ne_none_iff_exists'.mpr ⟨_, hsome⟩)
          rxBuf := hkept
          curBuf := id
          buffers := fun _ => id }
  | @request b i m hsome _ _ =>
      have hstarted := requestTo_started (hcore false) rfl rfl
        (Option.ne_none_iff_exists'.mpr ⟨_, hsome⟩) hsent i m
      exact
        { core := hstarted.core
          phase := hstarted.phase
          polling := hstarted.polling
          chain := hstarted.chain
          rxBuf := fun hne => hstarted.rxBuf (hkept hne)
          curBuf := hstarted.curBuf
          buffers := hstarted.buffers }

namespace PollInv

variable {s s' : System}

theorem init : PollInv .init where
  core :=
    { unused := fun _ _ => rfl
      pending := fun _ hused => by cases hused
      current := fun hout => absurd rfl hout }
  polling := fun _ hset => by cases hset
  chain := fun _ hout => absurd rfl hout
  reading := fun _ hphase => by cases hphase

/-- The mbufs, the `mn_socket` layer and the log do not matter. -/
theorem other (h : PollInv s) (pool : Pool) (gu16SessionID : UInt16)
    (winc1500Socks : Nat → Winc1500Sock) (log : List Obs) :
    PollInv
      { s with
        pool := pool
        gu16SessionID := gu16SessionID
        winc1500Socks := winc1500Socks
        log := log } where
  core := ⟨h.core.unused, h.core.pending, h.core.current⟩
  polling := by
    intro hsettled hset
    obtain ⟨hflow, i, hi⟩ := h.polling hsettled hset
    exact ⟨hflow, i, hi.used, hi.outstanding, hi.buffer, hi.size⟩
  chain := h.chain
  reading := h.reading

/-- `winc1500_sock_start_rx` was the last thing done. -/
theorem of_started (h : Started s s') : PollInv { s' with phase := .idle } where
  core := ⟨h.core.unused, h.core.pending, h.core.current⟩
  polling := by
    intro _ hset
    obtain ⟨hflow, i, hi⟩ := h.polling hset
    exact ⟨hflow, i, hi.used, hi.outstanding, hi.buffer, hi.size⟩
  chain := fun _ _ => h.chain
  reading := fun _ hphase => by cases hphase

theorem of_started_idle (h : Started s s') (hidle : s.phase = .idle) : PollInv s' := by
  have hinv := of_started h
  rwa [← hidle, ← h.phase] at hinv

theorem of_started_reading (h : Started s s') {r : Reading} (hr : s.phase = .reading r)
    (hrx : s.wss.rxBuf ≠ none) (hcur : s.wss.curBuf ≠ none)
    (hbuffer : (s.gastrSockets r.sock).pu8UserBuffer ≠ none) : PollInv s' where
  core := h.core
  polling := fun _ => h.polling
  chain := fun hidle => by cases hr.symm.trans (h.phase.symm.trans hidle)
  reading := by
    intro r' hr'
    cases hr.symm.trans (h.phase.symm.trans hr')
    exact ⟨h.rxBuf hrx, h.curBuf hcur, h.buffers _ hbuffer⟩

/-- Behind `mn_socket_readable` everything is set up anew. -/
theorem of_notify (h : Core s) {i : Nat} (hphase : s.phase = .notify i) : PollInv s where
  core := h
  polling := fun hsettled => by
    rw [hphase] at hsettled
    cases hsettled
  chain := fun hidle => by cases hphase.symm.trans hidle
  reading := fun _ hreading => by cases hphase.symm.trans hreading

/-! ### Calls -/

theorem setSocket_live {i j : Nat} (h : Live s j) (hne : j ≠ i) (x : TstrSocket) :
    Live (s.setSocket i x) j where
  used := by
    rw [System.setSocket_of_ne hne]
    exact h.used
  outstanding := by
    rw [System.request, System.setSocket_of_ne hne]
    exact h.outstanding
  buffer := by
    rw [System.setSocket_of_ne hne]
    exact h.buffer
  size := by
    rw [System.setSocket_of_ne hne]
    exact h.size

/-- An index that is not in use gets a session. -/
theorem openSession (h : PollInv s) (hphase : s.phase.callable = true) {i : Nat}
    (hfree : (s.gastrSockets i).bIsUsed = false) {x : TstrSocket}
    (hx : x.bIsRecvPending = false) : PollInv (openSession i x s) where
  core := (h.other _ _ _ _).core.setSocket (fun hunused => by cases hunused)
    fun _ hpending => by cases hx.symm.trans hpending
  polling := by
    intro hsettled hset
    obtain ⟨hflow, j, hj⟩ := (h.other s.pool (nextSessionID s.gu16SessionID) s.winc1500Socks
      s.log).polling hsettled hset
    have hne : j ≠ i := by
      rintro rfl
      cases hfree.symm.trans hj.used
    exact ⟨hflow, j, setSocket_live hj hne _⟩
  chain := h.chain
  reading := fun r hr => by
    rw [show s.phase = .reading r from hr] at hphase
    cases hphase

theorem create (h : PollInv s) (hphase : s.phase.callable = true) (type : SockType) :
    PollInv (winc1500SockCreate type s) := by
  unfold winc1500SockCreate socket
  cases hi : (socketRange type).find? fun i => !(s.gastrSockets i).bIsUsed with
  | none => exact h
  | some i =>
      have hfree : (s.gastrSockets i).bIsUsed = false := by simpa using List.find?_some hi
      exact (h.openSession hphase hfree rfl).other _ _ _ _

theorem accept (h : PollInv s) (hphase : s.phase.callable = true) (l : Nat) {c : Nat}
    (hfree : (s.gastrSockets c).bIsUsed = false) : PollInv (acceptReply l c s) := by
  have hpending : (s.gastrSockets c).bIsRecvPending = false := by
    rw [h.core.unused c hfree]
    rfl
  exact (h.openSession hphase hfree hpending).other _ _ _ _

theorem close (h : PollInv s) (hphase : s.phase.callable = true) {i : Nat}
    (hpolled : s.phase = .idle → s.wss.polling = true → s.request i ∉ s.outstanding) :
    PollInv (winc1500SockClose i s) := by
  have hclose : PollInv (Rx.close i s) := by
    unfold Rx.close
    split
    · exact
        { core := h.core.setSocket (fun _ => rfl) fun hused => by cases hused
          polling := by
            intro hsettled hset
            obtain ⟨hflow, j, hj⟩ := h.polling hsettled hset
            have hidle : s.phase = .idle := by
              cases hp : s.phase with
              | idle => rfl
              | reading r =>
                  rw [hp] at hphase
                  cases hphase
              | notify idx =>
                  rw [show (s.setSocket i .zero).phase = s.phase from rfl, hp] at hsettled
                  cases hsettled
            have hne : j ≠ i := by
              rintro rfl
              exact hpolled hidle hset hj.outstanding
            exact ⟨hflow, j, setSocket_live hj hne _⟩
          chain := h.chain
          reading := fun r hr => by
            rw [show s.phase = .reading r from hr] at hphase
            cases hphase }
    · exact h
  exact hclose.other _ _ _ _

/-! ### Replies -/

/-- The request that has been answered is not the one of another live socket. -/
theorem request_mem_erase {q : Request} {j : Nat} (hj : s.request j ∈ s.outstanding)
    (hne : s.request j ≠ q) : s.request j ∈ s.outstanding.erase q :=
  (List.mem_erase_of_ne hne).mpr hj

theorem outstanding_ne_nil {q : Request} (h : s.outstanding.erase q ≠ []) :
    s.outstanding ≠ [] := by
  intro hnil
  rw [hnil] at h
  exact h rfl

/-- A reply is taken that does not belong to the current session of its socket. -/
theorem stale (h : PollInv s) {q : Request} (hq : q ≠ s.request q.sock) :
    PollInv { s with outstanding := s.outstanding.erase q } := by
  have hother : ∀ j, s.request j ≠ q := by
    rintro j rfl
    exact hq rfl
  exact
    { core :=
        { unused := h.core.unused
          pending := fun j hused hj => request_mem_erase (h.core.pending j hused hj) (hother j)
          current := fun hout => h.core.current (outstanding_ne_nil hout) }
      polling := by
        intro hsettled hset
        obtain ⟨hflow, j, hj⟩ := h.polling hsettled hset
        exact ⟨hflow, j, hj.used, request_mem_erase hj.outstanding (hother j), hj.buffer, hj.size⟩
      chain := fun hidle hout => h.chain hidle (outstanding_ne_nil hout)
      reading := h.reading }

/-- `SOCKET_MSG_RECV` for a reply without data. -/
theorem cb_status (h : Core s) (hidle : s.phase = .idle) {io : Io} (hsent : io.sent = true)
    (i : Nat) {code : Int} (hcode : code ≤ 0) : PollInv (winc1500SockCb io i code 0 s) := by
  unfold winc1500SockCb
  split
  · exact of_started_idle (winc1500SockStartRx_started h hsent _ _) hidle
  · rw [if_neg (Int.not_lt.mpr hcode)]
    exact of_notify ⟨h.unused, h.pending, h.current⟩ rfl

/-- The pending flag of a socket is reset, and its request is no longer outstanding. -/
theorem answer (h : Core s) (q : Request) :
    Core ({ s with outstanding := s.outstanding.erase q }.setSocket q.sock
      { s.gastrSockets q.sock with bIsRecvPending := false }) where
  unused := by
    intro j hj
    rcases eq_or_ne j q.sock with rfl | hne
    · rw [System.setSocket_self] at hj ⊢
      rw [h.unused q.sock hj]
      rfl
    · rw [System.setSocket_of_ne hne] at hj ⊢
      exact h.unused j hj
  pending := by
    intro j hused hj
    rcases eq_or_ne j q.sock with rfl | hne
    · rw [System.setSocket_self] at hj
      cases hj
    · rw [System.setSocket_of_ne hne] at hused hj
      rw [System.request, System.setSocket_of_ne hne]
      exact request_mem_erase (h.pending j hused hj) fun heq => hne (congrArg Request.sock heq)
  current := fun hout => h.current (outstanding_ne_nil hout)

/-- What `m2m_ip_cb` leaves where it calls nothing: sockets are live as before, but for one the
reply was for. -/
theorem dropped (h : PollInv s) {q : Request} (hother : ∀ j, Live s j → s.request j ≠ q) :
    PollInv ({ s with outstanding := s.outstanding.erase q }.setSocket q.sock
      { s.gastrSockets q.sock with bIsRecvPending := false }) where
  core := answer h.core q
  polling := by
    intro hsettled hset
    obtain ⟨hflow, j, hj⟩ := h.polling hsettled hset
    have hout := request_mem_erase hj.outstanding (hother j hj)
    refine ⟨hflow, j, ?_⟩
    rcases eq_or_ne j q.sock with rfl | hne
    · refine { used := ?_, outstanding := ?_, buffer := ?_, size := ?_ }
      · rw [System.setSocket_self]
        exact hj.used
      · rw [System.request, System.setSocket_self]
        exact hout
      · rw [System.setSocket_self]
        exact hj.buffer
      · rw [System.setSocket_self]
        exact hj.size
    · have hlive : Live { s with outstanding := s.outstanding.erase q } j :=
        ⟨hj.used, hout, hj.buffer, hj.size⟩
      exact setSocket_live hlive hne _
  chain := fun hidle hout => h.chain hidle (outstanding_ne_nil hout)
  reading := by
    intro r hr
    obtain ⟨hrx, hcur, hbuffer⟩ := h.reading r hr
    refine ⟨hrx, hcur, ?_⟩
    rcases eq_or_ne r.sock q.sock with heq | hne
    · rw [heq] at hbuffer ⊢
      rw [System.setSocket_self]
      exact hbuffer
    · rw [System.setSocket_of_ne hne]
      exact hbuffer

theorem reply (h : PollInv s) (htakes : s.Takes) {q : Request} (hq : q ∈ s.outstanding)
    {reply : Reply} (hwf : reply.WF) {io : Io} (hsent : io.sent = true) {ok : Bool}
    (hok : ok = true ∨ q ≠ s.request q.sock) :
    PollInv (m2mIpCb io ok q reply { s with outstanding := s.outstanding.erase q }) := by
  obtain ⟨hidle, hflow⟩ := htakes
  unfold m2mIpCb
  cases ok with
  | false => exact h.stale (hok.resolve_left Bool.false_ne_true)
  | true =>
      rw [if_pos rfl]
      dsimp only
      split
      · rename_i hsession
        have hrequest : q = s.request q.sock := by
          rw [System.request, ← hsession]
        cases reply with
        | status code => exact cb_status (answer h.core q) hidle hsent q.sock hwf
        | data bytes =>
            dsimp only
            split
            · rename_i hguard
              have hout : s.outstanding ≠ [] := List.ne_nil_of_mem hq
              have hrx : s.wss.rxBuf ≠ none :=
                (h.chain hidle hout).resolve_right (by rw [hflow]; exact Bool.false_ne_true)
              have hcore := answer h.core q
              exact
                { core := ⟨hcore.unused, hcore.pending, hcore.current⟩
                  polling := fun hsettled => by cases hsettled
                  chain := fun hphase => by cases hphase
                  reading := by
                    intro r hr
                    cases hr
                    refine ⟨hrx, h.core.current hout, ?_⟩
                    have hself := System.setSocket_self
                      (s := { s with outstanding := s.outstanding.erase q }) q.sock
                      { s.gastrSockets q.sock with bIsRecvPending := false }
                    exact fun hnone => hguard.1 ((congrArg TstrSocket.pu8UserBuffer hself).symm.trans
                      hnone) }
            · rename_i hguard
              refine h.dropped fun j hj hjq => hguard ?_
              have hsock : j = q.sock := congrArg Request.sock hjq
              rw [← hsock]
              exact ⟨hj.buffer, hj.size, hj.used⟩
      · rename_i hsession
        refine h.dropped fun j _ hjq => hsession ?_
        rw [← hjq]
        rfl

/-- `SOCKET_MSG_RECV` for a chunk. -/
theorem cb_chunk (h : Core s) {io : Io} (hsent : io.sent = true) (i len remaining : Nat)
    (hrx : s.wss.rxBuf ≠ none) (hcur : s.wss.curBuf ≠ none)
    (hreading : remaining ≠ 0 → ∃ r, s.phase = .reading r ∧
      (s.gastrSockets r.sock).pu8UserBuffer ≠ none) :
    PollInv (winc1500SockCb io i len remaining s) := by
  obtain ⟨cur, hcur⟩ := Option.ne_none_iff_exists'.mp hcur
  obtain ⟨rx, hrx⟩ := Option.ne_none_iff_exists'.mp hrx
  have hlen : ¬ (len : Int) = sockErrTimeout := by
    unfold sockErrTimeout
    omega
  unfold winc1500SockCb
  rw [if_neg hlen]
  split
  · rw [hcur, hrx]
    dsimp only
    have haccounted : Core (accountChunk rx cur (Int.toNat len) s) :=
      ⟨h.unused, h.pending, h.current⟩
    split
    · rename_i hremaining
      obtain ⟨r, hr, hbuffer⟩ := hreading hremaining
      exact of_started_reading (winc1500SockStartRx_started haccounted hsent i true) hr
        (Option.ne_none_iff_exists'.mpr ⟨rx, hrx⟩) (Option.ne_none_iff_exists'.mpr ⟨cur, hcur⟩)
        hbuffer
    · exact of_notify (i := i) ⟨h.unused, h.pending, h.current⟩ rfl
  · exact of_notify (i := i + 1) ⟨h.unused, h.pending, h.current⟩ rfl

theorem chunk (h : PollInv s) {r : Reading} (hr : s.phase = .reading r) {io : Io}
    (hsent : io.sent = true) {ok : Bool} (hok : ok = true ∨ s.phase.settled = true) :
    PollInv (readChunk io ok r s) := by
  obtain ⟨hrx, hcur, hbuffer⟩ := h.reading r hr
  obtain ⟨buf, hbuf⟩ := Option.ne_none_iff_exists'.mp hbuffer
  unfold readChunk
  dsimp only
  generalize readSize r.rest.length (s.gastrSockets r.sock).u16UserBufferSize = u16Read
  rw [hbuf]
  cases ok with
  | false =>
      have hsettled := hok.resolve_left Bool.false_ne_true
      exact
        { core := ⟨h.core.unused, h.core.pending, h.core.current⟩
          polling := by
            intro _ hset
            obtain ⟨hflow, i, hi⟩ := h.polling hsettled hset
            exact ⟨hflow, i, hi.used, hi.outstanding, hi.buffer, hi.size⟩
          chain := fun _ _ => .inl hrx
          reading := fun _ hphase => by cases hphase }
  | true =>
      have hcore : Core (received buf u16Read r s) :=
        ⟨h.core.unused, h.core.pending, h.core.current⟩
      refine cb_chunk hcore hsent r.sock u16Read _ hrx hcur fun hremaining => ?_
      exact ⟨_, if_neg fun hnil => hremaining (by rw [hnil]; rfl), hbuffer⟩

end PollInv

/-! ## The system -/

/-- What goes wrong otherwise: every request is accepted, a reply that is due can be read up to
its first chunk, an accepted connection has an index that is not in use, and a socket is not
closed outside `mn_socket_readable` while it is being polled. -/
def Answered (s : System) : Event → Prop
  | .poll io | .resume io => io.sent = true
  | .reply q _ ok io => io.sent = true ∧ (ok = true ∨ q ≠ s.request q.sock)
  | .chunk ok io => io.sent = true ∧ (ok = true ∨ s.phase.settled = true)
  | .acceptReply _ c => (s.gastrSockets c).bIsUsed = false
  | .close i => s.phase = .idle → s.wss.polling = true → s.request i ∉ s.outstanding
  | _ => True

instance (s : System) (e : Event) : Decidable (Answered s e) := by
  cases e <;> unfold Answered <;> infer_instance

/-- One event keeps the invariant. -/
theorem step_pollInv (s : System) (e : Event) (s' : System) (h : PollInv s) (hcond : Answered s e)
    (hstep : step s e = some s') : PollInv s' := by
  cases step_cases hstep with
  | create type hcallable => exact h.create hcallable type
  | connect => exact h.other _ _ _ _
  | close hcallable => exact h.close hcallable hcond
  | recvfrom =>
      unfold winc1500SockRecvfrom
      dsimp only
      split
      · exact h.other _ _ _ _
      · exact h
  | bindReply =>
      unfold bindReply
      split
      · exact h.other _ _ _ _
      · exact h
  | @acceptReply l c htakes => exact h.accept htakes.callable l hcond
  | poll io hidle =>
      unfold winc1500SocketPoll
      split
      · exact h
      · exact PollInv.of_started_idle (winc1500SockStartRx_started h.core hcond 0 false) hidle
  | reply ok io htakes hq hwf => exact h.reply htakes hq hwf hcond.1 hcond.2
  | chunk ok io hr => exact h.chunk hr hcond.1 hcond.2
  | @resume idx io hidx =>
      exact PollInv.of_started (winc1500SockStartRx_started h.core hcond idx false)

/-- In a run that meets `Answered` throughout, where `polling` is set and no
`winc1500_sock_start_rx` is to come anyway, the flow is on, and a request is outstanding for the
current session of a socket in use, which has a buffer for the reply. -/
theorem polling_answered {es : List Event} {s : System} (hcond : Along step Answered .init es)
    (hrun : run step .init es = some s) (hsettled : s.phase.settled = true)
    (hpolling : s.wss.polling = true) : s.gu8FlowCtrl = false ∧ ∃ i, Live s i :=
  (run_invariant_along step_pollInv PollInv.init hcond hrun).polling hsettled hpolling

/-- Two mbufs are enough. -/
def twoMbufs : Io := ⟨[some ⟨800, by decide⟩, some ⟨800, by decide⟩], true⟩

/-- A reply arrives, and the socket is polled again. -/
def polledRun : List Event :=
  [.create .stream, .connect 0, .poll twoMbufs, .reply ⟨0, 1⟩ (.data [1, 2, 3]) true twoMbufs,
    .chunk true twoMbufs, .recvfrom 0, .resume twoMbufs]

theorem polling_answered_polledRun :
    ∃ s, run step .init polledRun = some s ∧ s.wss.polling = true ∧
      s.gu8FlowCtrl = false ∧ ∃ i, Live s i :=
  ⟨_, rfl, rfl, @polling_answered polledRun _ (by decide +kernel) rfl rfl rfl⟩

/-- The socket that is being polled is closed, and the reply comes. -/
def closeRun : List Event :=
  [.create .stream, .connect 0, .poll twoMbufs, .close 0,
    .reply ⟨0, 1⟩ (.data [1, 2, 3]) true twoMbufs]

/-- Nothing is outstanding any more, and `polling` is set. -/
theorem close_leaves_polling :
    ∃ s, run step .init closeRun = some s ∧ s.phase = .idle ∧ s.wss.polling = true ∧
      s.outstanding = [] :=
  ⟨_, rfl, rfl, rfl, rfl⟩

end Rx

end Winc1500
