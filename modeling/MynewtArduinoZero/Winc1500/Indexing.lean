import MynewtArduinoZero.Winc1500.Tables

/-!
# Where the indices stay inside

`winc1500_socket_init` numbers the sockets, and nothing changes `ws_idx`
(`Numbered`), so a call of the application and `winc1500_stream_tx` index inside.
`winc1500_sock_start_rx` goes up from an index that is not negative.  What is
left are the numbers of the messages.
-/

namespace Winc1500

namespace Tables

open Checked Run
open Rx (maxSocket SockType nextSessionID)

/-- An index of the tables. -/
def InTable (i : Int) : Prop := 0 ≤ i ∧ i < maxSocket

instance (i : Int) : Decidable (InTable i) := inferInstanceAs (Decidable (_ ∧ _))

/-- Every socket has its own index. -/
def Numbered (s : State) : Prop := ∀ i, (s.winc1500Socks i).wsIdx.toNat = i

theorem Numbered.init : Numbered .init := by
  intro i
  have hlt : i.val < 2 ^ 8 := Nat.lt_trans i.isLt (by decide)
  exact UInt8.toNat_ofNat_of_lt' hlt

/-- The program indexes inside and leaves the sockets numbered. -/
abbrev Safe {α : Type} (x : M α) (s : State) : Prop := Keeps Numbered (fun _ => True) x s

variable {s : State}

theorem safe_get (hs : Numbered s) : Safe get s := ⟨hs, trivial⟩

theorem safe_modify {g : State → State} (hs : Numbered (g s)) : Safe (modify g) s := ⟨hs, trivial⟩

/-! ## Uses of the tables -/

theorem safe_getSocket (hs : Numbered s) {sock : Int} (h : InTable sock) :
    Safe (getSocket sock) s :=
  keeps_bind (keeps_index hs h) fun _ _ _ ht =>
    keeps_bind (safe_get ht) fun _ _ _ ht => keeps_pure ht trivial

theorem safe_setSocket (hs : Numbered s) {sock : Int} (h : InTable sock) (x : TstrSocket) :
    Safe (setSocket sock x) s :=
  keeps_bind (keeps_index hs h) fun _ _ _ ht => safe_modify ht

theorem safe_sockAt (hs : Numbered s) {idx : Int} (h : InTable idx) : Safe (sockAt idx) s :=
  (keeps_index hs h).mono fun _ _ => trivial

theorem keeps_getSock (hs : Numbered s) (ws : Fin maxSocket) :
    Keeps Numbered (fun x => x.wsIdx.toNat = ws.val) (getSock ws) s := ⟨hs, hs ws⟩

theorem safe_getSock (hs : Numbered s) (ws : Fin maxSocket) : Safe (getSock ws) s := ⟨hs, trivial⟩

theorem safe_setSock (hs : Numbered s) (ws : Fin maxSocket) (x : Winc1500Sock) :
    Safe (setSock ws x) s := by
  refine safe_modify ?_
  intro i
  by_cases hi : i = ws
  · subst hi
    dsimp only
    rw [Function.update_self]
    exact hs i
  · dsimp only
    rw [Function.update_of_ne hi]
    exact hs i

theorem inTable_of_numbered {ws : Fin maxSocket} {n : Nat} (h : n = ws.val) : InTable n := by
  have hlt := ws.isLt
  exact ⟨Int.natCast_nonneg n, by omega⟩

/-! ## The application -/

theorem safe_call (hs : Numbered s) (c : Call) : Safe c.run s := by
  refine keeps_bind (keeps_getSock hs c.ws) fun ws _ hws ht => ?_
  have hin := inTable_of_numbered hws
  refine keeps_bind (safe_getSocket ht hin) fun x _ _ ht => ?_
  exact keeps_bind (safe_setSocket ht hin _) fun _ _ _ ht => safe_setSock ht c.ws _

theorem safe_mnSocket (hs : Numbered s) (calls : List Call) : Safe (mnSocket calls) s := by
  induction calls generalizing s with
  | nil => exact keeps_pure hs trivial
  | cons c calls ih => exact keeps_bind (safe_call hs c) fun _ _ _ ht => ih ht

/-! ## Receive requests -/

theorem safe_recvfrom (hs : Numbered s) (sent : Bool) {sock : Int} (h : InTable sock)
    (u16BufLen : UInt16) : Safe (recvfrom sent sock u16BufLen) s := by
  unfold recvfrom
  split
  · refine keeps_bind (safe_getSocket hs h) fun x _ _ ht => ?_
    split
    · dsimp only
      split
      · exact keeps_bind (safe_setSocket ht h _) fun _ _ _ ht => keeps_pure ht trivial
      · exact keeps_bind (safe_setSocket ht h _) fun _ _ _ ht => keeps_pure ht trivial
    · exact keeps_pure ht trivial
  · exact keeps_pure hs trivial

theorem safe_pollLoop (hs : Numbered s) (w : Outcome) {indices : List Int}
    (h : ∀ i ∈ indices, InTable i) : Safe (pollLoop w indices) s := by
  induction indices generalizing s with
  | nil => exact keeps_pure hs trivial
  | cons idx rest ih =>
      have hidx := h idx List.mem_cons_self
      refine keeps_bind (safe_sockAt hs hidx) fun ws _ _ ht => ?_
      refine keeps_bind (safe_getSock ht ws) fun x _ _ ht => ?_
      split
      · exact ih ht fun i hi => h i (List.mem_cons_of_mem _ hi)
      · refine keeps_bind (safe_recvfrom ht _ hidx _) fun rc _ _ ht => ?_
        split
        · exact keeps_bind (safe_modify ht) fun _ _ _ ht => keeps_pure ht trivial
        · exact keeps_pure ht trivial

theorem inTable_of_mem_indicesFrom {idx i : Int} (h0 : 0 ≤ idx) (hi : i ∈ indicesFrom idx) :
    InTable i := by
  obtain ⟨k, hk, rfl⟩ := List.mem_map.mp hi
  rw [List.mem_range] at hk
  exact ⟨by omega, by omega⟩

theorem safe_winc1500SockStartRx (hs : Numbered s) (w : Outcome) {idx : Int} (h0 : 0 ≤ idx) :
    Safe (winc1500SockStartRx w idx) s := by
  refine keeps_bind (safe_modify hs) fun _ _ _ ht => ?_
  refine keeps_bind (safe_get ht) fun x _ _ ht => ?_
  split
  · exact keeps_bind (safe_modify ht) fun _ _ _ ht => keeps_pure ht trivial
  · refine keeps_bind (safe_modify ht) fun _ _ _ ht => ?_
    exact safe_pollLoop ht w fun i hi => inTable_of_mem_indicesFrom h0 hi

/-! ## Sends -/

theorem safe_send (hs : Numbered s) (sent : Bool) {sock : Int} (h : InTable sock) (len : Nat) :
    Safe (send sent sock len) s := by
  unfold send
  split
  · refine keeps_bind (safe_getSocket hs h) fun x _ _ ht => ?_
    split <;> exact keeps_pure ht trivial
  · exact keeps_pure hs trivial

theorem safe_streamTxLoop (hs : Numbered s) (w : Outcome) (ws : Fin maxSocket) (k : Nat)
    (chain : List Nat) : Safe (streamTxLoop w ws k chain) s := by
  induction chain generalizing s k with
  | nil => exact keeps_pure hs trivial
  | cons m n ih =>
      refine keeps_bind (keeps_getSock hs ws) fun x _ hx ht => ?_
      refine keeps_bind (safe_send ht _ (inTable_of_numbered hx) _) fun rc _ _ ht => ?_
      split
      · refine keeps_bind (safe_getSock ht ws) fun y _ _ ht => ?_
        exact keeps_bind (safe_setSock ht ws _) fun _ _ _ ht => ih ht (k + 1)
      · exact keeps_pure ht trivial

theorem safe_winc1500StreamTx (hs : Numbered s) (mn : MnSocket) (w : Outcome)
    (ws : Fin maxSocket) : Safe (winc1500StreamTx mn w ws) s := by
  refine keeps_bind (safe_getSock hs ws) fun x _ _ ht => ?_
  refine keeps_bind (safe_streamTxLoop ht w ws 0 _) fun rc _ _ ht => ?_
  refine keeps_bind (safe_getSock ht ws) fun y _ _ ht => ?_
  split
  · exact safe_mnSocket ht _
  · exact keeps_pure ht trivial

/-! ## Messages -/

/-- The socket that a message names besides its own is one of the table. -/
def SocketMsg.Named : SocketMsg → Prop
  | .accept sock => InTable sock.toInt
  | _ => True

theorem safe_winc1500SockWake (hs : Numbered s) (ws : Fin maxSocket) (err : UInt8) :
    Safe (winc1500SockWake ws err) s := by
  refine keeps_bind (safe_getSock hs ws) fun x _ _ ht => ?_
  split
  · exact safe_setSock ht ws _
  · exact keeps_pure ht trivial

theorem succ_toInt_nonneg {idx : Int8} (h : InTable idx.toInt) : 0 ≤ (idx + 1).toInt := by
  have hlt : idx.toInt < 11 := h.2
  have h0 := h.1
  rw [Int8.toInt_add, Int8.toInt_one, Int.bmod_eq_of_le] <;> omega

/-- `winc1500_sock_cb`, for a number that the assertion lets through only where it is not
negative. -/
theorem safe_winc1500SockCb (hs : Numbered s) (mn : MnSocket) (w : Outcome) {idx : Int8}
    {msg : SocketMsg} (h : idx.toInt < maxSocket → 0 ≤ idx.toInt ∧ msg.Named) :
    Safe (winc1500SockCb mn w idx msg) s := by
  refine keeps_bind (keeps_check hs) fun _ _ hlt ht => ?_
  obtain ⟨h0, hnamed⟩ := h hlt
  have hin : InTable idx.toInt := ⟨h0, hlt⟩
  refine keeps_bind (safe_sockAt ht hin) fun ws _ _ ht => ?_
  cases msg with
  | bind status =>
      refine keeps_bind (safe_winc1500SockWake ht ws _) fun _ _ _ ht => ?_
      refine keeps_bind (safe_getSock ht ws) fun x _ _ ht => ?_
      split
      · exact safe_setSock ht ws _
      · exact keeps_pure ht trivial
  | listen status => exact safe_winc1500SockWake ht ws _
  | accept sock =>
      refine keeps_bind (safe_sockAt ht hnamed) fun newWs _ _ ht => ?_
      refine keeps_bind (safe_getSock ht ws) fun x _ _ ht => ?_
      refine keeps_bind (safe_getSock ht newWs) fun y _ _ ht => ?_
      exact keeps_bind (safe_setSock ht newWs _) fun _ _ _ ht => safe_mnSocket ht _
  | connect s8Error => exact safe_mnSocket ht _
  | recv s16BufferSize u16RemainingSize =>
      dsimp only
      split
      · exact keeps_bind (safe_winc1500SockStartRx ht w (succ_toInt_nonneg hin))
          fun _ _ _ ht => keeps_pure ht trivial
      · split
        · refine keeps_bind (safe_get ht) fun x _ _ ht => ?_
          refine keeps_bind (keeps_check ht) fun _ _ _ ht => ?_
          have hstart : ∀ t, Numbered t →
              Safe (winc1500SockStartRx w idx.toInt >>= fun _ => pure ()) t := fun t ht =>
            keeps_bind (safe_winc1500SockStartRx ht w h0) fun _ _ _ ht => keeps_pure ht trivial
          split
          · refine keeps_bind (safe_modify ht) fun _ _ _ ht => ?_
            exact keeps_bind (safe_mnSocket ht _) fun _ t _ ht => hstart t ht
          · exact hstart _ ht
        · refine keeps_bind (safe_getSock ht ws) fun x _ _ ht => ?_
          refine keeps_bind (safe_setSock ht ws _) fun _ _ _ ht => ?_
          refine keeps_bind (safe_winc1500SockWake ht ws _) fun _ _ _ ht => ?_
          refine keeps_bind (safe_mnSocket ht _) fun _ _ _ ht => ?_
          exact keeps_bind (safe_winc1500SockStartRx ht w (succ_toInt_nonneg hin))
            fun _ _ _ ht => keeps_pure ht trivial
  | send =>
      refine keeps_bind (safe_getSock ht ws) fun x _ _ ht => ?_
      split
      · exact safe_winc1500StreamTx ht mn w ws
      · exact keeps_pure ht trivial
  | sendto => exact keeps_pure ht trivial

theorem safe_readLoop (hs : Numbered s) (mn : MnSocket) {sock : Int8} (h : InTable sock.toInt)
    (chunks : List Chunk) (u16ReadCount : UInt16) :
    Safe (readLoop mn sock chunks u16ReadCount) s := by
  induction chunks generalizing s u16ReadCount with
  | nil => exact keeps_pure hs trivial
  | cons c chunks ih =>
      refine keeps_bind (safe_getSocket hs h) fun x _ _ ht => ?_
      dsimp only
      generalize (if 0 < (u16ReadCount - x.u16UserBufferSize).toInt16 then x.u16UserBufferSize
        else u16ReadCount) = u16Read
      split
      · refine keeps_bind (safe_winc1500SockCb ht mn c.outcome fun _ => ⟨h.1, trivial⟩)
          fun _ _ _ ht => ?_
        split
        · exact ih ht _
        · exact keeps_pure ht trivial
      · exact keeps_pure ht trivial

theorem safe_socketReadSocketData (hs : Numbered s) (mn : MnSocket) {sock : Int8}
    (h : InTable sock.toInt) (chunks : List Chunk) (u16ReadCount : UInt16) :
    Safe (socketReadSocketData mn sock chunks u16ReadCount) s := by
  unfold socketReadSocketData
  split
  · refine keeps_bind (safe_getSocket hs h) fun x _ _ ht => ?_
    split
    · exact safe_readLoop ht mn h chunks _
    · exact keeps_pure ht trivial
  · exact keeps_pure hs trivial

/-- The numbers with which a reply is handled inside the tables. -/
def Reply.Valid : Reply → Prop
  | .bind sock _ | .listen sock _ => 0 ≤ sock.toInt
  | .accept sListenSock sConnectedSock =>
      sConnectedSock.toInt < maxSocket ∧
        (sListenSock.toInt < maxSocket → 0 ≤ sListenSock.toInt ∧ 0 ≤ sConnectedSock.toInt)
  | .connect sock s8Error _ => 0 ≤ sock.toInt ∧ (s8Error = 0 → sock.toInt < maxSocket)
  | .recv sock _ _ | .send sock _ | .sendto sock _ => InTable sock.toInt

instance (r : Reply) : Decidable r.Valid := by
  cases r <;> unfold Reply.Valid <;> infer_instance

/-- `m2m_ip_cb` for a reply that is valid, if it is read. -/
theorem safe_m2mIpCb (hs : Numbered s) (mn : MnSocket) (w : World) {reply : Reply}
    (hvalid : w.received → reply.Valid) : Safe (m2mIpCb mn w reply) s := by
  unfold m2mIpCb
  split
  · rename_i hreceived
    have h := hvalid hreceived
    cases reply with
    | bind sock s8Status => exact safe_winc1500SockCb hs mn _ fun _ => ⟨h, trivial⟩
    | listen sock s8Status => exact safe_winc1500SockCb hs mn _ fun _ => ⟨h, trivial⟩
    | accept sListenSock sConnectedSock =>
        obtain ⟨hlt, hlisten⟩ := h
        have hcb : ∀ t, Numbered t →
            Safe (winc1500SockCb mn w.outcome sListenSock (.accept sConnectedSock)) t :=
          fun t ht => safe_winc1500SockCb ht mn _ fun hl => ⟨(hlisten hl).1, (hlisten hl).2, hlt⟩
        dsimp only
        split
        · rename_i hge
          have hin : InTable sConnectedSock.toInt := ⟨Int8.le_iff_toInt_le.mp hge, hlt⟩
          refine keeps_bind (safe_getSocket hs hin) fun x _ _ ht => ?_
          refine keeps_bind (safe_modify ht) fun _ _ _ ht => ?_
          refine keeps_bind (safe_get ht) fun y _ _ ht => ?_
          exact keeps_bind (safe_setSocket ht hin _) fun _ t _ ht => hcb t ht
        · exact hcb s hs
    | connect sock s8Error u16AppDataOffset =>
        have hcb : ∀ t, Numbered t →
            Safe (winc1500SockCb mn w.outcome sock (.connect s8Error)) t :=
          fun t ht => safe_winc1500SockCb ht mn _ fun _ => ⟨h.1, trivial⟩
        dsimp only
        split
        · rename_i hok
          refine keeps_bind (safe_getSocket hs ⟨h.1, h.2 hok⟩) fun x _ _ ht => ?_
          exact keeps_bind (safe_setSocket ht ⟨h.1, h.2 hok⟩ _) fun _ t _ ht => hcb t ht
        · exact hcb s hs
    | recv sock s16RecvStatus u16SessionID =>
        refine keeps_bind (safe_getSocket hs h) fun x _ _ ht => ?_
        refine keeps_bind (safe_setSocket ht h _) fun _ _ _ ht => ?_
        split
        · split
          · exact safe_socketReadSocketData ht mn h _ _
          · exact safe_winc1500SockCb ht mn _ fun _ => ⟨h.1, trivial⟩
        · exact keeps_pure ht trivial
    | send sock u16SessionID | sendto sock u16SessionID =>
        refine keeps_bind (safe_getSocket hs h) fun x _ _ ht => ?_
        split
        · exact safe_winc1500SockCb ht mn _ fun _ => ⟨h.1, trivial⟩
        · exact keeps_pure ht trivial
  · exact keeps_pure hs trivial

/-! ## Other replies -/

theorem getSocket_outside {sock : Int} (h : ¬ InTable sock) (s : State) :
    getSocket sock s = .error (.outside .gastrSockets sock) :=
  bind_error (index_outside h s)

/-- A negative number passes the assertion. -/
theorem winc1500SockCb_outside {idx : Int8} (h : idx.toInt < 0) (mn : MnSocket) (w : Outcome)
    (msg : SocketMsg) (s : State) :
    winc1500SockCb mn w idx msg s = .error (.outside .winc1500Socks idx.toInt) := by
  have hlt : idx.toInt < maxSocket := Int.lt_trans h (by decide)
  have hcheck : (check (idx.toInt < maxSocket) : M Unit) s = .ok ((), s) := if_pos hlt
  refine (bind_ok hcheck).trans (bind_error (index_outside ?_ s))
  omega

theorem getSocket_inside {sock : Int} (h : InTable sock) (s : State) :
    ∃ x, getSocket sock s = .ok (x, s) :=
  ⟨_, bind_ok (dif_pos h)⟩

theorem setSocket_inside {sock : Int} (h : InTable sock) (x : TstrSocket) (s : State) :
    ∃ t, setSocket sock x s = .ok ((), t) :=
  ⟨_, bind_ok (dif_pos h)⟩

/-- Where the connected socket of an ACCEPT message is not one of the table, the assertion on the
listening socket does not help. -/
theorem winc1500SockCb_accept_outside {idx sock : Int8} (hidx : idx.toInt < maxSocket)
    (hsock : ¬ InTable sock.toInt) (mn : MnSocket) (w : Outcome) (s : State) :
    ∃ table i, winc1500SockCb mn w idx (.accept sock) s = .error (.outside table i) := by
  have hcheck : (check (idx.toInt < maxSocket) : M Unit) s = .ok ((), s) := if_pos hidx
  by_cases hin : InTable idx.toInt
  · have hws : sockAt idx.toInt s = .ok (⟨idx.toInt.toNat, by unfold InTable at hin; omega⟩, s) :=
      dif_pos hin
    exact ⟨_, _, (bind_ok hcheck).trans ((bind_ok hws).trans (bind_error (index_outside hsock s)))⟩
  · exact ⟨_, _, (bind_ok hcheck).trans (bind_error (index_outside hin s))⟩

theorem m2mIpCb_accept_outside (mn : MnSocket) {w : World} (hreceived : w.received)
    {sListenSock sConnectedSock : Int8} (h : ¬ Reply.Valid (.accept sListenSock sConnectedSock)) :
    ∃ table i, m2mIpCb mn w (.accept sListenSock sConnectedSock) s = .error (.outside table i) := by
  unfold m2mIpCb
  rw [if_pos hreceived]
  dsimp only
  split
  · rename_i hge
    have h0 : 0 ≤ sConnectedSock.toInt := Int8.le_iff_toInt_le.mp hge
    by_cases hin : InTable sConnectedSock.toInt
    · have hneg : sListenSock.toInt < 0 := by
        exact Int.not_le.mp fun hl => h ⟨hin.2, fun _ => ⟨hl, h0⟩⟩
      obtain ⟨x, hget⟩ := getSocket_inside hin s
      obtain ⟨t, hset⟩ := setSocket_inside hin
        { x with u8SSLFlags := 0, bIsUsed := true, u16SessionID := nextSessionID s.gu16SessionID }
        { s with gu16SessionID := nextSessionID s.gu16SessionID }
      refine ⟨.winc1500Socks, sListenSock.toInt, (bind_ok hget).trans ?_⟩
      rw [modify_bind, get_bind, bind_ok hset]
      exact winc1500SockCb_outside hneg mn w.outcome (.accept sConnectedSock) t
    · exact ⟨_, _, bind_error (getSocket_outside hin s)⟩
  · rename_i hneg
    have h0 : ¬ 0 ≤ sConnectedSock.toInt := fun h0 => hneg (Int8.le_iff_toInt_le.mpr h0)
    have hlt : sConnectedSock.toInt < maxSocket := Int.lt_trans (Int.not_le.mp h0) (by decide)
    have hlisten : sListenSock.toInt < maxSocket := by
      by_contra hge
      exact h ⟨hlt, fun hl => absurd hl hge⟩
    exact winc1500SockCb_accept_outside hlisten (fun hin => h0 hin.1) mn _ s

/-- What any other reply comes to. -/
theorem m2mIpCb_outside (mn : MnSocket) {w : World} (hreceived : w.received)
    {reply : Reply} (h : ¬ reply.Valid) :
    ∃ table i, m2mIpCb mn w reply s = .error (.outside table i) := by
  cases reply with
  | accept sListenSock sConnectedSock => exact m2mIpCb_accept_outside mn hreceived h
  | bind sock s8Status | listen sock s8Status =>
      unfold m2mIpCb
      rw [if_pos hreceived]
      exact ⟨_, _, winc1500SockCb_outside (Int.not_le.mp h) mn _ _ s⟩
  | recv sock s16RecvStatus u16SessionID | send sock u16SessionID | sendto sock u16SessionID =>
      unfold m2mIpCb
      rw [if_pos hreceived]
      exact ⟨_, _, bind_error (getSocket_outside h s)⟩
  | connect sock s8Error u16AppDataOffset =>
      unfold m2mIpCb
      rw [if_pos hreceived]
      dsimp only
      split
      · rename_i hok
        refine ⟨_, _, bind_error (getSocket_outside (fun hin => h ?_) s)⟩
        exact ⟨hin.1, fun _ => hin.2⟩
      · rename_i herr
        have hneg : sock.toInt < 0 :=
          Int.not_le.mp fun h0 => h ⟨h0, fun hok => absurd hok herr⟩
        exact ⟨_, _, winc1500SockCb_outside hneg mn _ _ s⟩

theorem valid_of_inside {mn : MnSocket} {w : World} {reply : Reply}
    (hin : Inside (m2mIpCb mn w reply) s) (hreceived : w.received) : reply.Valid := by
  by_contra hvalid
  obtain ⟨table, i, hfault⟩ := m2mIpCb_outside mn hreceived hvalid (s := s)
  exact hin table i hfault

/-! ## The system -/

/-- What can happen next. -/
inductive Event where
  /-- A message of the firmware. -/
  | reply (w : World) (reply : Reply)
  /-- `winc1500_socket_poll`. -/
  | poll (w : Outcome)
  /-- The application makes a call. -/
  | call (c : Call)

/-- What an event runs. -/
def Event.prog (mn : MnSocket) : Event → M Unit
  | .reply w r => m2mIpCb mn w r
  | .call c => c.run
  | .poll w => do
      if !(← get).polling then
        let _ ← winc1500SockStartRx w 0

/-- One event.  A fault is the end. -/
def step (mn : MnSocket) (s : State) (e : Event) : Option State :=
  match e.prog mn s with
  | .ok (_, t) => some t
  | .error _ => none

/-- A call of `m2m_ip_cb` indexes inside exactly where the reply is valid, if it is read. -/
theorem m2mIpCb_inside_iff (hs : Numbered s) (mn : MnSocket) (w : World) (reply : Reply) :
    Inside (m2mIpCb mn w reply) s ↔ (w.received → reply.Valid) := by
  constructor
  · exact valid_of_inside
  · intro hvalid
    exact (safe_m2mIpCb hs mn w hvalid).inside

theorem step_numbered (mn : MnSocket) (s : State) (e : Event) (t : State) (hs : Numbered s)
    (hstep : step mn s e = some t) : Numbered t := by
  have hok : e.prog mn s = .ok ((), t) := by
    unfold step at hstep
    split at hstep
    · rename_i heq
      cases hstep
      exact heq
    · cases hstep
  cases e with
  | reply w reply =>
      have hrun : m2mIpCb mn w reply s = .ok ((), t) := hok
      exact ((safe_m2mIpCb hs mn w (valid_of_inside (inside_of_ok hrun))).ok hrun).1
  | poll w =>
      have hpoll : Safe (Event.prog mn (.poll w)) s := by
        refine keeps_bind (safe_get hs) fun x _ _ ht => ?_
        split
        · exact keeps_bind (safe_winc1500SockStartRx ht w (Int.le_refl 0))
            fun _ _ _ ht => keeps_pure ht trivial
        · exact keeps_pure ht trivial
      exact (hpoll.ok hok).1
  | call c =>
      have hrun : c.run s = .ok ((), t) := hok
      exact ((safe_call hs c).ok hrun).1

/-- In every state of a run of messages, polls and calls of the application, and for every reply:
`m2m_ip_cb` and `winc1500_sock_cb` use an entry outside `gastrSockets` or `winc1500_socks` exactly
where the reply is read and is not valid. -/
theorem tables_inside_iff (mn : MnSocket) {es : List Event} {s : State}
    (hrun : run (step mn) .init es = some s) (w : World) (reply : Reply) :
    Inside (m2mIpCb mn w reply) s ↔ (w.received → reply.Valid) :=
  m2mIpCb_inside_iff (run_invariant (step_numbered mn) .init hrun) mn w reply

/-- A reply that is read, while the application calls nothing. -/
def someWorld : World where
  received := true
  u16BufferSize := 16
  u16RemainingSize := 0
  outcome := ⟨[], true, 100, fun _ => true⟩
  chunks := []

/-- Socket 0 is polled, and accepts a connection on socket 1. -/
def acceptRun : List Event := [.reply someWorld (.accept 0 1), .poll someWorld.outcome]

theorem tables_inside_acceptRun :
    ∃ s, run (step someMnSocket) .init acceptRun = some s ∧ s.polling = true ∧
      Inside (m2mIpCb someMnSocket someWorld (.recv 1 (-13) 1)) s := by
  have hreach : ∃ s, run (step someMnSocket) .init acceptRun = some s ∧ s.polling = true :=
    ⟨_, rfl, rfl⟩
  obtain ⟨s, hrun, hpolling⟩ := hreach
  exact ⟨s, hrun, hpolling, (tables_inside_iff someMnSocket hrun someWorld _).mpr fun _ => by decide⟩

/-- A failed accept, a failed bind and data for a socket there is not. -/
theorem tables_outside_failedAccept :
    m2mIpCb someMnSocket someWorld (.accept 0 (-1)) .init = .error (.outside .winc1500Socks (-1)) ∧
      m2mIpCb someMnSocket someWorld (.bind (-1) 0) .init = .error (.outside .winc1500Socks (-1)) ∧
      m2mIpCb someMnSocket someWorld (.recv 11 5 0) .init = .error (.outside .gastrSockets 11) :=
  ⟨rfl, rfl, rfl⟩

end Tables

end Winc1500
