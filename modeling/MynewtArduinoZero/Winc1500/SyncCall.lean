import MynewtArduinoZero.Lib.Run
import MynewtArduinoZero.Winc1500.MnSocket

/-!
# Calls that wait for an answer

`winc1500_sock_bind` and `winc1500_sock_listen` send a request and wait for its
answer: `winc1500_sock_wait` sets `ws_waiting`, releases the mutex, pends on
`ws_sem` for a second and takes the mutex again.  The answer arrives as a
message whose callback runs under the mutex and calls `winc1500_sock_wake`,
which stores the error and releases the semaphore if `ws_waiting` is set.

The call is cut where other code can run: while it pends, and between the end of
the pend and the mutex.  Requests are numbered, and every token and every stored
error remembers the message it came with; the code sees none of these marks.

A message that finds `ws_waiting` set but the call no longer pending leaves its
token for the next call (`call_answered_by_earlier_reply`).
-/

namespace Winc1500

open Run

namespace SyncCall

/-! ## The socket -/

/-- What the firmware answers with a message. -/
inductive Origin where
  /-- The BIND or LISTEN request of that number. -/
  | request (q : Nat)
  /-- A receive request. -/
  | receive
deriving DecidableEq, Repr

/-- A message that woke the socket. -/
structure Wake where
  origin : Origin
  err : UInt8
deriving DecidableEq, Repr

/-- The part of `struct winc1500_sock` that the calls use. -/
structure Sock where
  wsWaiting : Bool
  wsErr : UInt8
  /-- The tokens of `ws_sem`, by the messages that released them. -/
  wsSem : List Wake
  /-- The message `ws_err` was stored with. -/
  wsErrFrom : Option Wake
deriving DecidableEq, Repr

/-- `winc1500_sock_wake`. -/
def winc1500SockWake (ws : Sock) (origin : Origin) (err : UInt8) : Sock :=
  if ws.wsWaiting then
    { ws with wsErr := err, wsSem := ws.wsSem ++ [⟨origin, err⟩], wsErrFrom := some ⟨origin, err⟩ }
  else ws

/-! ## The calls -/

/-- Where the calling task is. -/
inductive Phase where
  /-- In no call. -/
  | idle
  /-- In `os_sem_pend`, for the answer to a request. -/
  | pending (q : Nat)
  /-- With a token, before the mutex. -/
  | woken (q : Nat) (token : Wake)
  /-- With `OS_TIMEOUT`, before the mutex. -/
  | timedOut (q : Nat)
deriving DecidableEq, Repr

/-- What made a call return. -/
inductive Cause where
  /-- No request was sent. -/
  | refused
  /-- The wait for the answer to a request expired. -/
  | expired (q : Nat)
  /-- A token, and the message whose error is returned. -/
  | answered (q : Nat) (token : Wake) (err : Option Wake)
deriving DecidableEq, Repr

/-- A call that has returned. -/
structure Return where
  cause : Cause
  code : Int
deriving DecidableEq, Repr

/-- The socket, the task that calls and the firmware. -/
structure System where
  ws : Sock
  phase : Phase
  /-- The requests the firmware has not answered. -/
  outstanding : List Nat
  nextReq : Nat
  returns : List Return
deriving DecidableEq, Repr

/-- The socket after `winc1500_sock_create`. -/
def System.init : System where
  ws := { wsWaiting := false, wsErr := 0, wsSem := [], wsErrFrom := none }
  phase := .idle
  outstanding := []
  nextReq := 0
  returns := []

/-- `bind` and `listen` of the chip driver: the request goes out when the socket is in use
and `hif_send` succeeds. -/
def socketRequest (bIsUsed sent : Bool) : Int :=
  if bIsUsed then if sent then sockErrNoError else sockErrInvalid else sockErrInvalidArg

/-- A call up to the pend, with the return code of the request. -/
def issue (mn : MnSocket) (s : System) (rc : Int) : System :=
  if rc = 0 then
    { s with
      ws := { s.ws with wsWaiting := true }
      phase := .pending s.nextReq
      outstanding := s.nextReq :: s.outstanding
      nextReq := s.nextReq + 1 }
  else { s with returns := ⟨.refused, mn.winc1500ErrToMnErr rc⟩ :: s.returns }

/-- `winc1500_sock_bind` up to the pend. -/
def winc1500SockBind (mn : MnSocket) (s : System) (addr : MnSockaddrIn) (bIsUsed sent : Bool) :
    System :=
  match winc1500MnAddrToAddr mn addr with
  | .error rc => { s with returns := ⟨.refused, rc⟩ :: s.returns }
  | .ok _ => issue mn s (socketRequest bIsUsed sent)

/-- `winc1500_sock_listen` up to the pend. -/
def winc1500SockListen (mn : MnSocket) (s : System) (bIsUsed sent : Bool) : System :=
  issue mn s (socketRequest bIsUsed sent)

/-- `winc1500_sock_wait` behind the mutex, and the return of the call. -/
def winc1500SockWaitEnd (mn : MnSocket) (s : System) : Option System :=
  match s.phase with
  | .timedOut q => some
      { s with
        ws := { s.ws with wsWaiting := false }
        phase := .idle
        returns := ⟨.expired q, mn.etimedout⟩ :: s.returns }
  | .woken q token => some
      { s with
        ws := { s.ws with wsWaiting := false, wsErr := 0, wsErrFrom := none }
        phase := .idle
        returns := ⟨.answered q token s.ws.wsErrFrom,
          mn.winc1500ErrToMnErr s.ws.wsErr.toNat⟩ :: s.returns }
  | _ => none

/-- What can happen next. -/
inductive Event where
  | bind (addr : MnSockaddrIn) (bIsUsed sent : Bool)
  | listen (bIsUsed sent : Bool)
  /-- `os_sem_pend` returns with a token. -/
  | take
  /-- `os_sem_pend` returns `OS_TIMEOUT`. -/
  | expire
  /-- `os_mutex_pend` returns, and with it the call. -/
  | relock
  /-- The firmware answers a request: `SOCKET_MSG_BIND` or `SOCKET_MSG_LISTEN`. -/
  | reply (q : Nat) (status : UInt8)
  /-- The firmware answers a receive request with an error: `SOCKET_MSG_RECV` with a length
  that is not positive. -/
  | recvError (len : UInt8)

/-- One event.  The callbacks and the pieces of a call run under the mutex, so they do not
interleave. -/
def step (mn : MnSocket) (s : System) : Event → Option System
  | .bind addr bIsUsed sent =>
      if s.phase = .idle then some (winc1500SockBind mn s addr bIsUsed sent) else none
  | .listen bIsUsed sent =>
      if s.phase = .idle then some (winc1500SockListen mn s bIsUsed sent) else none
  | .take =>
      match s.phase, s.ws.wsSem with
      | .pending q, token :: rest =>
          some { s with ws := { s.ws with wsSem := rest }, phase := .woken q token }
      | _, _ => none
  | .expire =>
      match s.phase, s.ws.wsSem with
      | .pending q, [] => some { s with phase := .timedOut q }
      | _, _ => none
  | .relock => winc1500SockWaitEnd mn s
  | .reply q status =>
      if q ∈ s.outstanding then
        some { s with
          ws := winc1500SockWake s.ws (.request q) status
          outstanding := s.outstanding.erase q }
      else none
  | .recvError len => some { s with ws := winc1500SockWake s.ws .receive len }

/-! ## Pairing -/

/-- A call that waited and did not time out returned with the answer to its own request. -/
def Return.Paired (mn : MnSocket) (r : Return) : Prop :=
  ∀ q token err, r.cause = .answered q token err →
    token.origin = .request q ∧ err = some token ∧
      r.code = mn.winc1500ErrToMnErr token.err.toNat

/-- A message that finds `ws_waiting` set is the answer to the request of the call, and the
call is still pending. -/
def Prompt (s : System) : Event → Prop
  | .reply q _ => s.ws.wsWaiting = true → s.phase = .pending q
  | .recvError _ => s.ws.wsWaiting = false
  | _ => True

instance (s : System) (e : Event) : Decidable (Prompt s e) := by
  cases e <;> unfold Prompt <;> infer_instance

/-- The flag, the error and the semaphore belong to the call in progress. -/
structure PairInv (mn : MnSocket) (s : System) : Prop where
  waiting : s.ws.wsWaiting = true ↔ s.phase ≠ .idle
  outstanding_lt : ∀ q ∈ s.outstanding, q < s.nextReq
  outstanding_nodup : s.outstanding.Nodup
  err : ∀ token, s.ws.wsErrFrom = some token → s.ws.wsErr = token.err
  token : ∀ token ∈ s.ws.wsSem, ∃ q, s.phase = .pending q ∧ q ∉ s.outstanding ∧
    s.ws.wsSem = [token] ∧ token.origin = .request q ∧ s.ws.wsErrFrom = some token
  woken : ∀ q token, s.phase = .woken q token →
    token.origin = .request q ∧ s.ws.wsErrFrom = some token
  returns : ∀ r ∈ s.returns, r.Paired mn

namespace PairInv

variable {mn : MnSocket} {s : System}

theorem init (mn : MnSocket) : PairInv mn System.init where
  waiting := by decide
  outstanding_lt := by simp [System.init]
  outstanding_nodup := List.nodup_nil
  err := by simp [System.init]
  token := by simp [System.init]
  woken := by simp [System.init]
  returns := by simp [System.init]

/-- Outside the pend there is no token. -/
theorem wsSem_eq_nil (h : PairInv mn s) (hphase : ∀ q, s.phase ≠ .pending q) :
    s.ws.wsSem = [] := by
  refine List.eq_nil_iff_forall_not_mem.mpr fun token htoken => ?_
  obtain ⟨q, hq, -⟩ := h.token token htoken
  exact hphase q hq

theorem refuse (h : PairInv mn s) (code : Int) :
    PairInv mn { s with returns := ⟨.refused, code⟩ :: s.returns } :=
  { h with
    returns := by
      intro r hr
      rcases List.mem_cons.mp hr with rfl | hr
      · intro q token err hcause
        cases hcause
      · exact h.returns r hr }

theorem issue (h : PairInv mn s) (hidle : s.phase = .idle) (rc : Int) :
    PairInv mn (issue mn s rc) := by
  rw [SyncCall.issue]
  split
  · have hsem : s.ws.wsSem = [] := h.wsSem_eq_nil fun q hq => by
      rw [hidle] at hq
      cases hq
    exact
      { waiting := by simp
        outstanding_lt := by
          intro q hq
          rcases List.mem_cons.mp hq with rfl | hq
          · exact Nat.lt_succ_self _
          · exact Nat.lt_succ_of_lt (h.outstanding_lt q hq)
        outstanding_nodup := List.nodup_cons.mpr
          ⟨fun hmem => Nat.lt_irrefl _ (h.outstanding_lt _ hmem), h.outstanding_nodup⟩
        err := h.err
        token := by
          intro token htoken
          rw [hsem] at htoken
          cases htoken
        woken := by
          intro q token hphase
          cases hphase
        returns := h.returns }
  · exact h.refuse _

/-- Taking the token of the pend. -/
theorem take (h : PairInv mn s) {q : Nat} {token : Wake} {rest : List Wake}
    (hphase : s.phase = .pending q) (hsem : s.ws.wsSem = token :: rest) :
    PairInv mn { s with ws := { s.ws with wsSem := rest }, phase := .woken q token } := by
  obtain ⟨q', hq', -, hone, horigin, herr⟩ := h.token token (by rw [hsem]; exact List.mem_cons_self)
  rw [hphase, Phase.pending.injEq] at hq'
  subst hq'
  rw [hsem, List.cons.injEq] at hone
  obtain ⟨-, rfl⟩ := hone
  exact
    { waiting := by simpa [hphase] using h.waiting
      outstanding_lt := h.outstanding_lt
      outstanding_nodup := h.outstanding_nodup
      err := h.err
      token := by simp
      woken := by
        intro q' token' hwoken
        cases hwoken
        exact ⟨horigin, herr⟩
      returns := h.returns }

/-- The pend expires without a token. -/
theorem expire (h : PairInv mn s) {q : Nat} (hphase : s.phase = .pending q)
    (hsem : s.ws.wsSem = []) : PairInv mn { s with phase := .timedOut q } :=
  { waiting := by simpa [hphase] using h.waiting
    outstanding_lt := h.outstanding_lt
    outstanding_nodup := h.outstanding_nodup
    err := h.err
    token := by
      intro token htoken
      rw [hsem] at htoken
      cases htoken
    woken := by
      intro q' token hwoken
      cases hwoken
    returns := h.returns }

/-- The end of a call: what it returns is the answer to its own request. -/
theorem relock (h : PairInv mn s) {t : System} (hstep : winc1500SockWaitEnd mn s = some t) :
    PairInv mn t := by
  unfold winc1500SockWaitEnd at hstep
  split at hstep
  · rename_i q hphase
    cases hstep
    have hsem : s.ws.wsSem = [] := h.wsSem_eq_nil fun q hq => by
      rw [hphase] at hq
      cases hq
    exact
      { waiting := by simp
        outstanding_lt := h.outstanding_lt
        outstanding_nodup := h.outstanding_nodup
        err := h.err
        token := by simp [hsem]
        woken := by simp
        returns := by
          intro r hr
          rcases List.mem_cons.mp hr with rfl | hr
          · intro q token err hcause
            cases hcause
          · exact h.returns r hr }
  · rename_i q token hphase
    cases hstep
    obtain ⟨horigin, herr⟩ := h.woken q token hphase
    have hsem : s.ws.wsSem = [] := h.wsSem_eq_nil fun q hq => by
      rw [hphase] at hq
      cases hq
    exact
      { waiting := by simp
        outstanding_lt := h.outstanding_lt
        outstanding_nodup := h.outstanding_nodup
        err := by simp
        token := by simp [hsem]
        woken := by simp
        returns := by
          intro r hr
          rcases List.mem_cons.mp hr with rfl | hr
          · intro q' token' err' hcause
            cases hcause
            exact ⟨horigin, herr, by rw [h.err token herr]⟩
          · exact h.returns r hr }
  · cases hstep

/-- A prompt answer leaves the one token of the call that pends for it. -/
theorem reply (h : PairInv mn s) {q : Nat} {status : UInt8} (hq : q ∈ s.outstanding)
    (hprompt : s.ws.wsWaiting = true → s.phase = .pending q) :
    PairInv mn { s with
      ws := winc1500SockWake s.ws (.request q) status
      outstanding := s.outstanding.erase q } := by
  have hlt : ∀ q' ∈ s.outstanding.erase q, q' < s.nextReq := fun q' hq' =>
    h.outstanding_lt q' (List.mem_of_mem_erase hq')
  have hnodup := h.outstanding_nodup.erase q
  rw [winc1500SockWake]
  split
  · rename_i hwaiting
    have hphase := hprompt hwaiting
    -- a token is there only when the request has been answered
    have hsem : s.ws.wsSem = [] := by
      refine List.eq_nil_iff_forall_not_mem.mpr fun token htoken => ?_
      obtain ⟨q', hq', hnot, -⟩ := h.token token htoken
      rw [hphase, Phase.pending.injEq] at hq'
      subst hq'
      exact hnot hq
    exact
      { waiting := h.waiting
        outstanding_lt := hlt
        outstanding_nodup := hnodup
        err := by
          intro token htoken
          cases htoken
          rfl
        token := by
          intro token htoken
          rw [hsem, List.nil_append, List.mem_singleton] at htoken
          subst htoken
          exact ⟨q, hphase, h.outstanding_nodup.not_mem_erase, by rw [hsem]; rfl, rfl, rfl⟩
        woken := by
          intro q' token hwoken
          rw [hphase] at hwoken
          cases hwoken
        returns := h.returns }
  · rename_i hwaiting
    exact
      { h with
        outstanding_lt := hlt
        outstanding_nodup := hnodup
        token := by
          intro token htoken
          obtain ⟨q', hq', -⟩ := h.token token htoken
          exact absurd (h.waiting.mpr (by rw [hq']; exact Phase.noConfusion)) hwaiting }

end PairInv

/-- One prompt event keeps the invariant. -/
theorem step_pairInv (mn : MnSocket) (s : System) (e : Event) (t : System) (h : PairInv mn s)
    (hprompt : Prompt s e) (hstep : step mn s e = some t) : PairInv mn t := by
  cases e with
  | bind addr bIsUsed sent =>
      rw [step, Option.ite_none_right_eq_some] at hstep
      obtain ⟨hidle, hbind⟩ := hstep
      cases hbind
      unfold winc1500SockBind
      cases winc1500MnAddrToAddr mn addr with
      | error rc => exact h.refuse rc
      | ok sin => exact h.issue hidle _
  | listen bIsUsed sent =>
      rw [step, Option.ite_none_right_eq_some] at hstep
      obtain ⟨hidle, hlisten⟩ := hstep
      cases hlisten
      exact h.issue hidle _
  | take =>
      rw [step] at hstep
      split at hstep
      · rename_i q token rest hphase hsem
        cases hstep
        exact h.take hphase hsem
      · cases hstep
  | expire =>
      rw [step] at hstep
      split at hstep
      · rename_i q hphase hsem
        cases hstep
        exact h.expire hphase hsem
      · cases hstep
  | relock => exact h.relock hstep
  | reply q status =>
      rw [step, Option.ite_none_right_eq_some] at hstep
      obtain ⟨hq, hreply⟩ := hstep
      cases hreply
      exact h.reply hq hprompt
  | recvError len =>
      have hwake : winc1500SockWake s.ws .receive len = s.ws := by
        rw [winc1500SockWake, show s.ws.wsWaiting = false from hprompt, if_neg Bool.false_ne_true]
      rw [step, hwake] at hstep
      cases hstep
      exact h

/-- In a run in which every message that finds `ws_waiting` set is the answer to the request
of the call that is still pending, every call that does not time out returns with the answer to
its own request. -/
theorem prompt_calls_paired {mn : MnSocket} {es : List Event} {s : System}
    (hprompt : Along (step mn) Prompt System.init es)
    (hrun : run (step mn) System.init es = some s) : ∀ r ∈ s.returns, r.Paired mn :=
  (run_invariant_along (step_pairInv mn) (PairInv.init mn) hprompt hrun).returns

/-- A `bind` that is answered, and a `listen` whose answer comes after the call has returned. -/
def promptRun : List Event :=
  [.bind ⟨8, 4, 80, 0⟩ true true, .reply 0 0, .take, .relock, .listen true true, .expire, .relock,
    .reply 1 0]

theorem prompt_calls_paired_promptRun :
    ∃ s, run (step someMnSocket) System.init promptRun = some s ∧ s.returns.length = 2 ∧
      ∀ r ∈ s.returns, r.Paired someMnSocket :=
  ⟨_, rfl, rfl, @prompt_calls_paired _ promptRun _ (by decide) rfl⟩

/-- A `listen` times out, and its answer arrives before the task has the mutex again. -/
def lateRun : List Event :=
  [.listen true true, .expire, .reply 0 0, .relock, .listen true true, .take, .relock]

/-- The next `listen` returns 0 on the token of the first one's answer, with its own request not
answered. -/
theorem call_answered_by_earlier_reply :
    ∃ s, run (step someMnSocket) System.init lateRun = some s ∧ s.outstanding = [1] ∧
      ∃ r ∈ s.returns, r.code = 0 ∧ ¬ r.Paired someMnSocket := by
  refine ⟨_, rfl, rfl, ⟨.answered 1 ⟨.request 0, 0⟩ (some ⟨.request 0, 0⟩), 0⟩,
    List.mem_cons_self, rfl, fun hpaired => ?_⟩
  obtain ⟨horigin, -, -⟩ := hpaired _ _ _ rfl
  cases horigin

end SyncCall

end Winc1500
