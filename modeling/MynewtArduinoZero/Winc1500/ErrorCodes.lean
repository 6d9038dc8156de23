import Mathlib.Tactic.Common
import MynewtArduinoZero.Winc1500.SyncCall

/-!
# The way of a status

The firmware reports a status with its answer to a bind, a listen or a connect
request, and in place of the length of received data.  The callback hands the
last two on as they are.  The first two go through `ws_err`, an unsigned byte,
so the call that waits translates a number that is not negative, and only the
success is among the codes that it knows.
-/

namespace Winc1500

namespace ErrorCodes

open SyncCall (System)

/-! ## Runs -/

/-- A status that has come to the application, and the error it came as. -/
structure Seen where
  status : Int
  code : Int
deriving DecidableEq

/-- The calls that wait, the status of the answer to the one in progress if the answer has come
while it pended, and what the application has seen. -/
structure Paths where
  sync : System
  answer : Option Int8
  seen : List Seen
deriving DecidableEq

def Paths.init : Paths := ⟨System.init, none, []⟩

inductive Event where
  | bind (addr : MnSockaddrIn) (bIsUsed sent : Bool)
  | listen (bIsUsed sent : Bool)
  | take
  | expire
  | relock
  /-- `SOCKET_MSG_BIND` or `SOCKET_MSG_LISTEN`. -/
  | reply (q : Nat) (status : Int8)
  /-- `SOCKET_MSG_CONNECT`. -/
  | connected (s8Error : Int8)
  /-- `SOCKET_MSG_RECV` with a length that is a status. -/
  | received (len : Int16)

/-- A call begins, and no answer has come. -/
def Paths.calling (s : Paths) (sync : System) : Paths := { s with sync := sync, answer := none }

/-- A call returns, with its answer if one has come. -/
def Paths.returned (s : Paths) (sync : System) : Paths :=
  { sync := sync
    answer := none
    seen := (s.answer.bind fun status => sync.returns.head?.map fun r =>
      ⟨status.toInt, r.code⟩).toList ++ s.seen }

/-- One event.  The status of a bind or a listen becomes an `uint8_t`, that of a connect an `int`,
and that of received data both. -/
def step (mn : MnSocket) (s : Paths) : Event → Option Paths
  | .bind addr bIsUsed sent => (SyncCall.step mn s.sync (.bind addr bIsUsed sent)).map s.calling
  | .listen bIsUsed sent => (SyncCall.step mn s.sync (.listen bIsUsed sent)).map s.calling
  | .take => (SyncCall.step mn s.sync .take).map fun sync => { s with sync := sync }
  | .expire => (SyncCall.step mn s.sync .expire).map fun sync => { s with sync := sync }
  | .relock => (SyncCall.step mn s.sync .relock).map s.returned
  | .reply q status =>
      (SyncCall.step mn s.sync (.reply q status.toUInt8)).map fun sync =>
        { s with
          sync := sync
          answer := if s.sync.phase = .pending q then some status else s.answer }
  | .connected s8Error =>
      some { s with
        seen := ⟨s8Error.toInt, mn.winc1500ErrToMnErr s8Error.toInt⟩ :: s.seen }
  | .received len =>
      if len.toInt ≤ 0 ∧ len.toInt ≠ sockErrTimeout then
        (SyncCall.step mn s.sync (.recvError len.toUInt16.toUInt8)).map fun sync =>
          { s with
            sync := sync
            seen := ⟨len.toInt, mn.winc1500ErrToMnErr len.toInt⟩ :: s.seen }
      else none

/-- Every status comes as its translation, and a success is not taken for an error nor an error for
a success. -/
structure Kept (mn : MnSocket) (s : Paths) : Prop where
  code : ∀ r ∈ s.seen, r.code = mn.winc1500ErrToMnErr r.status
  success : ∀ r ∈ s.seen, r.code = 0 ↔ r.status = 0

/-- The statuses that `winc1500_err_to_mn_err` knows, beside the success. -/
def knownErrors : List Int :=
  [sockErrInvalidAddress, sockErrAddrAlreadyInUse, sockErrMaxTcpSock, sockErrMaxUdpSock,
    sockErrInvalidArg, sockErrMaxListenSock, sockErrInvalid, sockErrAddrIsRequired,
    sockErrConnAborted, sockErrTimeout, sockErrBufferFull]

/-- The status is none that has a code of its own, and `ws_err` tells whether it is an error. -/
def Clean (s : Paths) : Event → Prop
  | .relock => ∀ status ∈ s.answer,
      status.toInt ∉ knownErrors ∧ (s.sync.ws.wsErr = 0 ↔ status.toInt = 0)
  | _ => True

instance (s : Paths) (e : Event) : Decidable (Clean s e) := by
  cases e with
  | relock => exact Option.decidableForallMem _
  | bind | listen | take | expire | reply | connected | received => exact instDecidableTrue

/-- The codes that stand for known errors. -/
def knownCodes (mn : MnSocket) : List Int :=
  [mn.einval, mn.eaddrinuse, mn.enobufs, mn.edestaddrreq, mn.econnaborted, mn.etimedout]

/-! ## The translation -/

section Translation

variable {mn : MnSocket}

theorem winc1500ErrToMnErr_eq_zero_iff (err : Int) :
    mn.winc1500ErrToMnErr err = 0 ↔ err = 0 := by
  constructor
  · intro h
    by_contra hne
    have hpos := mn.winc1500ErrToMnErr_pos hne
    omega
  · rintro rfl
    rfl

theorem winc1500ErrToMnErr_known {err : Int} (h : err ∈ knownErrors) :
    mn.winc1500ErrToMnErr err ∈ knownCodes mn := by
  revert err
  simp only [knownErrors, List.forall_mem_cons, knownCodes]
  refine ⟨?_, ?_, ?_, ?_, ?_, ?_, ?_, ?_, ?_, ?_, ?_, fun _ h => nomatch h⟩ <;>
    simp [MnSocket.winc1500ErrToMnErr, sockErrNoError, sockErrInvalidAddress,
      sockErrAddrAlreadyInUse, sockErrMaxTcpSock, sockErrMaxUdpSock, sockErrInvalidArg,
      sockErrMaxListenSock, sockErrInvalid, sockErrAddrIsRequired, sockErrConnAborted,
      sockErrTimeout, sockErrBufferFull]

theorem winc1500ErrToMnErr_unknown {err : Int} (h0 : err ≠ 0) (h : err ∉ knownErrors) :
    mn.winc1500ErrToMnErr err = mn.eunknown := by
  simp only [knownErrors, List.mem_cons, List.not_mem_nil, or_false, not_or] at h
  simp [MnSocket.winc1500ErrToMnErr, sockErrNoError, h0, h]

/-- What `winc1500_sock_wait` makes of `ws_err`: no known error is positive. -/
theorem winc1500ErrToMnErr_wsErr (wsErr : UInt8) :
    mn.winc1500ErrToMnErr wsErr.toNat = if wsErr = 0 then 0 else mn.eunknown := by
  by_cases h : wsErr = 0
  · rw [h, if_pos rfl]
    rfl
  · have hne : wsErr.toNat ≠ 0 := fun h0 => h (UInt8.toNat_inj.mp h0)
    rw [if_neg h]
    refine winc1500ErrToMnErr_unknown (by omega) fun hknown => ?_
    simp only [knownErrors, List.mem_cons, List.not_mem_nil, or_false, sockErrInvalidAddress,
      sockErrAddrAlreadyInUse, sockErrMaxTcpSock, sockErrMaxUdpSock, sockErrInvalidArg,
      sockErrMaxListenSock, sockErrInvalid, sockErrAddrIsRequired, sockErrConnAborted,
      sockErrTimeout, sockErrBufferFull] at hknown
    omega

/-- The translations of `ws_err` and of a status agree. -/
theorem wsErr_agrees_iff (hdistinct : mn.eunknown ∉ knownCodes mn) (wsErr : UInt8)
    (status : Int) :
    mn.winc1500ErrToMnErr wsErr.toNat = mn.winc1500ErrToMnErr status ↔
      status ∉ knownErrors ∧ (wsErr = 0 ↔ status = 0) := by
  have hunknown : mn.eunknown ≠ 0 := by
    have hpos := @MnSocket.winc1500ErrToMnErr_pos mn 1 (by decide)
    rw [winc1500ErrToMnErr_unknown (by decide) (by decide)] at hpos
    omega
  rw [winc1500ErrToMnErr_wsErr]
  by_cases h0 : status = 0
  · subst h0
    rw [(winc1500ErrToMnErr_eq_zero_iff 0).mpr rfl]
    by_cases hws : wsErr = 0 <;> simp [hws, hunknown, show (0 : Int) ∉ knownErrors by decide]
  · by_cases hknown : status ∈ knownErrors
    · have hmem := @winc1500ErrToMnErr_known mn status hknown
      have hne : mn.winc1500ErrToMnErr status ≠ mn.eunknown := fun h => hdistinct (h ▸ hmem)
      have hne0 : mn.winc1500ErrToMnErr status ≠ 0 :=
        fun h => h0 ((winc1500ErrToMnErr_eq_zero_iff status).mp h)
      by_cases hws : wsErr = 0 <;> simp [hws, hknown, hne.symm, hne0.symm]
    · rw [winc1500ErrToMnErr_unknown h0 hknown]
      by_cases hws : wsErr = 0 <;> simp [hws, h0, hknown, hunknown.symm]

end Translation

/-! ## When the codes are kept -/

/-- An answer is there only while its token is. -/
structure Inv (mn : MnSocket) (s : Paths) : Prop where
  kept : Kept mn s
  waiting : ∀ q, s.sync.phase = .pending q → s.sync.ws.wsWaiting = true
  answer : s.answer.isSome → (∃ q, s.sync.phase = .pending q ∧ s.sync.ws.wsSem ≠ []) ∨
    ∃ q token, s.sync.phase = .woken q token

variable {mn : MnSocket}

/-- A success is told from an error by its translation. -/
theorem kept_iff {s : Paths} :
    Kept mn s ↔ ∀ r ∈ s.seen, r.code = mn.winc1500ErrToMnErr r.status := by
  constructor
  · exact Kept.code
  · intro h
    refine ⟨h, fun r hr => ?_⟩
    rw [h r hr]
    exact winc1500ErrToMnErr_eq_zero_iff r.status

theorem Kept.of_seen {s t : Paths} (h : Kept mn s) (hseen : t.seen = s.seen) : Kept mn t := by
  rw [kept_iff, hseen]
  exact h.code

/-- One more status, which comes as `code`. -/
theorem Kept.cons_iff {s t : Paths} (h : Kept mn s) {r : Seen} (hseen : t.seen = r :: s.seen) :
    Kept mn t ↔ r.code = mn.winc1500ErrToMnErr r.status := by
  rw [kept_iff, hseen, List.forall_mem_cons]
  exact and_iff_left h.code

theorem inv_init (mn : MnSocket) : Inv mn Paths.init where
  kept := kept_iff.mpr (by simp [Paths.init])
  waiting := by simp [Paths.init, System.init]
  answer := by simp [Paths.init]

/-- A request that is refused leaves the socket alone, and one that goes out is waited for. -/
theorem issue_waiting {s : System} (hidle : s.phase = .idle) (rc : Int) {q : Nat}
    (h : (SyncCall.issue mn s rc).phase = .pending q) :
    (SyncCall.issue mn s rc).ws.wsWaiting = true := by
  by_cases hrc : rc = 0
  · rw [SyncCall.issue, if_pos hrc]
  · rw [SyncCall.issue, if_neg hrc] at h
    rw [show s.phase = .pending q from h] at hidle
    cases hidle

theorem bind_waiting {s t : System} {addr : MnSockaddrIn} {bIsUsed sent : Bool}
    (h : SyncCall.step mn s (.bind addr bIsUsed sent) = some t) {q : Nat}
    (hphase : t.phase = .pending q) : t.ws.wsWaiting = true := by
  rw [SyncCall.step, Option.ite_none_right_eq_some] at h
  obtain ⟨hidle, hbind⟩ := h
  cases hbind
  unfold SyncCall.winc1500SockBind at hphase ⊢
  cases haddr : winc1500MnAddrToAddr mn addr with
  | error rc =>
      rw [haddr] at hphase
      rw [show s.phase = .pending q from hphase] at hidle
      cases hidle
  | ok sin =>
      rw [haddr] at hphase
      exact issue_waiting hidle _ hphase

theorem listen_waiting {s t : System} {bIsUsed sent : Bool}
    (h : SyncCall.step mn s (.listen bIsUsed sent) = some t) {q : Nat}
    (hphase : t.phase = .pending q) : t.ws.wsWaiting = true := by
  rw [SyncCall.step, Option.ite_none_right_eq_some] at h
  obtain ⟨hidle, hlisten⟩ := h
  cases hlisten
  exact issue_waiting hidle _ hphase

/-- A call begins without an answer. -/
theorem Inv.calling {s : Paths} (hs : Inv mn s) {sync : System}
    (hwaiting : ∀ q, sync.phase = .pending q → sync.ws.wsWaiting = true) :
    Inv mn (s.calling sync) :=
  ⟨hs.kept.of_seen rfl, hwaiting, fun h => nomatch h⟩

theorem take_cases {s t : System} (h : SyncCall.step mn s .take = some t) :
    ∃ q token rest, s.phase = .pending q ∧
      t = { s with ws := { s.ws with wsSem := rest }, phase := .woken q token } := by
  rw [SyncCall.step] at h
  split at h
  · rename_i q token rest hphase hsem
    cases h
    exact ⟨q, token, rest, hphase, rfl⟩
  · cases h

theorem expire_cases {s t : System} (h : SyncCall.step mn s .expire = some t) :
    ∃ q, s.phase = .pending q ∧ s.ws.wsSem = [] ∧ t = { s with phase := .timedOut q } := by
  rw [SyncCall.step] at h
  split at h
  · rename_i q hphase hsem
    cases h
    exact ⟨q, hphase, hsem, rfl⟩
  · cases h

/-- The end of a wait returns the call, with the translation of `ws_err` unless it timed out. -/
theorem relock_cases {s t : System} (h : SyncCall.step mn s .relock = some t) :
    t.phase = .idle ∧ ∃ r, t.returns = r :: s.returns ∧
      ∀ q token, s.phase = .woken q token → r.code = mn.winc1500ErrToMnErr s.ws.wsErr.toNat := by
  change SyncCall.winc1500SockWaitEnd mn s = some t at h
  unfold SyncCall.winc1500SockWaitEnd at h
  split at h
  · rename_i q hphase
    cases h
    refine ⟨rfl, _, rfl, fun q token hwoken => ?_⟩
    rw [hphase] at hwoken
    cases hwoken
  · cases h
    exact ⟨rfl, _, rfl, fun _ _ _ => rfl⟩
  · cases h

/-- A message changes nothing but the error and the semaphore, and gives a call that waits a
token. -/
theorem wake_cases (ws : SyncCall.Sock) (origin : SyncCall.Origin) (err : UInt8) :
    (SyncCall.winc1500SockWake ws origin err).wsWaiting = ws.wsWaiting ∧
      (ws.wsSem ≠ [] → (SyncCall.winc1500SockWake ws origin err).wsSem ≠ []) ∧
      (ws.wsWaiting = true → (SyncCall.winc1500SockWake ws origin err).wsSem ≠ []) := by
  rw [SyncCall.winc1500SockWake]
  split
  · exact ⟨rfl, by simp, by simp⟩
  · rename_i hwaiting
    exact ⟨rfl, id, fun h => absurd h hwaiting⟩

/-- The answer of a call in progress is not lost by a message. -/
theorem Inv.wake {s : Paths} (hs : Inv mn s) {ws : SyncCall.Sock} (outstanding : List Nat)
    {seen : List Seen} (hwaiting : ws.wsWaiting = s.sync.ws.wsWaiting)
    (hsem : s.sync.ws.wsSem ≠ [] → ws.wsSem ≠ [])
    (hkept : Kept mn { s with seen := seen }) :
    Inv mn
      { s with
        sync := { s.sync with ws := ws, outstanding := outstanding }
        seen := seen } where
  kept := hkept.of_seen rfl
  waiting := fun q hq => hwaiting.trans (hs.waiting q hq)
  answer := by
    intro hsome
    rcases hs.answer hsome with ⟨q, hphase, hne⟩ | hwoken
    · exact .inl ⟨q, hphase, hsem hne⟩
    · exact .inr hwoken

/-- The end of a call is the one step that a status can be changed by. -/
theorem relock_kept_iff (hdistinct : mn.eunknown ∉ knownCodes mn) {s t : Paths} (hs : Inv mn s)
    (h : step mn s .relock = some t) : Kept mn t ↔ Clean s .relock := by
  obtain ⟨sync, hsync, rfl⟩ := Option.map_eq_some_iff.mp h
  obtain ⟨-, r, hreturns, hcode⟩ := relock_cases hsync
  rw [Clean]
  cases hanswer : s.answer with
  | none =>
      refine iff_of_true (hs.kept.of_seen ?_) fun _ h => nomatch h
      simp [Paths.returned, hanswer]
  | some status =>
      have hwoken : ∃ q token, s.sync.phase = .woken q token := by
        rcases hs.answer (by rw [hanswer]; rfl) with ⟨q, hphase, -⟩ | hwoken
        · change SyncCall.winc1500SockWaitEnd mn s.sync = some sync at hsync
          unfold SyncCall.winc1500SockWaitEnd at hsync
          rw [hphase] at hsync
          cases hsync
        · exact hwoken
      obtain ⟨q, token, hphase⟩ := hwoken
      have hseen : (s.returned sync).seen = ⟨status.toInt, r.code⟩ :: s.seen := by
        simp [Paths.returned, hanswer, hreturns]
      rw [hs.kept.cons_iff hseen, hcode q token hphase, wsErr_agrees_iff hdistinct]
      simp

theorem Inv.relock (hdistinct : mn.eunknown ∉ knownCodes mn) {s t : Paths} (hs : Inv mn s)
    (hclean : Clean s .relock) (h : step mn s .relock = some t) : Inv mn t := by
  have hkept := (relock_kept_iff hdistinct hs h).mpr hclean
  obtain ⟨sync, hsync, rfl⟩ := Option.map_eq_some_iff.mp h
  have hidle := (relock_cases hsync).1
  refine ⟨hkept, fun q hq => ?_, fun h => nomatch h⟩
  rw [show sync.phase = .pending q from hq] at hidle
  cases hidle

theorem Inv.reply {s t : Paths} (hs : Inv mn s) {q : Nat} {status : Int8}
    (h : step mn s (.reply q status) = some t) : Inv mn t := by
  obtain ⟨sync, hsync, rfl⟩ := Option.map_eq_some_iff.mp h
  rw [SyncCall.step, Option.ite_none_right_eq_some] at hsync
  obtain ⟨-, hreply⟩ := hsync
  cases hreply
  obtain ⟨hwaiting, hsem, htoken⟩ := wake_cases s.sync.ws (.request q) status.toUInt8
  have hinv := hs.wake (s.sync.outstanding.erase q) hwaiting hsem hs.kept
  by_cases hphase : s.sync.phase = .pending q
  · refine ⟨hinv.kept.of_seen rfl, hinv.waiting, fun _ => .inl ⟨q, hphase, ?_⟩⟩
    exact htoken (hs.waiting q hphase)
  · simp only [if_neg hphase]
    exact hinv

theorem inv_step (hdistinct : mn.eunknown ∉ knownCodes mn) {s t : Paths} {e : Event}
    (hs : Inv mn s) (hclean : Clean s e) (h : step mn s e = some t) : Inv mn t := by
  cases e with
  | bind addr bIsUsed sent =>
      obtain ⟨sync, hsync, rfl⟩ := Option.map_eq_some_iff.mp h
      exact hs.calling fun q hq => bind_waiting hsync hq
  | listen bIsUsed sent =>
      obtain ⟨sync, hsync, rfl⟩ := Option.map_eq_some_iff.mp h
      exact hs.calling fun q hq => listen_waiting hsync hq
  | take =>
      obtain ⟨sync, hsync, rfl⟩ := Option.map_eq_some_iff.mp h
      obtain ⟨q, token, rest, -, rfl⟩ := take_cases hsync
      refine ⟨hs.kept.of_seen rfl, fun q' hq' => ?_, fun _ => .inr ⟨q, token, rfl⟩⟩
      cases hq'
  | expire =>
      obtain ⟨sync, hsync, rfl⟩ := Option.map_eq_some_iff.mp h
      obtain ⟨q, hphase, hsem, rfl⟩ := expire_cases hsync
      refine ⟨hs.kept.of_seen rfl, fun q' hq' => (by cases hq'), fun hsome => ?_⟩
      -- a call that has its answer has a token
      rcases hs.answer hsome with ⟨-, -, hne⟩ | ⟨q', token, hwoken⟩
      · exact absurd hsem hne
      · rw [hphase] at hwoken
        cases hwoken
  | relock => exact hs.relock hdistinct hclean h
  | reply q status => exact hs.reply h
  | connected s8Error =>
      cases h
      exact ⟨(hs.kept.cons_iff rfl).mpr rfl, hs.waiting, hs.answer⟩
  | received len =>
      rw [step, Option.ite_none_right_eq_some] at h
      obtain ⟨-, h⟩ := h
      obtain ⟨sync, hsync, rfl⟩ := Option.map_eq_some_iff.mp h
      cases hsync
      obtain ⟨hwaiting, hsem, -⟩ := wake_cases s.sync.ws .receive len.toUInt16.toUInt8
      exact hs.wake s.sync.outstanding hwaiting hsem
        ((hs.kept.cons_iff rfl).mpr rfl)

/-- In a run of the calls and of the messages, every status comes to the application as its
translation exactly as long as no call returns with an answer of a known error, or with an `ws_err`
that makes a success of it or an error of a success. -/
theorem codes_kept_iff (hdistinct : mn.eunknown ∉ knownCodes mn) {es : List Event} {s : Paths}
    (h : Run.run (step mn) Paths.init es = some s) :
    Run.Throughout (step mn) (Kept mn) Paths.init es ↔
      Run.Along (step mn) Clean Paths.init es := by
  refine Run.throughout_iff_along (fun _ hs => hs.kept)
    (fun _ _ _ hs hclean h => inv_step hdistinct hs hclean h) ?_ (inv_init mn) h
  intro s e t hs hclean h
  cases e with
  | relock => exact fun hkept => hclean ((relock_kept_iff hdistinct hs h).mp hkept)
  | bind | listen | take | expire | reply | connected | received => exact absurd trivial hclean

/-- A `bind` that succeeds, a connection that is refused, a receive error while nothing waits, and a
`listen` with a status that has no code of its own. -/
def keptRun : List Event :=
  [.bind ⟨8, 4, 80, 0⟩ true true, .reply 0 0, .take, .relock, .connected (-12), .received (-12),
    .listen true true, .reply 1 (-5), .take, .relock]

theorem codes_kept_keptRun :
    Run.Throughout (step someMnSocket) (Kept someMnSocket) Paths.init keptRun :=
  (codes_kept_iff (by decide)
    (Option.some_get (x := Run.run (step someMnSocket) Paths.init keptRun) (by decide)).symm).mpr
    (by decide)

/-- The port is in use: `bind` returns the code for an unknown error. -/
theorem bind_loses_status :
    ∃ s, Run.run (step someMnSocket) Paths.init
        [.bind ⟨8, 4, 80, 0⟩ true true, .reply 0 (-2), .take, .relock] = some s ∧
      s.seen = [⟨-2, someMnSocket.eunknown⟩] ∧
      someMnSocket.winc1500ErrToMnErr (-2) = someMnSocket.eaddrinuse ∧
      ¬ Kept someMnSocket s := by
  refine ⟨_, rfl, rfl, rfl, fun hkept => ?_⟩
  exact absurd (hkept.code _ (List.mem_singleton.mpr rfl)) (by decide)

end ErrorCodes

end Winc1500
