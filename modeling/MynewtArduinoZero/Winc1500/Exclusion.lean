import MynewtArduinoZero.Lib.Monitor
import MynewtArduinoZero.Winc1500.Hif

/-!
# One task at the host interface

`wi_mtx` is to keep the transactions of the host interface apart.  The socket
calls take it around their requests, `winc1500_sock_wait` gives it up while it
waits, and `winc1500_events` holds it while it handles the messages of the chip,
with the callbacks and the socket calls they make.

`winc1500_events` then calls `winc1500_socket_poll` without it.  The poll asks for
data with `recvfrom`, so its request can be sent while another task is in the
middle of a transaction.

A call is the script of what its task does.  The branches that depend on data,
and what each transaction meets at the bus, are arguments of the call.
-/

namespace Winc1500

namespace Exclusion

open Hif Monitor

abbrev Script := List (Action Access)

/-! ## The requests of `socket.c` -/

/-- A call of `hif_send`, and what it meets. -/
structure Send where
  request : Hif.Request
  chip : Chip
deriving DecidableEq, Repr

namespace Send

variable (x : Send)

def ret : Int := (hifSend x.request x.chip).1

/-- The accesses of the transaction. -/
def accesses : List Access := (hifSend x.request { x.chip with trace := [] }).2.trace

def script : Script := within (x.accesses.map .work)

end Send

/-- A socket function that sends one request, unless it refuses its arguments. -/
def socketRequest : Option Send → Script
  | none => []
  | some x => x.script

/-- The function returns `SOCK_ERR_NO_ERROR`. -/
def accepted (x : Option Send) : Prop := ∃ y ∈ x, y.ret = m2mSuccess

instance (x : Option Send) : Decidable (accepted x) :=
  match x with
  | none => .isFalse (by simp [accepted])
  | some y => decidable_of_iff (y.ret = m2mSuccess) (by simp [accepted])

/-! ## The socket calls -/

/-- `winc1500_sock_wait`, around `os_sem_pend`. -/
def winc1500SockWait : Script := [.release, .acquire]

/-- `socket` sends nothing for a socket without SSL. -/
def winc1500SockCreate (supported : Bool) : Script := if supported then locked [] else []

def winc1500SockClose (x : Option Send) : Script := locked (socketRequest x)

/-- The part of `winc1500_sock_bind` and `winc1500_sock_listen` under the mutex. -/
def requestAndWait (x : Option Send) : Script :=
  locked (socketRequest x ++ if accepted x then winc1500SockWait else [])

def winc1500SockBind (addrOk : Bool) (x : Option Send) : Script :=
  if addrOk then requestAndWait x else []

def winc1500SockConnect (addrOk stream : Bool) (x : Option Send) : Script :=
  if addrOk then locked (if stream then socketRequest x else []) else []

def winc1500SockListen (x : Option Send) : Script := requestAndWait x

/-- The loop of `winc1500_stream_tx`: it sends until a `send` fails. -/
def streamTxLoop : List (Option Send) → Script
  | [] => []
  | x :: xs => socketRequest x ++ if accepted x then streamTxLoop xs else []

def winc1500StreamTx (xs : List (Option Send)) : Script := locked (streamTxLoop xs)

/-- `winc1500_sock_sendto` on a stream socket. -/
def winc1500SockSendtoStream (dst wsTx : Bool) (xs : List (Option Send)) : Script :=
  if dst || wsTx then [] else winc1500StreamTx xs

/-- `winc1500_sock_sendto` on a datagram socket, for a chain that fits `tx_buf` or does not. -/
def winc1500SockSendtoDgram (addrOk fits : Bool) (x : Option Send) : Script :=
  if addrOk then locked (if fits then socketRequest x else []) else []

def winc1500SockRecvfrom : Script := locked []

/-- `winc1500_sock_setsockopt`, for a multicast group with an address of the right family or
not. -/
def winc1500SockSetsockopt (group familyOk : Bool) (x : Option Send) : Script :=
  if group && familyOk then locked (socketRequest x) else []

/-- A socket call of an application. -/
inductive Call where
  | create (supported : Bool)
  | close (x : Option Send)
  | bind (addrOk : Bool) (x : Option Send)
  | connect (addrOk stream : Bool) (x : Option Send)
  | listen (x : Option Send)
  | sendtoStream (dst wsTx : Bool) (xs : List (Option Send))
  | sendtoDgram (addrOk fits : Bool) (x : Option Send)
  | recvfrom
  | setsockopt (group familyOk : Bool) (x : Option Send)
deriving DecidableEq, Repr

def Call.script : Call → Script
  | .create supported => winc1500SockCreate supported
  | .close x => winc1500SockClose x
  | .bind addrOk x => winc1500SockBind addrOk x
  | .connect addrOk stream x => winc1500SockConnect addrOk stream x
  | .listen x => winc1500SockListen x
  | .sendtoStream dst wsTx xs => winc1500SockSendtoStream dst wsTx xs
  | .sendtoDgram addrOk fits x => winc1500SockSendtoDgram addrOk fits x
  | .recvfrom => winc1500SockRecvfrom
  | .setsockopt group familyOk x => winc1500SockSetsockopt group familyOk x

/-! ## The events -/

/-- Where `winc1500_sock_start_rx` ends. -/
inductive StartRx where
  /-- There are no mbufs, or no socket to poll. -/
  | nothing
  /-- `recvfrom` on the first socket to poll, which refuses it, has its request out, or sends one. -/
  | recvfrom (x : Option Send)
deriving DecidableEq, Repr

def StartRx.script : StartRx → Script
  | .nothing => []
  | .recvfrom x => socketRequest x

/-- What is done about the messages of the chip. -/
inductive Work where
  /-- An access of `hif_isr` or `hif_receive`. -/
  | bus (a : Access)
  /-- A request that a driver callback sends. -/
  | request (x : Send)
  /-- The end of a receive callback. -/
  | startRx (r : StartRx)
  /-- The callback of a send. -/
  | streamTx (xs : List (Option Send))
  /-- A socket call of a callback of the application. -/
  | call (c : Call)
deriving DecidableEq, Repr

def Work.script : Work → Script
  | .bus a => [.work a]
  | .request x => x.script
  | .startRx r => r.script
  | .streamTx xs => winc1500StreamTx xs
  | .call c => c.script

def m2mWifiHandleEvents (ws : List Work) : Script := within (ws.flatMap Work.script)

/-- `winc1500_socket_poll`. -/
def winc1500SocketPoll (polling : Bool) (r : StartRx) : Script :=
  if polling then [] else r.script

def winc1500Events (ws : List Work) (polling : Bool) (r : StartRx) : Script :=
  locked (m2mWifiHandleEvents ws) ++ winc1500SocketPoll polling r

/-! ## The tasks -/

inductive Program where
  | call (c : Call)
  | events (ws : List Work) (polling : Bool) (r : StartRx)
deriving DecidableEq, Repr

/-- The wifi task and `n` others.  The wifi task handles the events, and every task calls. -/
abbrev Task (n : Nat) := Fin (n + 1)

variable {n : Nat}

def wifi : Task n := 0

def body (t : Task n) : Program → Option Script
  | .call c => some c.script
  | .events ws polling r => if t = wifi then some (winc1500Events ws polling r) else none

/-- The task whose poll sends without the mutex. -/
def polls (t : Task n) : Bool := t = wifi

/-! ## Discipline -/

section Neutral

variable {free : Bool} {d i : Nat}

theorem Send.neutral (hd : free = true ∨ 0 < d) (x : Send) : Neutral free d i x.script :=
  .within hd (.works i.succ_pos x.accesses)

theorem socketRequest_neutral (hd : free = true ∨ 0 < d) :
    (x : Option Send) → Neutral free d i (socketRequest x)
  | none => .nil
  | some x => x.neutral hd

theorem requestAndWait_neutral (hi : d = 0 → i = 0) (x : Option Send) :
    Neutral free d i (requestAndWait x) :=
  .locked hi ((socketRequest_neutral (.inr d.succ_pos) x).append (.ite (.yield hi) .nil))

theorem streamTxLoop_neutral (hd : free = true ∨ 0 < d) (xs : List (Option Send)) :
    Neutral free d i (streamTxLoop xs) := by
  induction xs with
  | nil => exact .nil
  | cons x xs ih => exact (socketRequest_neutral hd x).append (.ite ih .nil)

theorem winc1500StreamTx_neutral (hi : d = 0 → i = 0) (xs : List (Option Send)) :
    Neutral free d i (winc1500StreamTx xs) :=
  .locked hi (streamTxLoop_neutral (.inr d.succ_pos) xs)

/-- Every socket call sends with the mutex only, also when it is made by a callback. -/
theorem Call.neutral (hi : d = 0 → i = 0) (c : Call) : Neutral free d i c.script := by
  have hd : free = true ∨ 0 < d + 1 := .inr d.succ_pos
  cases c with
  | create supported => exact .ite (.locked hi .nil) .nil
  | close x => exact .locked hi (socketRequest_neutral hd x)
  | bind addrOk x => exact .ite (requestAndWait_neutral hi x) .nil
  | connect addrOk stream x =>
      exact .ite (.locked hi (.ite (socketRequest_neutral hd x) .nil)) .nil
  | listen x => exact requestAndWait_neutral hi x
  | sendtoStream dst wsTx xs => exact .ite .nil (winc1500StreamTx_neutral hi xs)
  | sendtoDgram addrOk fits x =>
      exact .ite (.locked hi (.ite (socketRequest_neutral hd x) .nil)) .nil
  | recvfrom => exact .locked hi .nil
  | setsockopt group familyOk x => exact .ite (.locked hi (socketRequest_neutral hd x)) .nil

theorem StartRx.neutral (hd : free = true ∨ 0 < d) (r : StartRx) : Neutral free d i r.script := by
  cases r with
  | nothing => exact .nil
  | recvfrom x => exact socketRequest_neutral hd x

theorem Work.neutral (hd : 0 < d) (hi : 0 < i) (w : Work) : Neutral free d i w.script := by
  have hcover : d = 0 → i = 0 := fun h => absurd h (Nat.ne_of_gt hd)
  cases w with
  | bus a => exact .work hi a
  | request x => exact x.neutral (.inr hd)
  | startRx r => exact r.neutral (.inr hd)
  | streamTx xs => exact winc1500StreamTx_neutral hcover xs
  | call c => exact c.neutral hcover

/-- The messages of the chip are handled with the mutex. -/
theorem m2mWifiHandleEvents_neutral (hd : 0 < d) (ws : List Work) :
    Neutral free d i (m2mWifiHandleEvents ws) :=
  .within (.inr hd) (.flatMap fun w _ => w.neutral hd i.succ_pos)

end Neutral

/-- Only the poll needs a task that is free to send without the mutex. -/
theorem winc1500Events_neutral (ws : List Work) (polling : Bool) (r : StartRx) :
    Neutral true 0 0 (winc1500Events ws polling r) :=
  (Neutral.locked (fun _ => rfl) (m2mWifiHandleEvents_neutral Nat.one_pos ws)).append
    (.ite .nil (r.neutral (.inl rfl)))

theorem body_disciplined (t : Task n) (p : Program) (l : Script) (h : body t p = some l) :
    Disciplined (polls t) 0 0 l := by
  cases p with
  | call c =>
      cases h
      exact (c.neutral fun _ => rfl).disciplined
  | events ws polling r =>
      obtain ⟨rfl, hl⟩ := Option.ite_none_right_eq_some.mp h
      cases hl
      exact (winc1500Events_neutral ws polling r).disciplined

/-! ## Exclusion -/

/-- In every run, at most one task is inside a transaction or the handling of the
events in every state, exactly when every request of the poll is alone: the wifi task begins none
while another task is inside one, and no other task begins one while the poll is inside its own. -/
theorem exclusive_iff_poll_alone {es : List (Event (Task n) Program)} {s : State (Task n) Access}
    (hrun : Run.run (step body) .idle es = some s) :
    Run.Throughout (step body) Exclusive .idle es ↔
      Run.Along (step body) (Alone polls) .idle es :=
  exclusive_iff_alone body_disciplined hrun

instance (s : State (Task n) Access) (t : Task n) : Decidable (Uncovered polls s t) :=
  inferInstanceAs (Decidable (_ ∧ _))

instance (s : State (Task n) Access) (e : Event (Task n) Program) :
    Decidable (Alone polls s e) :=
  match e with
  | .begin _ _ => .isTrue trivial
  | .next t => inferInstanceAs (Decidable (_ → ∀ u, t ≠ u → _ → _))

/-- The request of `winc1500_sock_bind`, to a chip that is awake and takes it at once. -/
def bindRequest : Send where
  request := ⟨2, 0x41, some 12, none⟩
  chip := ⟨.noPs, 0, 0xf, [⟨true, 0⟩, ⟨true, 0⟩, ⟨true, 0⟩, ⟨true, 0x1000⟩, ⟨true, 0⟩, ⟨true, 0⟩,
    ⟨true, 0⟩], []⟩

/-- The request of the poll, which fails at its first access. -/
def pollRequest : Send where
  request := ⟨2, 0x48, some 8, none⟩
  chip := ⟨.noPs, 0, 0xf, [], []⟩

/-- A bind that is preempted inside its transaction, while the wifi task waits for the mutex. -/
def bindFirst : List (Event (Task 1) Program) :=
  [.begin 1 (.call (.bind true (some bindRequest))), .next 1, .next 1, .next 1,
    .begin 0 (.events [] false (.recvfrom (some pollRequest)))] ++
    List.replicate 10 (.next 1) ++ List.replicate 7 (.next 0)

theorem bindFirst_run : (Run.run (step body) .idle bindFirst).isSome := by decide +kernel

theorem exclusive_iff_poll_alone_bindFirst :
    Run.Throughout (step body) Exclusive .idle bindFirst :=
  (exclusive_iff_poll_alone (Option.some_get bindFirst_run).symm).mpr (by decide +kernel)

/-- The wifi task handles its events, a bind begins to send, and the poll sends as well. -/
theorem poll_meets_bind :
    ∃ s, Run.run (step body) (.idle : State (Task 1) Access)
        [.begin 0 (.events [] false (.recvfrom (some pollRequest))), .next 0, .next 0, .next 0,
          .next 0, .begin 1 (.call (.bind true (some bindRequest))), .next 1, .next 1, .next 0] =
      some s ∧ ¬ Exclusive s := by
  refine ⟨_, rfl, fun h => ?_⟩
  have hmeet := h 0 1 (by decide)
  revert hmeet
  decide

end Exclusion

end Winc1500
