import MynewtArduinoZero.Lib.Run
import MynewtArduinoZero.Winc1500.MnSocket
import Mathlib.Data.List.Nodup

/-!
# Sending on a stream socket

`winc1500_sock_sendto` puts the caller's chain of mbufs in `ws_tx` and calls
`winc1500_stream_tx`, which takes the mutex and hands `ws_tx` to the chip mbuf
by mbuf, freeing each one that is accepted, until `send` fails.  A
`SOCKET_MSG_SEND` notification calls `winc1500_stream_tx` again.

`ws_tx` is tested and set before the mutex is taken, so another task or a
notification may run between the two: a call waits with its chain in `ws_tx`,
and by the time it runs the chain may be gone and another one in its place.

An mbuf has a number, which stands for its address as long as it is not freed.
The state also records what the chip has accepted (`wire`), what it was to be
sent (`owed`), which mbufs have been freed and by which results calls returned.
-/

namespace Winc1500

open Run

namespace StreamTx

/-- A result of `send`. -/
inductive SendResult where
  | accepted
  | bufferFull
  | invalidArg
deriving DecidableEq, Repr

/-- The return code of `send`. -/
def SendResult.code : SendResult → Int
  | .accepted => sockErrNoError
  | .bufferFull => sockErrBufferFull
  | .invalidArg => sockErrInvalidArg

theorem SendResult.code_accepted : SendResult.accepted.code = 0 := rfl

/-- An mbuf, with its `om_len` bytes. -/
structure Mbuf where
  id : Nat
  omData : List UInt8
deriving DecidableEq, Repr

/-- The numbers of a chain. -/
def ids (chain : List Mbuf) : List Nat := chain.map Mbuf.id

/-- The bytes of a chain. -/
def bytes (chain : List Mbuf) : List UInt8 := chain.flatMap Mbuf.omData

@[simp] theorem ids_append (s t : List Mbuf) : ids (s ++ t) = ids s ++ ids t :=
  List.map_append

@[simp] theorem bytes_append (s t : List Mbuf) : bytes (s ++ t) = bytes s ++ bytes t :=
  List.flatMap_append

/-! ## The transmit loop -/

/-- The `while` loop of `winc1500_stream_tx` with the results `send` gives: its `rc`, `ws_tx`
behind it and the mbufs sent and freed.  `none` says that there were too few results. -/
def winc1500StreamTxLoop : (wsTx : List Mbuf) → (results : List SendResult) →
    Option (Int × List Mbuf × List Mbuf)
  | [], _ => some (0, [], [])
  | _ :: _, [] => none
  | m :: n, result :: results =>
      if result.code = 0 then
        (winc1500StreamTxLoop n results).map fun (rc, wsTx, sent) => (rc, wsTx, m :: sent)
      else some (result.code, m :: n, [])

/-- The conversion of `rc` behind the loop. -/
def streamTxRc (mn : MnSocket) (rc : Int) : Int :=
  if rc ≠ 0 then if rc = mn.enobufs then 0 else mn.winc1500ErrToMnErr rc else 0

/-- What is sent and what stays make up what there was. -/
theorem winc1500StreamTxLoop_split : ∀ {wsTx : List Mbuf} {results : List SendResult} {rc : Int}
    {rest sent : List Mbuf}, winc1500StreamTxLoop wsTx results = some (rc, rest, sent) →
    wsTx = sent ++ rest
  | [], _, _, _, _, h => by
      cases h
      rfl
  | _ :: _, [], _, _, _, h => by cases h
  | m :: n, result :: results, rc, rest, sent, h => by
      rw [winc1500StreamTxLoop] at h
      split at h
      · obtain ⟨⟨rc', rest', sent'⟩, hloop, heq⟩ := Option.map_eq_some_iff.mp h
        cases heq
        rw [winc1500StreamTxLoop_split hloop, List.cons_append]
      · cases h
        rfl

/-- When `send` accepts every mbuf, the loop ends with `rc` 0 and an empty `ws_tx`. -/
theorem winc1500StreamTxLoop_accepted : ∀ {wsTx : List Mbuf} {results : List SendResult},
    wsTx.length ≤ results.length → (∀ r ∈ results.take wsTx.length, r = .accepted) →
    winc1500StreamTxLoop wsTx results = some (0, [], wsTx)
  | [], _, _, _ => rfl
  | m :: n, result :: results, hlen, hall => by
      have hresult : result = .accepted := hall result List.mem_cons_self
      have hrest : ∀ r ∈ results.take n.length, r = .accepted := fun r hr =>
        hall r (List.mem_cons_of_mem result hr)
      rw [winc1500StreamTxLoop, hresult, if_pos SendResult.code_accepted,
        winc1500StreamTxLoop_accepted (Nat.le_of_succ_le_succ hlen) hrest]
      rfl

/-- Too few results leave the loop running. -/
theorem le_length_of_accepted : ∀ {wsTx : List Mbuf} {results : List SendResult}
    {out : Int × List Mbuf × List Mbuf}, winc1500StreamTxLoop wsTx results = some out →
    (∀ r ∈ results.take wsTx.length, r = .accepted) → wsTx.length ≤ results.length
  | [], _, _, _, _ => Nat.zero_le _
  | _ :: _, [], _, h, _ => by cases h
  | m :: n, result :: results, out, h, hall => by
      have hresult : result = .accepted := hall result List.mem_cons_self
      rw [winc1500StreamTxLoop, hresult, if_pos SendResult.code_accepted] at h
      obtain ⟨out', hloop, -⟩ := Option.map_eq_some_iff.mp h
      exact Nat.succ_le_succ (le_length_of_accepted hloop fun r hr =>
        hall r (List.mem_cons_of_mem result hr))

/-! ## The system -/

/-- A call of `winc1500_sock_sendto` that has returned, with what the socket held and what
had been freed at that moment. -/
structure Return where
  chain : List Mbuf
  code : Int
  wsTx : List Mbuf
  freed : List Nat
deriving DecidableEq, Repr

/-- The socket and the tasks that wait for the mutex in `winc1500_stream_tx`. -/
structure System where
  /-- `ws_type` is `SOCK_STREAM`. -/
  isStream : Bool
  wsTx : List Mbuf
  /-- The chains of the calls that wait. -/
  waiting : List (List Mbuf)
  /-- The bytes `send` has accepted. -/
  wire : List UInt8
  /-- The bytes of the chains taken, less those a close has dropped. -/
  owed : List UInt8
  freed : List Nat
  /-- The errors passed to `mn_socket_writable`. -/
  writable : List Int
  returns : List Return

/-- A stream socket after `winc1500_sock_create`. -/
def System.init : System where
  isStream := true
  wsTx := []
  waiting := []
  wire := []
  owed := []
  freed := []
  writable := []
  returns := []

/-- A chain its caller may pass: its mbufs are live and none of them is the socket's. -/
def Owned (s : System) (chain : List Mbuf) : Prop :=
  (ids chain).Nodup ∧ ∀ i ∈ ids chain, i ∉ ids s.wsTx ∧ i ∉ s.freed

instance (s : System) (chain : List Mbuf) : Decidable (Owned s chain) := by
  unfold Owned
  infer_instance

/-- A call returns.  On an error its caller frees the chain. -/
def returnTo (s : System) (chain : List Mbuf) (code : Int) : System :=
  { s with
    freed := if code = 0 then s.freed else s.freed ++ ids chain
    returns := ⟨chain, code, s.wsTx, s.freed⟩ :: s.returns }

/-- `winc1500_stream_tx` with the mutex: the state behind the loop, and the converted `rc`. -/
def winc1500StreamTx (mn : MnSocket) (s : System) (results : List SendResult) :
    Option (System × Int) :=
  (winc1500StreamTxLoop s.wsTx results).map fun (rc, rest, sent) =>
    ({ s with wsTx := rest, wire := s.wire ++ bytes sent, freed := s.freed ++ ids sent },
      streamTxRc mn rc)

/-- The stream branch of `winc1500_sock_sendto` up to the mutex; `dst` says whether a
destination was given. -/
def winc1500SockSendto (mn : MnSocket) (s : System) (chain : List Mbuf) (dst : Bool) : System :=
  if dst then returnTo s chain mn.einval
  else if s.wsTx ≠ [] then returnTo s chain mn.eagain
  else { s with wsTx := chain, waiting := s.waiting ++ [chain], owed := s.owed ++ bytes chain }

/-- What `winc1500_stream_tx` reports when it was called for a notification. -/
def notify (s : System) (rc : Int) : System :=
  if s.wsTx = [] then { s with writable := 0 :: s.writable }
  else if rc ≠ 0 then { s with writable := rc :: s.writable }
  else s

/-- `winc1500_sock_close`, the part on `ws_tx`. -/
def winc1500SockClose (s : System) : System :=
  { s with
    isStream := false
    wsTx := []
    owed := s.wire
    freed := s.freed ++ ids s.wsTx }

/-- What can happen next. -/
inductive Event where
  | sendto (chain : List Mbuf) (dst : Bool)
  /-- The waiting call number `i` gets the mutex and returns. -/
  | locked (i : Nat) (results : List SendResult)
  /-- `SOCKET_MSG_SEND`. -/
  | sendMsg (results : List SendResult)
  | close
  | create

/-- One event. -/
def step (mn : MnSocket) (s : System) : Event → Option System
  | .sendto chain dst =>
      if s.isStream ∧ Owned s chain then some (winc1500SockSendto mn s chain dst) else none
  | .locked i results =>
      s.waiting[i]?.bind fun chain =>
        (winc1500StreamTx mn s results).map fun (s, rc) =>
          returnTo { s with waiting := s.waiting.eraseIdx i } chain rc
  | .sendMsg results =>
      if s.isStream then (winc1500StreamTx mn s results).map fun (s, rc) => notify s rc
      else some s
  | .close => some (winc1500SockClose s)
  | .create => if s.isStream then none else some { s with isStream := true }

/-! ## Ownership -/

/-- On 0 the socket has the chain, or has freed it; on an error the caller has all of it. -/
structure Return.Clean (r : Return) : Prop where
  taken : r.code = 0 → ∀ i ∈ ids r.chain, i ∈ ids r.wsTx ∨ i ∈ r.freed
  left : r.code ≠ 0 → ∀ i ∈ ids r.chain, i ∉ ids r.wsTx ∧ i ∉ r.freed

/-- The sends of a call of `winc1500_sock_sendto` are accepted. -/
def CallAccepted (s : System) : Event → Prop
  | .locked _ results => ∀ r ∈ results.take s.wsTx.length, r = .accepted
  | _ => True

instance (s : System) (e : Event) : Decidable (CallAccepted s e) := by
  cases e <;> unfold CallAccepted <;> infer_instance

/-- Nothing is freed twice or used after it was freed, and what was taken is sent in order. -/
structure TxInv (s : System) : Prop where
  nodup : (ids s.wsTx ++ s.freed).Nodup
  owed : s.owed = s.wire ++ bytes s.wsTx
  closed : s.isStream = false → s.wsTx = []
  waiting : ∀ chain ∈ s.waiting, ∀ i ∈ ids chain, i ∈ ids s.wsTx ∨ i ∈ s.freed
  returns : ∀ r ∈ s.returns, r.Clean

namespace TxInv

variable {mn : MnSocket} {s : System}

theorem init : TxInv System.init where
  nodup := List.nodup_nil
  owed := rfl
  closed := fun _ => rfl
  waiting := by simp [System.init]
  returns := by simp [System.init]

/-- A call that returns 0 on a chain the socket has taken. -/
theorem returnTaken (h : TxInv s) {chain : List Mbuf}
    (hchain : ∀ i ∈ ids chain, i ∈ ids s.wsTx ∨ i ∈ s.freed) : TxInv (returnTo s chain 0) :=
  { h with
    returns := by
      intro r hr
      rcases List.mem_cons.mp hr with rfl | hr
      · exact { taken := fun _ => hchain, left := fun hcode => absurd rfl hcode }
      · exact h.returns r hr }

/-- A call that returns an error on a chain that is the caller's. -/
theorem returnLeft (h : TxInv s) {chain : List Mbuf} (hchain : Owned s chain) {code : Int}
    (hcode : code ≠ 0) : TxInv (returnTo s chain code) := by
  obtain ⟨hnodup, hdisjoint⟩ := hchain
  have hfreed : (returnTo s chain code).freed = s.freed ++ ids chain := if_neg hcode
  refine { nodup := ?_, owed := h.owed, closed := h.closed, waiting := ?_, returns := ?_ }
  · rw [hfreed, ← List.append_assoc]
    refine h.nodup.append hnodup ?_
    intro i hi hi'
    rcases List.mem_append.mp hi with hi | hi
    · exact (hdisjoint i hi').1 hi
    · exact (hdisjoint i hi').2 hi
  · intro chain' hchain' i hi
    rw [hfreed]
    rcases h.waiting chain' hchain' i hi with hi | hi
    · exact .inl hi
    · exact .inr (List.mem_append_left _ hi)
  · intro r hr
    rcases List.mem_cons.mp hr with rfl | hr
    · exact { taken := fun h0 => absurd h0 hcode, left := fun _ => hdisjoint }
    · exact h.returns r hr

theorem sendto (h : TxInv s) {chain : List Mbuf} (hchain : Owned s chain) (hstream : s.isStream)
    (dst : Bool) : TxInv (winc1500SockSendto mn s chain dst) := by
  unfold winc1500SockSendto
  split
  · exact h.returnLeft hchain (Int.ne_of_gt mn.einval_pos)
  · split
    · exact h.returnLeft hchain (Int.ne_of_gt mn.eagain_pos)
    · rename_i hfree
      have htx : s.wsTx = [] := not_not.mp hfree
      have hnodup := h.nodup
      have howed := h.owed
      rw [htx] at hnodup howed
      exact
        { nodup := hchain.1.append hnodup fun i hi hi' => (hchain.2 i hi).2 hi'
          owed := by rw [howed, bytes, List.flatMap_nil, List.append_nil]
          closed := fun hclosed => by rw [hclosed] at hstream; cases hstream
          waiting := by
            intro chain' hchain' i hi
            rcases List.mem_append.mp hchain' with hchain' | hchain'
            · have hfreed := h.waiting chain' hchain' i hi
              rw [htx] at hfreed
              exact .inr (hfreed.resolve_left List.not_mem_nil)
            · rw [List.mem_singleton.mp hchain'] at hi
              exact .inl hi
          returns := h.returns }

/-- The loop moves mbufs from `ws_tx` to the wire. -/
theorem streamTx (h : TxInv s) {results : List SendResult} {t : System} {rc : Int}
    (htx : winc1500StreamTx mn s results = some (t, rc)) : TxInv t := by
  obtain ⟨⟨rc', rest, sent⟩, hloop, heq⟩ := Option.map_eq_some_iff.mp htx
  cases heq
  have hsplit := winc1500StreamTxLoop_split hloop
  have hnodup := h.nodup
  have howed := h.owed
  rw [hsplit] at hnodup howed
  refine { nodup := ?_, owed := ?_, closed := ?_, waiting := ?_, returns := h.returns }
  · rw [ids_append, List.append_assoc] at hnodup
    have hperm := List.perm_append_comm.nodup_iff.mp hnodup
    rwa [List.append_assoc] at hperm
  · rw [howed, bytes_append, List.append_assoc]
  · intro hclosed
    have hnil := h.closed hclosed
    rw [hsplit, List.append_eq_nil_iff] at hnil
    exact hnil.2
  · intro chain hchain i hi
    rcases h.waiting chain hchain i hi with hmem | hmem
    · rw [hsplit, ids_append, List.mem_append] at hmem
      exact hmem.symm.imp_right (List.mem_append_right s.freed)
    · exact .inr (List.mem_append_left _ hmem)

/-- A call stops waiting. -/
theorem leaveWaiting (h : TxInv s) (i : Nat) :
    TxInv { s with waiting := s.waiting.eraseIdx i } :=
  { h with waiting := fun chain hchain => h.waiting chain (List.mem_of_mem_eraseIdx hchain) }

/-- A waiting call whose sends are all accepted returns 0. -/
theorem locked (h : TxInv s) {i : Nat} {chain : List Mbuf} (hchain : s.waiting[i]? = some chain)
    {results : List SendResult} (haccepted : ∀ r ∈ results.take s.wsTx.length, r = .accepted)
    {t : System} {rc : Int} (htx : winc1500StreamTx mn s results = some (t, rc)) :
    TxInv (returnTo { t with waiting := t.waiting.eraseIdx i } chain rc) := by
  have hinv := h.streamTx htx
  obtain ⟨out, hloop, heq⟩ := Option.map_eq_some_iff.mp htx
  have hdone := winc1500StreamTxLoop_accepted (le_length_of_accepted hloop haccepted) haccepted
  rw [hloop, Option.some.injEq] at hdone
  subst hdone
  cases heq
  have hwaiting : ∀ i ∈ ids chain, i ∈ ids [] ∨ i ∈ s.freed ++ ids s.wsTx :=
    hinv.waiting chain (List.mem_of_getElem? hchain)
  exact (hinv.leaveWaiting i).returnTaken hwaiting

theorem notify (h : TxInv s) (rc : Int) : TxInv (notify s rc) := by
  unfold StreamTx.notify
  split
  · exact { h with }
  · split
    · exact { h with }
    · exact h

theorem close (h : TxInv s) : TxInv (winc1500SockClose s) where
  nodup := by
    have hperm : (s.freed ++ ids s.wsTx).Nodup := List.perm_append_comm.nodup_iff.mp h.nodup
    exact hperm
  owed := (List.append_nil _).symm
  closed := fun _ => rfl
  waiting := fun chain hchain i hi =>
    .inr (List.mem_append.mpr (h.waiting chain hchain i hi).symm)
  returns := h.returns

end TxInv

/-- One event keeps the invariant when the sends of a call are accepted. -/
theorem step_txInv (mn : MnSocket) (s : System) (e : Event) (t : System) (h : TxInv s)
    (haccepted : CallAccepted s e) (hstep : step mn s e = some t) : TxInv t := by
  cases e with
  | sendto chain dst =>
      rw [step, Option.ite_none_right_eq_some] at hstep
      obtain ⟨⟨hstream, howned⟩, hsend⟩ := hstep
      cases hsend
      exact h.sendto howned hstream dst
  | locked i results =>
      obtain ⟨chain, hchain, hlocked⟩ := Option.bind_eq_some_iff.mp hstep
      obtain ⟨⟨u, rc⟩, htx, heq⟩ := Option.map_eq_some_iff.mp hlocked
      cases heq
      exact h.locked hchain haccepted htx
  | sendMsg results =>
      rw [step] at hstep
      split at hstep
      · obtain ⟨⟨u, rc⟩, htx, heq⟩ := Option.map_eq_some_iff.mp hstep
        cases heq
        exact (h.streamTx htx).notify rc
      · cases hstep
        exact h
  | close =>
      cases hstep
      exact h.close
  | create =>
      rw [step] at hstep
      split at hstep
      · cases hstep
      · cases hstep
        exact { h with closed := fun hclosed => by cases hclosed }

/-- A notification on which `send` accepts everything sends all that is owed. -/
theorem TxInv.sendMsg_drains (mn : MnSocket) {s : System} (h : TxInv s)
    {results : List SendResult} (hlen : s.wsTx.length ≤ results.length)
    (hall : ∀ r ∈ results, r = .accepted) :
    ∃ t, step mn s (.sendMsg results) = some t ∧ t.wsTx = [] ∧ t.wire = s.owed := by
  cases hstream : s.isStream with
  | false =>
      have htx := h.closed hstream
      refine ⟨s, by rw [step, hstream, if_neg Bool.false_ne_true], htx, ?_⟩
      rw [h.owed, htx, bytes, List.flatMap_nil, List.append_nil]
  | true =>
      have hloop := winc1500StreamTxLoop_accepted hlen fun r hr => hall r (List.mem_of_mem_take hr)
      refine ⟨_, by rw [step, hstream, if_pos rfl, winc1500StreamTx, hloop]; rfl, ?_, ?_⟩
      · rfl
      · exact h.owed.symm

/-- In a run in which no `send` of a call of `winc1500_sock_sendto` fails, every call that
returns 0 has given its chain to the socket and every call that fails has kept it; no mbuf is
freed twice; what was taken is sent in order, the part in `ws_tx` excepted, and a
notification on which the chip has room sends that part. -/
theorem accepted_calls_clean {mn : MnSocket} {es : List Event} {s : System}
    (haccepted : Along (step mn) CallAccepted System.init es)
    (hrun : run (step mn) System.init es = some s) :
    (∀ r ∈ s.returns, r.Clean) ∧ (ids s.wsTx ++ s.freed).Nodup ∧
      s.owed = s.wire ++ bytes s.wsTx ∧
      ∀ results, s.wsTx.length ≤ results.length → (∀ r ∈ results, r = .accepted) →
        ∃ t, step mn s (.sendMsg results) = some t ∧ t.wsTx = [] ∧ t.wire = s.owed := by
  have h : TxInv s := run_invariant_along (step_txInv mn) TxInv.init haccepted hrun
  exact ⟨h.returns, h.nodup, h.owed, fun results hlen hall => h.sendMsg_drains mn hlen hall⟩

/-- A notification finds the chain of a call that waits, and the chip has room for one mbuf;
the call sends the other one, and a second call is refused meanwhile. -/
def acceptedRun : List Event :=
  [.sendto [⟨0, [1, 2]⟩, ⟨1, [3]⟩] false, .sendMsg [.accepted, .bufferFull],
    .sendto [⟨2, [4]⟩] false, .locked 0 [.accepted]]

theorem accepted_calls_clean_acceptedRun :
    ∃ s, run (step someMnSocket) System.init acceptedRun = some s ∧ s.wire = [1, 2, 3] ∧
      ∀ r ∈ s.returns, r.Clean :=
  ⟨_, rfl, rfl, (@accepted_calls_clean someMnSocket acceptedRun _ (by decide) rfl).1⟩

/-- The chip buffer is full when a chain is sent. -/
def bufferFullRun : List Event := [.sendto [⟨0, [1]⟩] false, .locked 0 [.bufferFull]]

/-- The call returns `MN_ENOBUFS` and leaves the chain in `ws_tx`, and its caller frees it. -/
theorem bufferFull_keeps_chain :
    ∃ s, run (step someMnSocket) System.init bufferFullRun = some s ∧
      s.wsTx = [⟨0, [1]⟩] ∧ s.freed = [0] ∧
      ∃ r ∈ s.returns, r.code = someMnSocket.enobufs ∧ ¬ r.Clean := by
  refine ⟨_, rfl, rfl, rfl, ⟨[⟨0, [1]⟩], 4, [⟨0, [1]⟩], []⟩, by decide, rfl, fun hclean => ?_⟩
  exact (hclean.left (by decide) 0 (by decide)).1 (by decide)

end StreamTx

end Winc1500
