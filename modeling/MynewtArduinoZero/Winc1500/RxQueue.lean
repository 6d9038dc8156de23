import MynewtArduinoZero.Lib.Log
import MynewtArduinoZero.Winc1500.RxChain
import MynewtArduinoZero.Winc1500.Socket

/-!
# Queues of packets

`ws_rx` of each socket, against the log: `queueOf` is what has been appended since
the socket was closed last, less what has been returned, and `Queues` says that
the queue is just that and that the mbufs of each packet are its own and hold
its bytes.  Whatever happens to the chain at `rx_buf` leaves the packets alone.

`Justified` is what an observation has to look like: a chunk is written to the
mbuf it is accounted to, which is one of the chain at `rx_buf` and belongs to
nobody else; a packet carries the last reply, which was for its socket; and what
is returned is the oldest packet.
-/

namespace Winc1500

open Log

namespace Rx

/-! ## The log -/

/-- The packets of a socket that have been appended and not been returned. -/
def queueOf (sock : Nat) : List Obs → List (Nat × List UInt8)
  | [] => []
  | .appended i head bytes _ _ :: log =>
      if i = sock then queueOf sock log ++ [(head, bytes)] else queueOf sock log
  | .returned i _ _ :: log => if i = sock then (queueOf sock log).tail else queueOf sock log
  | .closed i :: log => if i = sock then [] else queueOf sock log
  | .replied _ _ :: log | .chunk _ _ _ _ :: log => queueOf sock log

/-- A reply with data, or the packet made of it. -/
def Obs.isReply : Obs → Bool
  | .replied _ _ | .appended _ _ _ _ _ => true
  | _ => false

/-- The reply that no packet has been made of yet. -/
def lastReply (log : List Obs) : Option Obs := log.find? Obs.isReply

/-- What an observation may look like behind the earlier ones. -/
def Justified (log : List Obs) : Obs → Prop
  | .chunk written owner accounted chain =>
      owner = .rx ∧ accounted = some written ∧ written ∈ chain
  | .appended sock _ bytes pktLen lens =>
      lastReply log = some (.replied sock bytes) ∧ pktLen = bytes.length ∧
        lens.sum = bytes.length
  | .returned sock head bytes => ∃ rest, queueOf sock log = (head, bytes) :: rest
  | .replied _ _ | .closed _ => True

/-- The queues are what the log says, and each packet is intact. -/
structure Queues (P : Pool) (socks : Nat → Winc1500Sock) (log : List Obs) : Prop where
  heads : ∀ i, (socks i).wsRx = (queueOf i log).map Prod.fst
  packets : ∀ i, ∀ e ∈ queueOf i log, P.Packet i e.1 e.2
  nodup : ∀ i, (socks i).wsRx.Nodup
  justified : AllJustified Justified log

namespace Queues

open Pool

variable {P P' : Pool} {socks : Nat → Winc1500Sock} {log : List Obs}

/-- The chain at `rx_buf` changes. -/
theorem rxOnly (h : Queues P socks log) (ho : RxOnly P P') : Queues P' socks log where
  heads := h.heads
  packets := fun i e he => (h.packets i e he).only ho (by simp)
  nodup := h.nodup
  justified := h.justified

/-- The sockets change but for `ws_rx`. -/
theorem setSock (h : Queues P socks log) (i : Nat) {x : Winc1500Sock}
    (hx : x.wsRx = (socks i).wsRx) : Queues P (Function.update socks i x) log := by
  have hsame : ∀ j, (Function.update socks i x j).wsRx = (socks j).wsRx := by
    intro j
    rcases eq_or_ne j i with rfl | hne
    · rw [Function.update_self, hx]
    · rw [Function.update_of_ne hne]
  exact
    { heads := fun j => by rw [hsame, h.heads]
      packets := h.packets
      nodup := fun j => by rw [hsame]; exact h.nodup j
      justified := h.justified }

/-- An observation that is no matter of the queues. -/
theorem observe (h : Queues P socks log) {o : Obs} (hsame : ∀ i, queueOf i (o :: log) = queueOf i log)
    (ho : Justified log o) : Queues P socks (o :: log) where
  heads := fun i => by rw [hsame, h.heads]
  packets := fun i e he => h.packets i e (hsame i ▸ he)
  nodup := h.nodup
  justified := h.justified.cons ho

theorem queueOf_of_ne {i j : Nat} (h : j ≠ i) {o : Obs} (log : List Obs)
    (ho : (∃ head bytes pktLen lens, o = .appended i head bytes pktLen lens) ∨
      (∃ head bytes, o = .returned i head bytes) ∨ o = .closed i) :
    queueOf j (o :: log) = queueOf j log := by
  rcases ho with ⟨head, bytes, pktLen, lens, rfl⟩ | ⟨head, bytes, rfl⟩ | rfl
  · exact if_neg h.symm
  · exact if_neg h.symm
  · exact if_neg h.symm

/-- The mbufs of a packet are its own. -/
theorem owner_head (h : Queues P socks log) {i m : Nat} (hm : m ∈ (socks i).wsRx) :
    (P.mbuf m).owner = .queued i m := by
  rw [h.heads] at hm
  obtain ⟨e, he, rfl⟩ := List.mem_map.mp hm
  obtain ⟨l, hl, -⟩ := h.packets i e he
  exact hl.owner _ hl.head_mem

/-- A complete packet is appended. -/
theorem append (h : Queues P socks log) {b i : Nat} {l : List Nat} {data : List UInt8}
    (hfilling : P.Filling b l [] data) (hreply : lastReply log = some (.replied i data)) :
    Queues (P.give (.queued i b) l)
      (Function.update socks i { socks i with wsRx := (socks i).wsRx ++ [b] })
      (.appended i b data (P.mbuf b).ompLen (P.lens l) :: log) := by
  have hholds := hfilling.holds
  rw [List.append_nil] at hholds
  have hgive : RxOnly P (P.give (.queued i b) l) := Only.give hholds.owner _
  have hb : b ∉ (socks i).wsRx := by
    intro hmem
    have howner := h.owner_head hmem
    rw [hholds.owner b hholds.head_mem] at howner
    cases howner
  have hself : queueOf i (.appended i b data (P.mbuf b).ompLen (P.lens l) :: log)
      = queueOf i log ++ [(b, data)] := if_pos rfl
  refine { heads := fun j => ?_, packets := fun j e he => ?_, nodup := fun j => ?_, justified := ?_ }
  · rcases eq_or_ne j i with rfl | hne
    · rw [Function.update_self, hself, List.map_append, ← h.heads]
      rfl
    · rw [Function.update_of_ne hne, queueOf_of_ne hne _ (.inl ⟨_, _, _, _, rfl⟩), h.heads]
  · rcases eq_or_ne j i with rfl | hne
    · rw [hself] at he
      rcases List.mem_append.mp he with hold | hnew
      · exact (h.packets j e hold).only hgive (by simp)
      · rw [List.mem_singleton.mp hnew]
        exact hfilling.packet j
    · rw [queueOf_of_ne hne _ (.inl ⟨_, _, _, _, rfl⟩)] at he
      exact (h.packets j e he).only hgive (by simp)
  · rcases eq_or_ne j i with rfl | hne
    · rw [Function.update_self]
      exact (h.nodup j).append (List.nodup_singleton b) (List.disjoint_singleton.mpr hb)
    · rw [Function.update_of_ne hne]
      exact h.nodup j
  · exact h.justified.cons ⟨hreply, hfilling.pktLen, hfilling.lens⟩

/-- The oldest packet is returned. -/
theorem takeHead (h : Queues P socks log) {i m : Nat} {rest : List Nat}
    (hrx : (socks i).wsRx = m :: rest) :
    Queues (P.give .app (P.chainFrom (some m)))
        (Function.update socks i { socks i with wsRx := rest })
        (.returned i m (P.bytes (P.chainFrom (some m))) :: log) ∧
      Only (· = .queued i m) P (P.give .app (P.chainFrom (some m))) := by
  have hnodup := h.nodup i
  have hheads := h.heads i
  rw [hrx] at hnodup hheads
  obtain ⟨⟨head, data⟩, tail, hqueue, rfl, htail⟩ := List.map_eq_cons_iff.mp hheads.symm
  obtain ⟨l, hl, hbytes⟩ := h.packets i (head, data) (hqueue ▸ List.mem_cons_self)
  dsimp only at hl hbytes hnodup hrx ⊢
  rw [hl.chainFrom]
  have hgive : Only (· = .queued i head) P (P.give .app l) := Only.give hl.owner _
  have hself : queueOf i (.returned i head (P.bytes l) :: log) = tail := by
    rw [queueOf, if_pos rfl, hqueue, List.tail_cons]
  refine ⟨?_, hgive⟩
  refine { heads := fun j => ?_, packets := fun j e he => ?_, nodup := fun j => ?_, justified := ?_ }
  · rcases eq_or_ne j i with rfl | hne
    · rw [Function.update_self, hself, htail]
    · rw [Function.update_of_ne hne, queueOf_of_ne hne _ (.inr (.inl ⟨_, _, rfl⟩)), h.heads]
  · rcases eq_or_ne j i with rfl | hne
    · rw [hself] at he
      have hother : e.1 ≠ head := by
        rintro rfl
        exact (List.nodup_cons.mp hnodup).1 (htail ▸ List.mem_map_of_mem he)
      exact (h.packets j e (hqueue ▸ List.mem_cons_of_mem _ he)).only hgive (by simpa using hother)
    · rw [queueOf_of_ne hne _ (.inr (.inl ⟨_, _, rfl⟩))] at he
      exact (h.packets j e he).only hgive (by simp [hne])
  · rcases eq_or_ne j i with rfl | hne
    · rw [Function.update_self]
      exact (List.nodup_cons.mp hnodup).2
    · rw [Function.update_of_ne hne]
      exact h.nodup j
  · exact h.justified.cons ⟨tail, by rw [hqueue, hbytes]⟩

/-- Packets of one socket are freed one after the other. -/
theorem free_all {i : Nat} : ∀ {heads : List Nat} {P : Pool}, heads.Nodup →
    (∀ m ∈ heads, ∃ data, P.Packet i m data) →
    Only (fun owner => ∃ m, owner = .queued i m) P
      (heads.foldl (fun P m => P.osMbufFreeChain (some m)) P)
  | [], P, _, _ => .refl P
  | m :: heads, P, hnodup, hpackets => by
      obtain ⟨hm, hnodup⟩ := List.nodup_cons.mp hnodup
      obtain ⟨data, l, hl, -⟩ := hpackets m List.mem_cons_self
      have hfree : P.osMbufFreeChain (some m) = P.give .free l := by
        rw [osMbufFreeChain, hl.chainFrom]
      have honly : Only (· = .queued i m) P (P.give .free l) := Only.give hl.owner _
      have hall : Only (fun owner => ∃ m, owner = .queued i m) P (P.give .free l) :=
        Only.give (fun x hx => ⟨m, hl.owner x hx⟩) _
      rw [List.foldl_cons, hfree]
      refine hall.trans (free_all hnodup fun m' hm' => ?_)
      obtain ⟨data', hpacket⟩ := hpackets m' (List.mem_cons_of_mem m hm')
      exact ⟨data', hpacket.only honly (by simpa using ne_of_mem_of_not_mem hm' hm)⟩

/-- A socket is closed. -/
theorem closeSock (h : Queues P socks log) (i : Nat) {x : Winc1500Sock} (hx : x.wsRx = []) :
    Queues ((socks i).wsRx.foldl (fun P m => P.osMbufFreeChain (some m)) P)
        (Function.update socks i x) (.closed i :: log) ∧
      Only (fun owner => ∃ m, owner = .queued i m) P
        ((socks i).wsRx.foldl (fun P m => P.osMbufFreeChain (some m)) P) := by
  have hpackets : ∀ m ∈ (socks i).wsRx, ∃ data, P.Packet i m data := by
    intro m hm
    rw [h.heads] at hm
    obtain ⟨e, he, rfl⟩ := List.mem_map.mp hm
    exact ⟨e.2, h.packets i e he⟩
  have honly := free_all (h.nodup i) hpackets
  have hself : queueOf i (.closed i :: log) = [] := if_pos rfl
  refine ⟨?_, honly⟩
  refine { heads := fun j => ?_, packets := fun j e he => ?_, nodup := fun j => ?_, justified := ?_ }
  · rcases eq_or_ne j i with rfl | hne
    · rw [Function.update_self, hself, hx]
      rfl
    · rw [Function.update_of_ne hne, queueOf_of_ne hne _ (.inr (.inr rfl)), h.heads]
  · rcases eq_or_ne j i with rfl | hne
    · rw [hself] at he
      cases he
    · rw [queueOf_of_ne hne _ (.inr (.inr rfl))] at he
      exact (h.packets j e he).only honly (by simp [hne])
  · rcases eq_or_ne j i with rfl | hne
    · rw [Function.update_self, hx]
      exact List.nodup_nil
    · rw [Function.update_of_ne hne]
      exact h.nodup j
  · exact h.justified.cons trivial

end Queues

end Rx

end Winc1500
