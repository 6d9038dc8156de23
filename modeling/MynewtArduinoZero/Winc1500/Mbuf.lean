import Mathlib.Algebra.Ring.Int.Defs
import Mathlib.Algebra.Ring.Nat
import Mathlib.Data.List.Perm.Subperm
import Mathlib.Tactic.Tauto
import MynewtArduinoZero.Lib.Slist

/-!
# Receive buffers

The mbufs that frames are received to.  An mbuf has a number, which stands for
its address and for `om_data` as well; a freed mbuf is not handed out under its
number again.  Each one records who may use it (`Owner`), which the code sees
nothing of.

`Holds` is the ownership of a chain: the mbufs from a pointer on along `om_next`
are these, and they all belong to one owner.
-/

namespace Winc1500

namespace Rx

/-! ## Mbufs -/

/-- Who may use an mbuf. -/
inductive Owner where
  | free
  /-- The chain that is received to. -/
  | rx
  /-- The packet `head` in the `ws_rx` of a socket. -/
  | queued (sock head : Nat)
  | app
deriving DecidableEq, Repr

/-- The room of a fresh mbuf of the system pools. -/
abbrev Space := { n : Nat // 0 < n ∧ n < 2 ^ 15 }

/-- `struct os_mbuf`. -/
structure Mbuf where
  space : Space
  omLen : Nat
  /-- The bytes at `om_data` that have been written. -/
  omData : List UInt8
  omNext : Option Nat
  /-- `omp_len` of the packet header. -/
  ompLen : Nat
  owner : Owner
deriving DecidableEq, Repr

namespace Mbuf

/-- `OS_MBUF_TRAILINGSPACE`. -/
def trailingSpace (m : Mbuf) : Int := m.space.val - m.omLen

/-- The `om_len` bytes of an mbuf. -/
def bytes (m : Mbuf) : List UInt8 := m.omData.take m.omLen

/-- The bytes behind a write at `om_data`. -/
def write (m : Mbuf) (data : List UInt8) : Mbuf :=
  { m with omData := data ++ m.omData.drop data.length }

end Mbuf

/-- The mbufs, of which those below `fresh` have been handed out. -/
structure Pool where
  mbuf : Nat → Mbuf
  fresh : Nat

namespace Pool

def init : Pool where
  mbuf := fun _ => ⟨⟨1, by decide⟩, 0, [], none, 0, .free⟩
  fresh := 0

variable (P : Pool)

/-- `SLIST_NEXT`. -/
def next (i : Nat) : Option Nat := (P.mbuf i).omNext

/-- The pool with one mbuf changed. -/
def modify (i : Nat) (f : Mbuf → Mbuf) : Pool :=
  { P with mbuf := Function.update P.mbuf i (f (P.mbuf i)) }

/-- `SLIST_NEXT` is set. -/
def setNext (i : Nat) (p : Option Nat) : Pool := P.modify i fun m => { m with omNext := p }

/-- The mbufs of a chain. -/
def chainFrom (p : Option Nat) : List Nat := Slist.collect P.next P.fresh p

/-- The mbufs of a list change hands. -/
def give (owner : Owner) (l : List Nat) : Pool :=
  { P with mbuf := fun i => if i ∈ l then { P.mbuf i with owner := owner } else P.mbuf i }

/-- `os_mbuf_free_chain`. -/
def osMbufFreeChain (p : Option Nat) : Pool := P.give .free (P.chainFrom p)

/-- The bytes of a chain. -/
def bytes (l : List Nat) : List UInt8 := l.flatMap fun i => (P.mbuf i).bytes

/-- The lengths of a chain. -/
def lens (l : List Nat) : List Nat := l.map fun i => (P.mbuf i).omLen

/-- A successful `os_msys_get` or `os_msys_get_pkthdr`: the mbuf is number `fresh`. -/
def osMsysGet (space : Space) : Pool where
  mbuf := Function.update P.mbuf P.fresh ⟨space, 0, [], none, 0, .rx⟩
  fresh := P.fresh + 1

/-- The pool with a fresh mbuf behind `m`. -/
def extend (m : Nat) (space : Space) : Pool :=
  (P.osMsysGet space).setNext m (some P.fresh)

/-- The loop of `winc1500_sock_start_rx` that adds mbufs behind `m` while `need` is positive,
and whether it got them all. -/
def grow (P : Pool) (m : Nat) (need : Int) : (gets : List (Option Space)) → Pool × Bool
  | [] => (P, decide (need ≤ 0))
  | got :: gets =>
      if need ≤ 0 then (P, true)
      else
        match got with
        | none => (P, false)
        | some space =>
            grow (P.extend m space) P.fresh (need - space.val) gets

/-- The mbufs there are have room for `need`. -/
def supplies (need : Int) : (gets : List (Option Space)) → Bool
  | [] | none :: _ => decide (need ≤ 0)
  | some space :: gets => decide (need ≤ 0) || supplies (need - space.val) gets

theorem grow_snd (P : Pool) (m : Nat) (need : Int) (gets : List (Option Space)) :
    (P.grow m need gets).2 = supplies need gets := by
  induction gets generalizing P m need with
  | nil => rfl
  | cons got gets ih =>
      by_cases hneed : need ≤ 0
      · cases got <;> simp [grow, supplies, hneed]
      · cases got with
        | none => simp [grow, supplies, hneed]
        | some space => simp [grow, supplies, hneed, ih]

/-! ## Owned chains -/

/-- The chain from `p` on is `l`, and its mbufs belong to `owner`. -/
structure Holds (P : Pool) (owner : Owner) (p : Option Nat) (l : List Nat) : Prop where
  chain : Slist.IsChain P.next p l
  nodup : l.Nodup
  owner : ∀ i ∈ l, (P.mbuf i).owner = owner
  alloc : ∀ i ∈ l, i < P.fresh

variable {P} {P' P'' : Pool} {owner : Owner} {p : Option Nat} {l : List Nat}

theorem Holds.chainFrom (h : P.Holds owner p l) : P.chainFrom p = l := by
  have hsub : l ⊆ List.range P.fresh := fun i hi => List.mem_range.mpr (h.alloc i hi)
  have hlen := (h.nodup.subperm hsub).length_le
  rw [List.length_range] at hlen
  exact Slist.collect_eq h.chain hlen

/-- A chain depends on its own mbufs. -/
theorem Holds.frame (h : P.Holds owner p l) (hfresh : P.fresh ≤ P'.fresh)
    (hsame : ∀ i ∈ l, P'.mbuf i = P.mbuf i) : P'.Holds owner p l where
  chain := h.chain.frame fun i hi => congrArg Mbuf.omNext (hsame i hi)
  nodup := h.nodup
  owner := fun i hi => by rw [hsame i hi, h.owner i hi]
  alloc := fun i hi => Nat.lt_of_lt_of_le (h.alloc i hi) hfresh

theorem bytes_congr (h : ∀ i ∈ l, (P'.mbuf i).bytes = (P.mbuf i).bytes) :
    P'.bytes l = P.bytes l :=
  List.flatMap_congr h

theorem lens_congr (h : ∀ i ∈ l, (P'.mbuf i).omLen = (P.mbuf i).omLen) : P'.lens l = P.lens l :=
  List.map_congr_left h

theorem bytes_append (l r : List Nat) : P.bytes (l ++ r) = P.bytes l ++ P.bytes r :=
  List.flatMap_append

theorem lens_append (l r : List Nat) : P.lens (l ++ r) = P.lens l ++ P.lens r :=
  List.map_append

/-! ## Changes -/

theorem modify_self (i : Nat) (f : Mbuf → Mbuf) : (P.modify i f).mbuf i = f (P.mbuf i) :=
  Function.update_self ..

theorem modify_of_ne {i x : Nat} (h : x ≠ i) (f : Mbuf → Mbuf) :
    (P.modify i f).mbuf x = P.mbuf x :=
  Function.update_of_ne h ..

theorem give_of_mem {i : Nat} (h : i ∈ l) :
    (P.give owner l).mbuf i = { P.mbuf i with owner := owner } :=
  if_pos h

theorem give_of_not_mem {i : Nat} (h : i ∉ l) : (P.give owner l).mbuf i = P.mbuf i :=
  if_neg h

/-- Giving mbufs away leaves what is in them. -/
theorem give_next : (P.give owner l).next = P.next := by
  funext i
  rw [next, give]
  dsimp only
  split <;> rfl

theorem Holds.give (h : P.Holds owner p l) (owner' : Owner) : (P.give owner' l).Holds owner' p l where
  chain := by
    rw [give_next]
    exact h.chain
  nodup := h.nodup
  owner := fun i hi => by rw [give_of_mem hi]
  alloc := h.alloc

/-- Only mbufs of certain owners have changed. -/
structure Only (S : Owner → Prop) (P P' : Pool) : Prop where
  fresh : P.fresh ≤ P'.fresh
  same : ∀ i, i < P.fresh → ¬ S (P.mbuf i).owner → P'.mbuf i = P.mbuf i

/-- Only receive buffers have changed. -/
abbrev RxOnly (P P' : Pool) : Prop := Only (· = .rx) P P'

namespace Only

variable {S : Owner → Prop}

theorem refl (P : Pool) : Only S P P := ⟨Nat.le_refl _, fun _ _ _ => rfl⟩

theorem trans (h : Only S P P') (h' : Only S P' P'') : Only S P P'' where
  fresh := Nat.le_trans h.fresh h'.fresh
  same := fun i hi hS => by
    have hsame := h.same i hi hS
    rw [h'.same i (Nat.lt_of_lt_of_le hi h.fresh) (hsame ▸ hS), hsame]

theorem mono (h : Only S P P') {T : Owner → Prop} (hST : ∀ owner, S owner → T owner) :
    Only T P P' where
  fresh := h.fresh
  same := fun i hi hT => h.same i hi fun hS => hT (hST _ hS)

theorem modify {i : Nat} (h : S (P.mbuf i).owner) (f : Mbuf → Mbuf) :
    Only S P (P.modify i f) where
  fresh := Nat.le_refl _
  same := fun x _ hS => modify_of_ne (fun hx => hS (by rw [hx]; exact h)) f

theorem setNext {i : Nat} (h : S (P.mbuf i).owner) (q : Option Nat) : Only S P (P.setNext i q) :=
  modify h fun m => { m with omNext := q }

theorem give (h : ∀ i ∈ l, S (P.mbuf i).owner) (owner' : Owner) : Only S P (P.give owner' l) where
  fresh := Nat.le_refl _
  same := fun i _ hS => give_of_not_mem fun hi => hS (h i hi)

theorem osMsysGet (P : Pool) (space : Space) : Only S P (P.osMsysGet space) where
  fresh := Nat.le_succ _
  same := fun _ hi _ => Function.update_of_ne (Nat.ne_of_lt hi) ..

/-- A chain of another owner stays. -/
theorem same_of_holds (h : Only S P P') (hl : P.Holds owner p l) (hS : ¬ S owner) :
    ∀ i ∈ l, P'.mbuf i = P.mbuf i := by
  intro i hi
  refine h.same i (hl.alloc i hi) ?_
  rw [hl.owner i hi]
  exact hS

theorem holds (h : Only S P P') (hl : P.Holds owner p l) (hS : ¬ S owner) : P'.Holds owner p l :=
  hl.frame h.fresh (h.same_of_holds hl hS)

end Only

/-! ## Links -/

theorem setNext_mbuf (i : Nat) (q : Option Nat) (x : Nat) :
    (P.setNext i q).mbuf x
      = { P.mbuf x with omNext := if x = i then q else (P.mbuf x).omNext } := by
  rw [setNext]
  split
  · rename_i hx
    rw [hx, modify_self]
  · rename_i hx
    rw [modify_of_ne hx]

theorem setNext_next (i : Nat) (q : Option Nat) :
    (P.setNext i q).next = Function.update P.next i q := by
  funext x
  rw [next, setNext_mbuf, Function.update_apply]
  rfl

/-- The mbuf behind which a chain goes on is met once. -/
theorem not_mem_of_nodup {r : List Nat} {m : Nat} (h : (l ++ m :: r).Nodup) : m ∉ l :=
  fun hm => (List.disjoint_of_nodup_append h) hm List.mem_cons_self

/-- One mbuf is put behind the last one. -/
theorem Holds.link {m n : Nat} (h : P.Holds owner p (l ++ [m]))
    (hn : P.Holds owner (some n) [n]) (hne : n ∉ l ++ [m]) :
    (P.setNext m (some n)).Holds owner p (l ++ [m] ++ [n]) where
  chain := by
    have hmn : m ∉ [n] := fun hm => hne (by simp [List.mem_singleton.mp hm])
    rw [setNext_next, List.append_assoc]
    exact h.chain.graft (not_mem_of_nodup h.nodup) hmn hn.chain
  nodup := h.nodup.append hn.nodup (List.disjoint_singleton.mpr hne)
  owner := fun i hi => by
    rw [setNext_mbuf]
    rcases List.mem_append.mp hi with hi | hi
    · exact h.owner i hi
    · exact hn.owner i hi
  alloc := fun i hi => (List.mem_append.mp hi).elim (h.alloc i) (hn.alloc i)

/-- A chain is cut behind one of its mbufs. -/
theorem Holds.cut {r : List Nat} {m : Nat} (h : P.Holds owner p (l ++ m :: r)) :
    (P.setNext m none).Holds owner p (l ++ [m]) where
  chain := by
    rw [setNext_next]
    exact h.chain.cut (not_mem_of_nodup h.nodup)
  nodup := h.nodup.sublist (by simp)
  owner := fun i hi => by
    rw [setNext_mbuf]
    exact h.owner i (by simp only [List.mem_append, List.mem_cons] at hi ⊢; tauto)
  alloc := fun i hi => h.alloc i (by simp only [List.mem_append, List.mem_cons] at hi ⊢; tauto)

/-! ## Allocation -/

/-- A chain to receive to, with nothing in it yet. -/
structure BlankChain (P : Pool) (p : Option Nat) (l : List Nat) : Prop where
  holds : P.Holds .rx p l
  blank : ∀ i ∈ l, (P.mbuf i).omLen = 0 ∧ (P.mbuf i).ompLen = 0

/-- The room of a blank chain. -/
def room (P : Pool) (l : List Nat) : Int := (l.map fun i => ((P.mbuf i).space.val : Int)).sum

theorem room_append (l r : List Nat) : P.room (l ++ r) = P.room l + P.room r := by
  rw [room, List.map_append, List.sum_append, room, room]

theorem room_singleton (i : Nat) : P.room [i] = (P.mbuf i).space.val := by
  rw [room, List.map_cons, List.map_nil, List.sum_singleton]

theorem room_congr (hsame : ∀ i ∈ l, (P'.mbuf i).space = (P.mbuf i).space) :
    P'.room l = P.room l :=
  congrArg List.sum (List.map_congr_left fun i hi => by rw [hsame i hi])

theorem osMsysGet_fresh (space : Space) :
    (P.osMsysGet space).mbuf P.fresh = ⟨space, 0, [], none, 0, .rx⟩ :=
  Function.update_self ..

theorem osMsysGet_of_lt {i : Nat} (h : i < P.fresh) (space : Space) :
    (P.osMsysGet space).mbuf i = P.mbuf i :=
  Function.update_of_ne (Nat.ne_of_lt h) ..

/-- The first mbuf of a chain. -/
theorem blankChain_osMsysGet (P : Pool) (space : Space) :
    (P.osMsysGet space).BlankChain (some P.fresh) [P.fresh] where
  holds :=
    { chain := by
        refine ⟨rfl, ?_⟩
        rw [next, osMsysGet_fresh]
        rfl
      nodup := List.nodup_singleton _
      owner := fun i hi => by rw [List.mem_singleton.mp hi, osMsysGet_fresh]
      alloc := fun i hi => by
        rw [List.mem_singleton.mp hi]
        exact Nat.lt_succ_self _ }
  blank := fun i hi => by
    rw [List.mem_singleton.mp hi, osMsysGet_fresh]
    exact ⟨rfl, rfl⟩

theorem BlankChain.extend {m : Nat} (h : P.BlankChain p (l ++ [m])) (space : Space) :
    (P.extend m space).BlankChain p (l ++ [m] ++ [P.fresh]) where
  holds :=
    (h.holds.frame (Nat.le_succ _) fun i hi => osMsysGet_of_lt (h.holds.alloc i hi) space).link
      (blankChain_osMsysGet P space).holds fun hi => Nat.lt_irrefl _ (h.holds.alloc _ hi)
  blank := fun i hi => by
    rw [Pool.extend, setNext_mbuf]
    rcases List.mem_append.mp hi with hi | hi
    · rw [osMsysGet_of_lt (h.holds.alloc i hi)]
      exact h.blank i hi
    · exact (blankChain_osMsysGet P space).blank i hi

theorem room_extend {m : Nat} (h : ∀ i ∈ l, i < P.fresh) (space : Space) :
    (P.extend m space).room (l ++ [P.fresh]) = P.room l + space.val := by
  have hsame : ∀ i ∈ l, ((P.extend m space).mbuf i).space = (P.mbuf i).space := by
    intro i hi
    rw [extend, setNext_mbuf, osMsysGet_of_lt (h i hi)]
  rw [room_append, room_congr hsame, room_singleton, extend, setNext_mbuf, osMsysGet_fresh]

theorem Only.extend {m : Nat} (h : (P.mbuf m).owner = .rx) (hm : m < P.fresh) (space : Space) :
    RxOnly P (P.extend m space) := by
  have hrx : ((P.osMsysGet space).mbuf m).owner = .rx := by rw [osMsysGet_of_lt hm, h]
  exact (Only.osMsysGet P space).trans (Only.setNext hrx (some P.fresh))

/-- The loop makes a blank chain longer, until its room has grown by `need`. -/
theorem grow_spec (gets : List (Option Space)) : ∀ {P : Pool} {l : List Nat} {m : Nat} (need : Int),
    P.BlankChain p (l ++ [m]) → ∃ l', (P.grow m need gets).1.BlankChain p l' ∧
      RxOnly P (P.grow m need gets).1 ∧
      ((P.grow m need gets).2 = true →
        P.room (l ++ [m]) + need ≤ (P.grow m need gets).1.room l') := by
  induction gets with
  | nil =>
      intro P l m need h
      refine ⟨l ++ [m], h, .refl P, fun hok => ?_⟩
      have hneed : need ≤ 0 := of_decide_eq_true hok
      simp only [grow]
      omega
  | cons got gets ih =>
      intro P l m need h
      by_cases hneed : need ≤ 0
      · simp only [grow, if_pos hneed]
        exact ⟨l ++ [m], h, .refl P, fun _ => by omega⟩
      · simp only [grow, if_neg hneed]
        cases got with
        | none => exact ⟨l ++ [m], h, .refl P, fun hok => by cases hok⟩
        | some space =>
            obtain ⟨l', hl', honly, hroom⟩ := ih (need - space.val) (h.extend space)
            have hm := h.holds.owner m (by simp)
            refine ⟨l', hl', (Only.extend hm (h.holds.alloc m (by simp)) space).trans honly,
              fun hok => ?_⟩
            have hgrown := hroom hok
            rw [room_extend h.holds.alloc] at hgrown
            exact Int.le_trans (by omega) hgrown

end Pool

end Rx

end Winc1500
