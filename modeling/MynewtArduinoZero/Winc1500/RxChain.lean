import MynewtArduinoZero.Winc1500.Mbuf

/-!
# Packets

What happens to the chain of mbufs at `rx_buf` while a reply is received to it.
`Filling` splits it into the mbufs that are full and those that are empty still;
the first chunk makes a full one of the first empty one, and so on (`fill`).
When the reply is complete, the empty ones are cut off and freed, and the chain
changes hands (`packet`).
-/

namespace Winc1500

namespace Rx

namespace Pool

variable {P P' : Pool}

/-- A chunk is written to `cur` and accounted to it and to the packet header of `rx`. -/
def fill (P : Pool) (rx cur : Nat) (data : List UInt8) : Pool :=
  let P := P.modify cur fun m => m.write data
  let P := P.modify rx fun m => { m with ompLen := m.ompLen + data.length }
  P.modify cur fun m => { m with omLen := data.length }

/-- The mbufs behind `cur` are freed and cut off. -/
def truncate (P : Pool) (cur : Nat) : Pool :=
  (P.give .free (P.chainFrom (P.next cur))).setNext cur none

theorem fill_mbuf (rx cur : Nat) (data : List UInt8) (i : Nat) :
    (P.fill rx cur data).mbuf i
      = { P.mbuf i with
          omLen := if i = cur then data.length else (P.mbuf i).omLen
          omData :=
            if i = cur then data ++ (P.mbuf i).omData.drop data.length else (P.mbuf i).omData
          ompLen := if i = rx then (P.mbuf i).ompLen + data.length else (P.mbuf i).ompLen } := by
  rcases eq_or_ne i cur with rfl | hcur
  · rcases eq_or_ne i rx with rfl | hrx
    · simp [fill, modify, Mbuf.write]
    · simp [fill, modify, Mbuf.write, hrx]
  · rcases eq_or_ne i rx with rfl | hrx
    · simp [fill, modify, hcur]
    · simp [fill, modify, hcur, hrx]

/-- What is in an mbuf does not matter to its chain. -/
theorem Holds.modify {owner : Owner} {p : Option Nat} {l : List Nat} (h : P.Holds owner p l)
    {i : Nat} {f : Mbuf → Mbuf} (hnext : (f (P.mbuf i)).omNext = (P.mbuf i).omNext)
    (howner : (f (P.mbuf i)).owner = (P.mbuf i).owner) : (P.modify i f).Holds owner p l where
  chain := h.chain.frame fun x _ => by
    rcases eq_or_ne x i with rfl | hne
    · rw [next, modify_self, hnext, next]
    · rw [next, modify_of_ne hne, next]
  nodup := h.nodup
  owner := fun x hx => by
    rcases eq_or_ne x i with rfl | hne
    · rw [modify_self, howner]
      exact h.owner x hx
    · rw [modify_of_ne hne]
      exact h.owner x hx
  alloc := h.alloc

theorem Holds.fill {owner : Owner} {p : Option Nat} {l : List Nat} (h : P.Holds owner p l)
    (rx cur : Nat) (data : List UInt8) : (P.fill rx cur data).Holds owner p l := by
  unfold Pool.fill
  dsimp only
  refine Holds.modify (Holds.modify (Holds.modify h ?_ ?_) ?_ ?_) ?_ ?_ <;> rfl

/-- The chain at `b`: the mbufs of `filled` hold `data`, those of `empty` nothing. -/
structure Filling (P : Pool) (b : Nat) (filled empty : List Nat) (data : List UInt8) : Prop where
  holds : P.Holds .rx (some b) (filled ++ empty)
  bytes : P.bytes filled = data
  lens : (P.lens filled).sum = data.length
  pktLen : (P.mbuf b).ompLen = data.length
  blank : ∀ i ∈ empty, (P.mbuf i).omLen = 0

/-- A chain begins where it is pointed to. -/
theorem Holds.head {owner : Owner} {b : Nat} {l : List Nat} (h : P.Holds owner (some b) l) :
    ∃ rest, l = b :: rest := by
  have hchain := h.chain
  cases l with
  | nil => cases hchain
  | cons a l =>
      cases hchain.1
      exact ⟨l, rfl⟩

theorem Holds.head_mem {owner : Owner} {b : Nat} {l : List Nat} (h : P.Holds owner (some b) l) :
    b ∈ l := by
  obtain ⟨rest, rfl⟩ := h.head
  exact List.mem_cons_self

/-- The part of a chain behind one of its mbufs. -/
theorem Holds.behind {owner : Owner} {p : Option Nat} {l r : List Nat} {m : Nat}
    (h : P.Holds owner p (l ++ m :: r)) : P.Holds owner (P.next m) r where
  chain := h.chain.behind
  nodup := (List.nodup_cons.mp (List.nodup_append.mp h.nodup).2.1).2
  owner := fun i hi => h.owner i (List.mem_append_right l (List.mem_cons_of_mem m hi))
  alloc := fun i hi => h.alloc i (List.mem_append_right l (List.mem_cons_of_mem m hi))

theorem BlankChain.filling {b : Nat} {l : List Nat} (h : P.BlankChain (some b) l) :
    P.Filling b [] l [] where
  holds := h.holds
  bytes := rfl
  lens := rfl
  pktLen := (h.blank b h.holds.head_mem).2
  blank := fun i hi => (h.blank i hi).1

namespace Filling

variable {b cur : Nat} {filled empty : List Nat} {data : List UInt8}

/-- The next empty mbuf gets a chunk. -/
theorem fill (h : P.Filling b filled (cur :: empty) data) (chunk : List UInt8) :
    (P.fill b cur chunk).Filling b (filled ++ [cur]) empty (data ++ chunk) := by
  have hfull : ∀ i ∈ filled, i ≠ cur := fun i hi =>
    ne_of_mem_of_not_mem hi (not_mem_of_nodup h.holds.nodup)
  have hempty : cur ∉ empty := (List.nodup_cons.mp (List.nodup_append.mp h.holds.nodup).2.1).1
  exact
    { holds := by
        rw [List.append_assoc]
        exact h.holds.fill b cur chunk
      bytes := by
        rw [bytes_append, bytes_congr (P := P) (l := filled), h.bytes, Pool.bytes,
          List.flatMap_cons, List.flatMap_nil, List.append_nil, Mbuf.bytes, fill_mbuf]
        · simp
        · intro i hi
          rw [Mbuf.bytes, fill_mbuf]
          simp [hfull i hi, Mbuf.bytes]
      lens := by
        rw [lens_append, lens_congr (P := P) (l := filled), List.sum_append, h.lens, Pool.lens,
          List.map_singleton, List.sum_singleton, fill_mbuf, List.length_append]
        · simp
        · intro i hi
          rw [fill_mbuf]
          simp [hfull i hi]
      pktLen := by
        rw [fill_mbuf, List.length_append, ← h.pktLen]
        exact if_pos rfl
      blank := by
        intro i hi
        rw [fill_mbuf]
        have hne : i ≠ cur := ne_of_mem_of_not_mem hi hempty
        simp [hne, h.blank i (List.mem_cons_of_mem cur hi)] }

theorem truncate_mbuf (h : P.Filling b (filled ++ [cur]) empty data) {i : Nat}
    (hi : i ∈ filled ++ [cur]) :
    (P.truncate cur).mbuf i
      = { P.mbuf i with omNext := if i = cur then none else (P.mbuf i).omNext } := by
  have hholds := h.holds
  rw [List.append_assoc] at hholds
  have hchain : P.chainFrom (P.next cur) = empty := hholds.behind.chainFrom
  have hnot : i ∉ empty := fun hmem => (List.disjoint_of_nodup_append h.holds.nodup) hi hmem
  rw [Pool.truncate, setNext_mbuf, hchain, give_of_not_mem hnot]

/-- What is left of the chain is freed. -/
theorem truncate (h : P.Filling b (filled ++ [cur]) empty data) :
    (P.truncate cur).Filling b (filled ++ [cur]) [] data := by
  have hholds := h.holds
  rw [List.append_assoc] at hholds
  have hold : ∀ i ∈ filled ++ [cur], i ∈ filled ++ [cur] ++ empty := fun i hi =>
    List.mem_append_left empty hi
  exact
    { holds :=
        { chain := by
            rw [List.append_nil, Pool.truncate, setNext_next, give_next]
            exact hholds.chain.cut (not_mem_of_nodup hholds.nodup)
          nodup := by
            rw [List.append_nil]
            exact (List.nodup_append.mp h.holds.nodup).1
          owner := by
            rw [List.append_nil]
            intro i hi
            rw [h.truncate_mbuf hi]
            exact h.holds.owner i (hold i hi)
          alloc := by
            rw [List.append_nil]
            exact fun i hi => h.holds.alloc i (hold i hi) }
      bytes := by
        rw [bytes_congr (P := P), h.bytes]
        intro i hi
        rw [h.truncate_mbuf hi]
        rfl
      lens := by
        rw [lens_congr (P := P), h.lens]
        intro i hi
        rw [h.truncate_mbuf hi]
      pktLen := by
        have hb : b ∈ filled ++ [cur] := by
          obtain ⟨rest, hrest⟩ := h.holds.head
          cases filled with
          | nil =>
              cases hrest
              exact List.mem_cons_self
          | cons a filled =>
              cases hrest
              exact List.mem_cons_self
        rw [h.truncate_mbuf hb]
        exact h.pktLen
      blank := fun i hi => by cases hi }

end Filling

/-! ## What does not touch a chain -/

/-- A packet in `ws_rx`. -/
def Packet (P : Pool) (sock head : Nat) (data : List UInt8) : Prop :=
  ∃ l, P.Holds (.queued sock head) (some head) l ∧ P.bytes l = data

variable {S : Owner → Prop} {b cur : Nat} {filled empty : List Nat} {data : List UInt8}

theorem Packet.only (h : Only S P P') {sock head : Nat} (hp : P.Packet sock head data)
    (hS : ¬ S (.queued sock head)) : P'.Packet sock head data := by
  obtain ⟨l, hl, hbytes⟩ := hp
  have hsame := h.same_of_holds hl hS
  refine ⟨l, h.holds hl hS, ?_⟩
  rw [bytes_congr (P := P) fun i hi => by rw [hsame i hi], hbytes]

/-- A complete packet changes hands. -/
theorem Filling.packet (h : P.Filling b filled [] data) (sock : Nat) :
    (P.give (.queued sock b) filled).Packet sock b data := by
  have hholds := h.holds
  rw [List.append_nil] at hholds
  refine ⟨filled, hholds.give _, ?_⟩
  rw [bytes_congr (P := P), h.bytes]
  intro i hi
  rw [give_of_mem hi]
  rfl

theorem Filling.only (h : P.Filling b filled empty data) (ho : Only S P P') (hS : ¬ S .rx) :
    P'.Filling b filled empty data := by
  have hsame := ho.same_of_holds h.holds hS
  have hb := hsame b h.holds.head_mem
  exact
    { holds := ho.holds h.holds hS
      bytes := by
        rw [bytes_congr (P := P) fun i hi => by rw [hsame i (List.mem_append_left empty hi)],
          h.bytes]
      lens := by
        rw [lens_congr (P := P) fun i hi => by rw [hsame i (List.mem_append_left empty hi)], h.lens]
      pktLen := by rw [hb, h.pktLen]
      blank := fun i hi => by rw [hsame i (List.mem_append_right filled hi), h.blank i hi] }

theorem RxOnly.fill (hb : (P.mbuf b).owner = .rx) (hcur : (P.mbuf cur).owner = .rx)
    (chunk : List UInt8) : RxOnly P (P.fill b cur chunk) where
  fresh := Nat.le_refl _
  same := fun i _ hrx => by
    have hib : i ≠ b := fun heq => hrx (by rw [heq, hb])
    have hicur : i ≠ cur := fun heq => hrx (by rw [heq, hcur])
    rw [fill_mbuf, if_neg hicur, if_neg hicur, if_neg hib]

theorem Filling.rxOnly_truncate (h : P.Filling b (filled ++ [cur]) empty data) :
    RxOnly P (P.truncate cur) := by
  have hholds := h.holds
  rw [List.append_assoc] at hholds
  have hchain : P.chainFrom (P.next cur) = empty := hholds.behind.chainFrom
  have hcur : cur ∉ empty := fun hmem =>
    (List.disjoint_of_nodup_append h.holds.nodup) (List.mem_append_right filled
      List.mem_cons_self) hmem
  have hrx : ((P.give .free empty).mbuf cur).owner = .rx := by
    rw [give_of_not_mem hcur]
    exact h.holds.owner cur (by simp)
  rw [Pool.truncate, hchain]
  exact (Only.give (fun i hi => h.holds.owner i (List.mem_append_right _ hi)) _).trans
    (Only.setNext hrx none)

end Pool

end Rx

end Winc1500
