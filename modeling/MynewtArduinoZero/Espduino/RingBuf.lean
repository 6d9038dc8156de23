import MynewtArduinoZero.Lib.Ring
import Mathlib.Data.UInt

/-!
# The ring buffer

`ringbuf.c`.  The pointers are offsets from `p_o`, and `buf` is the memory they
point into.  `contents` is the queue that a ring stands for: `RINGBUF_Put` puts
a byte at its end, unless it is full, and `RINGBUF_Get` takes the first one.
-/

namespace Esp

/-- `RINGBUF`. -/
structure RingBuf where
  /-- The memory from `p_o` on. -/
  buf : Nat → UInt8
  /-- `p_r - p_o`. -/
  pR : Nat
  /-- `p_w - p_o`. -/
  pW : Nat
  fillCnt : Int
  size : Int

/-- `RINGBUF_Init` for buffers that are not NULL. -/
def ringbufInit (r : RingBuf) (buf : Nat → UInt8) (size : Int) : Int × RingBuf :=
  if size < 2 then (-1, r)
  else (0, { buf := buf, pR := 0, pW := 0, fillCnt := 0, size := size })

/-- `RINGBUF_Put`. -/
def ringbufPut (r : RingBuf) (c : UInt8) : Int × RingBuf :=
  if r.fillCnt ≥ r.size then (-1, r)
  else
    (0, { r with
      fillCnt := r.fillCnt + 1
      buf := Function.update r.buf r.pW c
      pW := if (r.pW + 1 : Int) ≥ r.size then 0 else r.pW + 1 })

/-- `RINGBUF_Get`, with the byte it stores. -/
def ringbufGet (r : RingBuf) : Int × Option UInt8 × RingBuf :=
  if r.fillCnt ≤ 0 then (-1, none, r)
  else
    (0, some (r.buf r.pR),
      { r with
        fillCnt := r.fillCnt - 1
        pR := if (r.pR + 1 : Int) ≥ r.size then 0 else r.pR + 1 })

namespace RingBuf

/-- The bytes in the ring, the oldest first. -/
def contents (r : RingBuf) : List UInt8 :=
  Ring.window r.buf r.size.toNat r.pR r.fillCnt.toNat

/-- A ring that `RINGBUF_Init` and the two operations have made. -/
structure WF (r : RingBuf) : Prop where
  filled : 0 ≤ r.fillCnt ∧ r.fillCnt ≤ r.size
  read : (r.pR : Int) < r.size
  write : r.pW = (r.pR + r.fillCnt.toNat) % r.size.toNat

theorem WF.length_contents {r : RingBuf} (hr : WF r) : (r.contents.length : Int) = r.fillCnt := by
  rw [contents, Ring.length_window]
  exact Int.toNat_of_nonneg hr.filled.1

theorem ringbufInit_wf (r : RingBuf) (buf : Nat → UInt8) {size : Int} (hsize : 2 ≤ size) :
    WF (ringbufInit r buf size).2 ∧ (ringbufInit r buf size).2.contents = [] := by
  rw [ringbufInit, if_neg (by omega)]
  exact ⟨⟨⟨le_rfl, by dsimp only; omega⟩, by dsimp only; omega, by simp⟩, rfl⟩

/-- A byte is put at the end of a ring that is not full. -/
theorem ringbufPut_room {r : RingBuf} (hr : WF r) (hroom : r.fillCnt < r.size) (c : UInt8) :
    (ringbufPut r c).1 = 0 ∧ WF (ringbufPut r c).2 ∧
      (ringbufPut r c).2.contents = r.contents ++ [c] ∧ (ringbufPut r c).2.size = r.size := by
  obtain ⟨hnonneg, hle⟩ := hr.filled
  have hread := hr.read
  have hsize : 0 < r.size.toNat := by omega
  have hpW : r.pW < r.size.toNat := hr.write ▸ Nat.mod_lt _ hsize
  have hnext : (if (r.pW + 1 : Int) ≥ r.size then 0 else r.pW + 1) = (r.pW + 1) % r.size.toNat := by
    rw [← Ring.next_eq hpW]
    exact if_congr (by omega) rfl rfl
  have hcount : (r.fillCnt + 1).toNat = r.fillCnt.toNat + 1 := by omega
  rw [ringbufPut, if_neg (by omega)]
  refine ⟨rfl, ⟨⟨?_, ?_⟩, hread, ?_⟩, ?_, rfl⟩
  · dsimp only
    omega
  · dsimp only
    omega
  · dsimp only
    rw [hnext, hr.write, hcount, Nat.mod_add_mod, Nat.add_assoc]
  · simp only [contents, hcount]
    rw [hr.write]
    exact Ring.window_update r.buf (by omega) c

/-- A full ring takes nothing. -/
theorem ringbufPut_full {r : RingBuf} (hfull : r.size ≤ r.fillCnt) (c : UInt8) :
    ringbufPut r c = (-1, r) := by
  rw [ringbufPut, if_pos hfull]

/-- An empty ring has nothing to give. -/
theorem ringbufGet_empty {r : RingBuf} (hr : WF r) (h : r.contents = []) :
    ringbufGet r = (-1, none, r) := by
  have hlen := hr.length_contents
  rw [h, List.length_nil] at hlen
  rw [ringbufGet, if_pos (by omega)]

/-- The first byte is taken. -/
theorem ringbufGet_cons {r : RingBuf} (hr : WF r) {c : UInt8} {l : List UInt8}
    (h : r.contents = c :: l) :
    ∃ r', ringbufGet r = (0, some c, r') ∧ WF r' ∧ r'.contents = l ∧ r'.size = r.size := by
  have hlen := hr.length_contents
  have hread := hr.read
  obtain ⟨hnonneg, hle⟩ := hr.filled
  rw [h, List.length_cons] at hlen
  have hpos : 0 < r.fillCnt := by omega
  have hpR : r.pR < r.size.toNat := by omega
  have hnext : (if (r.pR + 1 : Int) ≥ r.size then 0 else r.pR + 1) = (r.pR + 1) % r.size.toNat := by
    rw [← Ring.next_eq hpR]
    exact if_congr (by omega) rfl rfl
  have hcount : r.fillCnt.toNat = (r.fillCnt - 1).toNat + 1 := by omega
  have hwindow := h
  rw [contents, hcount, Ring.window_succ r.buf hpR, List.cons.injEq] at hwindow
  obtain ⟨hfirst, hrest⟩ := hwindow
  rw [ringbufGet, if_neg (by omega), hfirst]
  refine ⟨_, rfl, ⟨⟨?_, ?_⟩, ?_, ?_⟩, ?_, rfl⟩
  · dsimp only
    omega
  · dsimp only
    omega
  · dsimp only
    rw [hnext]
    have hlt := Nat.mod_lt (r.pR + 1) (show 0 < r.size.toNat by omega)
    omega
  · dsimp only
    rw [hr.write, hnext, Nat.mod_add_mod, hcount]
    congr 1
    omega
  · simp only [contents, hnext]
    exact hrest

end RingBuf

end Esp
