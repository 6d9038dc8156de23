import MynewtArduinoZero.Lib.Fifo
import MynewtArduinoZero.Espduino.RingBuf

/-!
# The ring as a queue

A run of `RINGBUF_Put` and `RINGBUF_Get` from `RINGBUF_Init` reports what a
bounded queue reports.  A call is one step: the driver's callbacks run in its
interrupt, and the other calls in a critical section.
-/

namespace Esp

open Fifo

/-- A call of the ring: whether it returned 0, and the byte it stored. -/
def ringCall (r : RingBuf) : Op UInt8 → Result UInt8 × RingBuf
  | .put c => ((decide ((ringbufPut r c).1 = 0), none), (ringbufPut r c).2)
  | .get => ((decide ((ringbufGet r).1 = 0), (ringbufGet r).2.1), (ringbufGet r).2.2)

namespace RingBuf

/-- A ring of a size that stands for a queue. -/
structure Holds (size : Int) (r : RingBuf) (q : List UInt8) : Prop where
  wf : WF r
  contents : r.contents = q
  size : r.size = size

theorem Holds.fillCnt {size : Int} {r : RingBuf} {q : List UInt8} (h : Holds size r q) :
    r.fillCnt = q.length := by
  rw [← h.contents, h.wf.length_contents]

/-- A call reports what the queue's does. -/
theorem ringCall_simulates {size : Int} {r : RingBuf} {q : List UInt8} (h : Holds size r q)
    (op : Op UInt8) :
    (ringCall r op).1 = (call size.toNat q op).1 ∧
      Holds size (ringCall r op).2 (call size.toNat q op).2 := by
  have hfill := h.fillCnt
  have hsize := h.size
  cases op with
  | put c =>
      cases Nat.lt_or_ge q.length size.toNat with
      | inl hroom =>
          obtain ⟨hrc, hwf, hcontents, hput⟩ := ringbufPut_room h.wf (by omega) c
          rw [call_put_room hroom]
          refine ⟨?_, ⟨hwf, ?_, hput.trans hsize⟩⟩
          · simp [ringCall, hrc]
          · rw [ringCall, hcontents, h.contents]
      | inr hfull =>
          rw [call_put_full hfull, ringCall, ringbufPut_full (by omega) c]
          exact ⟨rfl, h⟩
  | get =>
      cases q with
      | nil =>
          rw [ringCall, ringbufGet_empty h.wf h.contents]
          exact ⟨rfl, h⟩
      | cons c rest =>
          obtain ⟨r', hget, hwf, hcontents, hget'⟩ := ringbufGet_cons h.wf h.contents
          rw [ringCall, hget]
          exact ⟨rfl, ⟨hwf, hcontents, hget'.trans hsize⟩⟩

/-- What the calls of a run have returned, and the ring they leave, are those of a queue of
`size` bytes. -/
structure IsFifo (size : Int) (ops : List (Op UInt8)) (results : List (Result UInt8))
    (r : RingBuf) : Prop where
  /-- The run of the queue. -/
  queue : (results, r.contents) = calls (call size.toNat) [] ops
  /-- Each byte that was put is got once and in order. -/
  conserved : accepted ops results = taken results ++ r.contents
  put : ∀ c, (ringbufPut r c).1 = 0 ↔ (r.contents.length : Int) < size
  get : (ringbufGet r).1 = 0 ↔ 0 < r.contents.length
  putFailed : ∀ c, (ringbufPut r c).1 ≠ 0 → (ringbufPut r c).2 = r
  getFailed : (ringbufGet r).1 ≠ 0 → (ringbufGet r).2 = (none, r)
  fillCnt : r.fillCnt = r.contents.length
  read : (r.pR : Int) < size
  written : (r.pW : Int) < size
  pointers : r.pW = (r.pR + r.contents.length) % size.toNat

theorem ringbufPut_eq_zero_iff (r : RingBuf) (c : UInt8) :
    (ringbufPut r c).1 = 0 ↔ r.fillCnt < r.size := by
  rw [ringbufPut]
  split
  next hfull => simpa using hfull
  next hroom => simpa using hroom

theorem ringbufGet_eq_zero_iff (r : RingBuf) : (ringbufGet r).1 = 0 ↔ 0 < r.fillCnt := by
  rw [ringbufGet]
  split
  next hempty => simpa using hempty
  next hsome => simpa using hsome

/-- Every run of the two calls from `RINGBUF_Init` is one of a queue of `size` bytes. -/
theorem ringCalls_isFifo (r₀ : RingBuf) (buf : Nat → UInt8) {size : Int} (hsize : 2 ≤ size)
    (ops : List (Op UInt8)) :
    (ringbufInit r₀ buf size).1 = 0 ∧
      IsFifo size ops (calls ringCall (ringbufInit r₀ buf size).2 ops).1
        (calls ringCall (ringbufInit r₀ buf size).2 ops).2 := by
  obtain ⟨hwf, hempty⟩ := ringbufInit_wf r₀ buf hsize
  have hinit : ringbufInit r₀ buf size = (0, { buf, pR := 0, pW := 0, fillCnt := 0, size }) := by
    rw [ringbufInit, if_neg (by omega)]
  have hholds : Holds size (ringbufInit r₀ buf size).2 [] := ⟨hwf, hempty, by rw [hinit]⟩
  obtain ⟨hresults, hlast⟩ := calls_simulates (R := Holds size) (fun _ _ op h => ringCall_simulates h op) ops hholds
  have hconserved := calls_conserved size.toNat ops ([] : List UInt8)
  have hfill := hlast.fillCnt
  have hread := hlast.wf.read
  have hwrite := hlast.wf.write
  rw [← hlast.contents] at hfill
  rw [hlast.size] at hread hwrite
  refine ⟨by rw [hinit], ?_, ?_, ?_, ?_, ?_, ?_, hfill, hread, ?_, ?_⟩
  · rw [hresults, hlast.contents]
  · rw [hresults, hlast.contents]
    exact hconserved
  · intro c
    rw [ringbufPut_eq_zero_iff, hfill, hlast.size]
  · rw [ringbufGet_eq_zero_iff, hfill, Int.natCast_pos]
  · intro c hfailed
    rw [Ne, ringbufPut_eq_zero_iff, not_lt] at hfailed
    rw [ringbufPut_full hfailed]
  · intro hfailed
    rw [Ne, ringbufGet_eq_zero_iff, not_lt] at hfailed
    rw [ringbufGet, if_pos hfailed]
  · rw [hwrite]
    have hlt := Nat.mod_lt
      ((calls ringCall (ringbufInit r₀ buf size).2 ops).2.pR +
        (calls ringCall (ringbufInit r₀ buf size).2 ops).2.fillCnt.toNat)
      (show 0 < size.toNat by omega)
    omega
  · rw [hwrite, hfill, Int.toNat_natCast]

/-- A ring of two bytes, after `RINGBUF_Init`. -/
def ringOfTwo : RingBuf :=
  (ringbufInit { buf := fun _ => 0, pR := 0, pW := 0, fillCnt := 0, size := 0 } (fun _ => 0) 2).2

/-- Two bytes fill it, and a get makes room for one more. -/
theorem ringCalls_isFifo_two :
    IsFifo 2 [.put 1, .put 2, .put 3, .get, .put 4, .get]
      (calls ringCall ringOfTwo [.put 1, .put 2, .put 3, .get, .put 4, .get]).1
      (calls ringCall ringOfTwo [.put 1, .put 2, .put 3, .get, .put 4, .get]).2 :=
  (ringCalls_isFifo _ _ (by decide) _).2

end RingBuf

end Esp
