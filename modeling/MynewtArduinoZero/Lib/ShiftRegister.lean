import Mathlib.Tactic.Common

/-!
# Feedback shift registers

A register of `w` bits takes a message bit by bit: it moves up by one, and takes
the exclusive or with `poly` where the bit that leaves it differs from the bit
that comes in.  Its last value is the cyclic redundancy code of the message.

The register is linear in its value and the message.  Where the lowest bit of
`poly` is set, it keeps values apart, and it tells two messages apart that
differ in at most `w` bits in a row (`eq_of_run_eq`).
-/

namespace ShiftRegister

variable {w : Nat} (poly : BitVec w)

/-- One bit comes in. -/
def feed (s : BitVec w) (b : Bool) : BitVec w :=
  (s <<< 1) ^^^ (if s.msb ^^ b then poly else 0#w)

/-- A message comes in. -/
def run (s : BitVec w) (bs : List Bool) : BitVec w := bs.foldl (feed poly) s

@[simp] theorem run_nil (s : BitVec w) : run poly s [] = s := rfl

@[simp] theorem run_cons (s : BitVec w) (b : Bool) (bs : List Bool) :
    run poly s (b :: bs) = run poly (feed poly s b) bs := rfl

theorem run_append (s : BitVec w) (bs cs : List Bool) :
    run poly s (bs ++ cs) = run poly (run poly s bs) cs := List.foldl_append

/-! ## Linearity -/

theorem feedback_xor (a b : Bool) :
    (if a ^^ b then poly else 0#w) = (if a then poly else 0#w) ^^^ (if b then poly else 0#w) := by
  cases a <;> cases b <;> simp

theorem feed_xor (s t : BitVec w) (a b : Bool) :
    feed poly (s ^^^ t) (a ^^ b) = feed poly s a ^^^ feed poly t b := by
  have hshift : (s ^^^ t) <<< 1 = (s <<< 1) ^^^ (t <<< 1) := BitVec.shiftLeft_xor_distrib ..
  have hbits : ((s.msb ^^ t.msb) ^^ (a ^^ b)) = ((s.msb ^^ a) ^^ (t.msb ^^ b)) := by
    cases s.msb <;> cases t.msb <;> cases a <;> cases b <;> rfl
  rw [feed, BitVec.msb_xor, hshift, hbits, feedback_xor, feed, feed]
  ac_rfl

theorem run_xor (s t : BitVec w) {as bs : List Bool} (h : as.length = bs.length) :
    run poly (s ^^^ t) (List.zipWith xor as bs) = run poly s as ^^^ run poly t bs := by
  induction as generalizing s t bs with
  | nil =>
      cases bs with
      | nil => rfl
      | cons b bs => cases h
  | cons a as ih =>
      cases bs with
      | nil => cases h
      | cons b bs =>
          rw [List.zipWith_cons_cons, run_cons, feed_xor]
          exact ih _ _ (Nat.succ.inj h)

@[simp] theorem feed_zero_false : feed poly 0#w false = 0#w := by simp [feed]

@[simp] theorem run_zero_replicate (n : Nat) : run poly 0#w (List.replicate n false) = 0#w := by
  induction n with
  | zero => rfl
  | succ n ih => rw [List.replicate_succ, run_cons, feed_zero_false, ih]

/-! ## Bursts -/

variable {poly}

/-- The feedback shows in the lowest bit. -/
theorem getLsbD_feed_zero (hpoly : poly.getLsbD 0) (s : BitVec w) (b : Bool) :
    (feed poly s b).getLsbD 0 = (s.msb ^^ b) := by
  rw [feed, BitVec.getLsbD_xor]
  cases s.msb <;> cases b <;> simp [hpoly]

/-- There is no feedback in a run that leaves as many low bits clear as it has steps. -/
theorem run_eq_shiftLeft (hpoly : poly.getLsbD 0) {d : BitVec w} {es : List Bool} {m : Nat}
    (hm : es.length ≤ m) (hw : m ≤ w) (h : ∀ i < m, (run poly d es).getLsbD i = false) :
    run poly d es = d <<< es.length := by
  induction es generalizing d with
  | nil => simp
  | cons e es ih =>
      rw [List.length_cons] at hm
      have hrun := ih (Nat.le_of_succ_le hm) h
      have hlow : (feed poly d e).getLsbD 0 = false := by
        have hbit := h es.length (by omega)
        rw [run_cons, hrun, BitVec.getLsbD_shiftLeft] at hbit
        simpa [show es.length < w by omega] using hbit
      have hfeed : feed poly d e = d <<< 1 := by
        rw [getLsbD_feed_zero hpoly] at hlow
        simp [feed, hlow]
      rw [run_cons, hrun, hfeed, ← BitVec.shiftLeft_add, List.length_cons, Nat.add_comm 1]

/-- A short message that takes the zero register to zero has no bit set. -/
theorem eq_false_of_run_zero (hpoly : poly.getLsbD 0) {es : List Bool} (hw : es.length ≤ w)
    (h : run poly 0#w es = 0#w) : ∀ e ∈ es, e = false := by
  induction es with
  | nil => simp
  | cons e es ih =>
      rw [List.length_cons] at hw
      have hrun : run poly (feed poly 0#w e) es = feed poly 0#w e <<< es.length :=
        run_eq_shiftLeft hpoly (Nat.le_refl _) (Nat.le_of_succ_le hw) fun i _ => by
          rw [run_cons] at h
          simp [h]
      have hlow : (feed poly 0#w e).getLsbD 0 = false := by
        have hbit : (feed poly 0#w e <<< es.length).getLsbD es.length = false := by
          rw [← hrun, ← run_cons, h, BitVec.getLsbD_zero]
        rw [BitVec.getLsbD_shiftLeft] at hbit
        simpa [show es.length < w by omega] using hbit
      have he : e = false := by
        rw [getLsbD_feed_zero hpoly] at hlow
        simpa using hlow
      subst he
      rw [run_cons, feed_zero_false] at h
      simpa using ih (Nat.le_of_succ_le hw) h

theorem eq_zero_of_feed_eq_zero (hpoly : poly.getLsbD 0) {d : BitVec w}
    (h : feed poly d false = 0#w) : d = 0#w := by
  have hlow := getLsbD_feed_zero hpoly d false
  rw [h, BitVec.getLsbD_zero] at hlow
  have hmsb : d.msb = false := by simpa using hlow.symm
  rw [feed, hmsb] at h
  have hshift : d <<< 1 = 0#w := by simpa using h
  refine BitVec.eq_of_getLsbD_eq fun i hi => ?_
  rcases Nat.lt_or_ge (i + 1) w with hlt | hge
  · have hbit : (d <<< 1).getLsbD (i + 1) = false := by rw [hshift, BitVec.getLsbD_zero]
    rw [BitVec.getLsbD_shiftLeft] at hbit
    simpa [hlt] using hbit
  · have hi : i = w - 1 := by omega
    rw [BitVec.getLsbD_zero, hi, ← BitVec.msb_eq_getLsbD_last, hmsb]

/-- A message keeps registers apart. -/
theorem run_inj (hpoly : poly.getLsbD 0) {s t : BitVec w} {bs : List Bool}
    (h : run poly s bs = run poly t bs) : s = t := by
  induction bs generalizing s t with
  | nil => exact h
  | cons b bs ih =>
      have hfeed : feed poly s b = feed poly t b := ih h
      have hdiff : feed poly (s ^^^ t) false = 0#w := by
        rw [← Bool.xor_self b, feed_xor, hfeed, BitVec.xor_self]
      exact BitVec.xor_eq_zero_iff.mp (eq_zero_of_feed_eq_zero hpoly hdiff)

/-- Two messages with one code that differ in a burst as long as the register at most are
equal. -/
theorem eq_of_run_eq (hpoly : poly.getLsbD 0) {s : BitVec w} {before es fs behind : List Bool}
    (hlen : es.length = fs.length) (hw : es.length ≤ w)
    (h : run poly s (before ++ es ++ behind) = run poly s (before ++ fs ++ behind)) :
    es = fs := by
  rw [run_append, run_append, run_append, run_append] at h
  have hburst := run_inj hpoly h
  have hdiff : run poly 0#w (List.zipWith xor es fs) = 0 := by
    have hxor := run_xor poly (run poly s before) (run poly s before) hlen
    rwa [hburst, BitVec.xor_self, BitVec.xor_self] at hxor
  have hsame := eq_false_of_run_zero hpoly (by rw [List.length_zipWith]; omega) hdiff
  refine List.ext_getElem hlen fun i hi hi' => ?_
  have hbit : xor es[i] fs[i] = false := by
    refine hsame _ (List.mem_iff_getElem.mpr ⟨i, ?_, ?_⟩)
    · rw [List.length_zipWith]
      omega
    · rw [List.getElem_zipWith]
  simpa using hbit

/-! ## The bits of a word -/

/-- The highest `k` bits of a word, the highest first. -/
def msbs : (k : Nat) → BitVec w → List Bool
  | 0, _ => []
  | k + 1, x => x.msb :: msbs k (x <<< 1)

@[simp] theorem length_msbs : ∀ (k : Nat) (x : BitVec w), (msbs k x).length = k
  | 0, _ => rfl
  | k + 1, x => by rw [msbs, List.length_cons, length_msbs k]

theorem msbs_xor : ∀ (k : Nat) (x y : BitVec w),
    msbs k (x ^^^ y) = List.zipWith xor (msbs k x) (msbs k y)
  | 0, _, _ => rfl
  | k + 1, x, y => by
      have hshift : (x ^^^ y) <<< 1 = (x <<< 1) ^^^ (y <<< 1) := BitVec.shiftLeft_xor_distrib ..
      rw [msbs, BitVec.msb_xor, hshift, msbs_xor k, msbs, msbs, List.zipWith_cons_cons]

/-- A register that takes its own bits empties. -/
theorem run_msbs : ∀ (k : Nat) (s : BitVec w), run poly s (msbs k s) = s <<< k
  | 0, s => by simp [msbs]
  | k + 1, s => by
      have hfeed : feed poly s s.msb = s <<< 1 := by simp [feed]
      rw [msbs, run_cons, hfeed, run_msbs k, ← BitVec.shiftLeft_add, Nat.add_comm 1]

/-- The value of a register can be added to the first bits of the message instead. -/
theorem run_eq_run_zero {s : BitVec w} {k : Nat} (hk : w ≤ k) {bs : List Bool}
    (hlen : bs.length = k) :
    run poly s bs = run poly 0#w (List.zipWith xor bs (msbs k s)) := by
  have hboth : bs.length = (msbs k s).length := by rw [hlen, length_msbs]
  have hxor := run_xor poly s s hboth
  rw [BitVec.xor_self, run_msbs, BitVec.shiftLeft_eq_zero hk, BitVec.xor_zero] at hxor
  exact hxor.symm

end ShiftRegister
