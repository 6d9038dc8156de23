import Mathlib.Data.List.Basic

/-!
# Runs of cells in a memory

A memory is a function from addresses to cells.  `bytesAt m a n` reads the run
of `n` cells from `a`, and `overlay m a l` stores the list `l` from `a`.  The
lemmas cut runs, cut what is stored, and relate the two.
-/

namespace Cells

variable {β : Type*}

/-! ## Reading -/

/-- The `n` cells of `m` from `a`. -/
def bytesAt (m : Nat → β) (a n : Nat) : List β := (List.range n).map fun i => m (a + i)

@[simp] theorem length_bytesAt (m : Nat → β) (a n : Nat) : (bytesAt m a n).length = n := by
  simp [bytesAt]

@[simp] theorem bytesAt_zero (m : Nat → β) (a : Nat) : bytesAt m a 0 = [] := rfl

@[simp] theorem getElem_bytesAt (m : Nat → β) (a n i : Nat) (h : i < (bytesAt m a n).length) :
    (bytesAt m a n)[i] = m (a + i) := by
  simp [bytesAt]

theorem bytesAt_succ (m : Nat → β) (a n : Nat) :
    bytesAt m a (n + 1) = m a :: bytesAt m (a + 1) n := by
  simp [bytesAt, List.range_succ_eq_map, Function.comp_def, Nat.add_assoc, Nat.add_comm 1]

theorem bytesAt_add (m : Nat → β) (a j n : Nat) :
    bytesAt m a (j + n) = bytesAt m a j ++ bytesAt m (a + j) n := by
  simp [bytesAt, List.range_add, Nat.add_assoc]

/-- A part of a run, cut out of the whole run. -/
theorem take_drop_bytesAt (m : Nat → β) {a j n l : Nat} (h : j + n ≤ l) :
    ((bytesAt m a l).drop j).take n = bytesAt m (a + j) n := by
  obtain ⟨r, rfl⟩ := Nat.exists_eq_add_of_le h
  rw [Nat.add_assoc, bytesAt_add, List.drop_left' (length_bytesAt ..), bytesAt_add,
    List.take_left' (length_bytesAt ..)]

theorem take_bytesAt (m : Nat → β) {a n l : Nat} (h : n ≤ l) :
    (bytesAt m a l).take n = bytesAt m a n := by
  obtain ⟨r, rfl⟩ := Nat.exists_eq_add_of_le h
  rw [bytesAt_add, List.take_left' (length_bytesAt ..)]

theorem bytesAt_congr {m m' : Nat → β} {a n : Nat} (h : ∀ i < n, m (a + i) = m' (a + i)) :
    bytesAt m a n = bytesAt m' a n :=
  List.map_congr_left fun i hi => h i (List.mem_range.mp hi)

/-- A run that is a concatenation, cut where its left part ends. -/
theorem bytesAt_eq_append {m : Nat → β} {a n : Nat} {s t : List β}
    (h : bytesAt m a n = s ++ t) :
    bytesAt m a s.length = s ∧ bytesAt m (a + s.length) t.length = t := by
  have hlen : n = s.length + t.length := by
    rw [← List.length_append, ← h, length_bytesAt]
  subst hlen
  rw [bytesAt_add] at h
  exact List.append_inj h (length_bytesAt ..)

/-! ## Storing -/

/-- The memory after the list `l` is stored from `a`. -/
def overlay (m : Nat → β) (a : Nat) (l : List β) : Nat → β := fun x =>
  if a ≤ x then (l[x - a]?).getD (m x) else m x

theorem overlay_nil (m : Nat → β) (a : Nat) : overlay m a [] = m := by
  funext x
  simp [overlay]

theorem overlay_congr {m m' : Nat → β} {x : Nat} (h : m x = m' x) (a : Nat) (l : List β) :
    overlay m a l x = overlay m' a l x := by
  simp only [overlay, h]

theorem overlay_of_lt {m : Nat → β} {a x : Nat} {l : List β} (h : x < a) :
    overlay m a l x = m x := by
  rw [overlay, if_neg (Nat.not_le.mpr h)]

theorem overlay_of_le {m : Nat → β} {a x : Nat} {l : List β} (h : a + l.length ≤ x) :
    overlay m a l x = m x := by
  rw [overlay, if_pos (by omega), List.getElem?_eq_none (by omega), Option.getD_none]

/-- A cell outside the stored range is kept. -/
theorem overlay_of_not_mem {m : Nat → β} {a x : Nat} {l : List β}
    (h : ¬ (a ≤ x ∧ x < a + l.length)) : overlay m a l x = m x := by
  by_cases hx : x < a
  · exact overlay_of_lt hx
  · exact overlay_of_le (by omega)

theorem overlay_add (m : Nat → β) (a : Nat) {i : Nat} {l : List β} (h : i < l.length) :
    overlay m a l (a + i) = l[i] := by
  rw [overlay, if_pos (by omega), Nat.add_sub_cancel_left, List.getElem?_eq_getElem h,
    Option.getD_some]

theorem overlay_singleton (m : Nat → β) (a : Nat) (b : β) :
    overlay m a [b] = fun x => if x = a then b else m x := by
  funext x
  by_cases hx : x = a
  · subst hx
    rw [if_pos rfl]
    exact overlay_add m x (l := [b]) (i := 0) Nat.one_pos
  · rw [if_neg hx]
    exact overlay_of_not_mem (by rw [List.length_singleton]; omega)

theorem overlay_append (m : Nat → β) (a : Nat) (s t : List β) :
    overlay (overlay m a s) (a + s.length) t = overlay m a (s ++ t) := by
  funext x
  by_cases hs : x < a + s.length
  · rw [overlay_of_lt hs]
    simp only [overlay]
    split
    · rw [List.getElem?_append_left (by omega)]
    · rfl
  · simp only [overlay]
    rw [if_pos (by omega), if_pos (by omega), if_pos (by omega),
      List.getElem?_append_right (by omega), show x - (a + s.length) = x - a - s.length by omega,
      List.getElem?_eq_none (l := s) (by omega), Option.getD_none]

/-- What was stored is read back. -/
theorem bytesAt_overlay (m : Nat → β) (a : Nat) (l : List β) :
    bytesAt (overlay m a l) a l.length = l :=
  List.ext_getElem (length_bytesAt ..) fun i hi hi' => by
    rw [getElem_bytesAt, overlay_add m a hi']

/-- A run before the stored range reads as before. -/
theorem bytesAt_overlay_of_le {m : Nat → β} {a b n : Nat} {l : List β} (h : b + n ≤ a) :
    bytesAt (overlay m a l) b n = bytesAt m b n :=
  bytesAt_congr fun i hi => overlay_of_lt (by omega)

/-- A run behind the stored range reads as before. -/
theorem bytesAt_overlay_of_ge {m : Nat → β} {a b n : Nat} {l : List β} (h : a + l.length ≤ b) :
    bytesAt (overlay m a l) b n = bytesAt m b n :=
  bytesAt_congr fun i _ => overlay_of_le (by omega)

end Cells
