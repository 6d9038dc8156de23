import Mathlib.Data.List.Basic

/-!
# Byte stuffing

A frame is sent between delimiters, and a byte of the payload that would be
taken for a delimiter is sent as an escape byte followed by a changed copy of
it.  A `Scheme` says which bytes are special, which one is the escape, and how
a byte is changed; `stuff` is the sender and `unstuff` the receiver.

The receiver is started in the middle of anything, so it takes the flag that
says whether the byte before was an escape.
-/

namespace Stuffing

/-- An escape scheme.  The changed copy of a special byte is not special, and
changing it once more gives the byte back. -/
structure Scheme (α : Type*) where
  /-- The escape. -/
  esc : α
  /-- The bytes that are not sent as they are. -/
  special : α → Bool
  /-- The changed copy. -/
  flip : α → α
  /-- The escape is itself special. -/
  special_esc : special esc = true
  /-- Changing a byte twice gives it back. -/
  flip_flip : ∀ b, flip (flip b) = b
  /-- The changed copy of a special byte is not special. -/
  special_flip : ∀ b, special b = true → special (flip b) = false

namespace Scheme

variable {α : Type*} (S : Scheme α)

/-- What is sent for one byte. -/
def stuffByte (b : α) : List α := if S.special b then [S.esc, S.flip b] else [b]

/-- What is sent for a list of bytes. -/
def stuff (l : List α) : List α := l.flatMap S.stuffByte

@[simp] theorem stuff_nil : S.stuff [] = [] := rfl

theorem stuff_cons (b : α) (l : List α) : S.stuff (b :: l) = S.stuffByte b ++ S.stuff l := rfl

theorem stuff_append (l r : List α) : S.stuff (l ++ r) = S.stuff l ++ S.stuff r :=
  List.flatMap_append

/-- A byte that is not special is not the escape. -/
theorem ne_esc {b : α} (hb : S.special b = false) : b ≠ S.esc := by
  intro h
  rw [h, S.special_esc] at hb
  cases hb

/-- The only special byte among those sent is the escape. -/
theorem eq_esc_of_mem_stuff {b : α} {l : List α} (hb : b ∈ S.stuff l)
    (hs : S.special b = true) : b = S.esc := by
  obtain ⟨a, -, ha⟩ := List.mem_flatMap.mp hb
  cases hsa : S.special a with
  | true =>
      rw [stuffByte, hsa, if_pos rfl] at ha
      rcases List.mem_cons.mp ha with rfl | ha
      · rfl
      · rw [List.mem_singleton.mp ha, S.special_flip a hsa] at hs
        cases hs
  | false =>
      rw [stuffByte, hsa, if_neg Bool.false_ne_true] at ha
      rw [List.mem_singleton.mp ha, hsa] at hs
      cases hs

/-! ## The receiver -/

variable [DecidableEq α]

/-- The bytes received, where `esc` says that the byte before was an escape. -/
def unstuff : (esc : Bool) → List α → List α
  | _, [] => []
  | esc, b :: l =>
      if b = S.esc then unstuff true l
      else (if esc then S.flip b else b) :: unstuff false l

/-- The flag after the bytes of a list. -/
def escAfter : (esc : Bool) → List α → Bool
  | esc, [] => esc
  | _, b :: l => escAfter (b = S.esc) l

@[simp] theorem unstuff_nil (esc : Bool) : S.unstuff esc [] = [] := rfl
@[simp] theorem escAfter_nil (esc : Bool) : S.escAfter esc [] = esc := rfl

theorem unstuff_esc (esc : Bool) (l : List α) :
    S.unstuff esc (S.esc :: l) = S.unstuff true l := by
  rw [unstuff, if_pos rfl]

theorem unstuff_cons {b : α} (hb : b ≠ S.esc) (esc : Bool) (l : List α) :
    S.unstuff esc (b :: l) = (if esc then S.flip b else b) :: S.unstuff false l := by
  rw [unstuff, if_neg hb]

theorem escAfter_esc (esc : Bool) (l : List α) :
    S.escAfter esc (S.esc :: l) = S.escAfter true l := by
  rw [escAfter, decide_eq_true rfl]

theorem escAfter_cons {b : α} (hb : b ≠ S.esc) (esc : Bool) (l : List α) :
    S.escAfter esc (b :: l) = S.escAfter false l := by
  rw [escAfter, decide_eq_false hb]

/-! ## Joining -/

theorem unstuff_append (esc : Bool) (l r : List α) :
    S.unstuff esc (l ++ r) = S.unstuff esc l ++ S.unstuff (S.escAfter esc l) r := by
  induction l generalizing esc with
  | nil => rfl
  | cons b l ih =>
      by_cases hb : b = S.esc
      · subst hb
        rw [List.cons_append, unstuff_esc, unstuff_esc, escAfter_esc, ih]
      · rw [List.cons_append, unstuff_cons S hb, unstuff_cons S hb, escAfter_cons S hb, ih,
          List.cons_append]

theorem escAfter_append (esc : Bool) (l r : List α) :
    S.escAfter esc (l ++ r) = S.escAfter (S.escAfter esc l) r := by
  induction l generalizing esc with
  | nil => rfl
  | cons b l ih => exact ih _

/-! ## The round trip -/

theorem unstuff_stuffByte (b : α) (r : List α) :
    S.unstuff false (S.stuffByte b ++ r) = b :: S.unstuff false r := by
  cases hb : S.special b with
  | true =>
      rw [stuffByte, hb, if_pos rfl, List.cons_append, unstuff_esc, List.cons_append,
        unstuff_cons S (S.ne_esc (S.special_flip b hb)), if_pos rfl, S.flip_flip, List.nil_append]
  | false =>
      rw [stuffByte, hb, if_neg Bool.false_ne_true, List.cons_append,
        unstuff_cons S (S.ne_esc hb), if_neg Bool.false_ne_true, List.nil_append]

/-- What was sent is received. -/
theorem unstuff_stuff_append (l r : List α) :
    S.unstuff false (S.stuff l ++ r) = l ++ S.unstuff false r := by
  induction l with
  | nil => rfl
  | cons b l ih =>
      rw [stuff_cons, List.append_assoc, unstuff_stuffByte, ih, List.cons_append]

theorem unstuff_stuff (l : List α) : S.unstuff false (S.stuff l) = l := by
  have h := S.unstuff_stuff_append l []
  rwa [List.append_nil, unstuff_nil, List.append_nil] at h

end Scheme

end Stuffing
