import Mathlib.Data.List.Nodup
import Mathlib.Logic.Function.Basic

/-!
# Singly linked lists

An `SLIST` of `sys/queue.h`: cells with a `next` pointer, where `none` is NULL.
`IsChain next p l` says that `l` is the list from `p` along `next`.  A list is
determined by its first pointer (`IsChain.unique`), depends on its own cells only
(`IsChain.frame`), and can be extended at its last cell and cut behind any cell.

`collect` walks a chain; a chain is no longer than there are cells, so the number
of cells is fuel enough (`collect_eq`).
-/

namespace Slist

variable {α : Type*}

/-- `l` is the list from `p` along `next`. -/
def IsChain (next : α → Option α) : Option α → List α → Prop
  | p, [] => p = none
  | p, a :: l => p = some a ∧ IsChain next (next a) l

/-- The cells from `p` on, `fuel` of them at most. -/
def collect (next : α → Option α) : (fuel : Nat) → Option α → List α
  | 0, _ | _ + 1, none => []
  | fuel + 1, some a => a :: collect next fuel (next a)

theorem collect_eq {next : α → Option α} : ∀ {fuel : Nat} {p : Option α} {l : List α},
    IsChain next p l → l.length ≤ fuel → collect next fuel p = l
  | 0, p, [], _, _ => rfl
  | 0, p, a :: l, _, hlen => by cases hlen
  | fuel + 1, p, [], h, _ => by
      rw [IsChain] at h
      rw [h, collect]
  | fuel + 1, p, a :: l, ⟨hp, hl⟩, hlen => by
      rw [hp, collect, collect_eq hl (Nat.le_of_succ_le_succ hlen)]

namespace IsChain

variable {next next' : α → Option α}

theorem unique : ∀ {p : Option α} {l l' : List α}, IsChain next p l → IsChain next p l' → l = l'
  | p, [], [], _, _ => rfl
  | p, [], a :: l', h, ⟨hp, _⟩ => by cases h.symm.trans hp
  | p, a :: l, [], ⟨hp, _⟩, h' => by cases hp.symm.trans h'
  | p, a :: l, b :: l', ⟨hp, hl⟩, ⟨hp', hl'⟩ => by
      cases hp.symm.trans hp'
      rw [unique hl hl']

/-- A list depends on the pointers of its own cells. -/
theorem frame : ∀ {p : Option α} {l : List α}, IsChain next p l →
    (∀ a ∈ l, next' a = next a) → IsChain next' p l
  | p, [], h, _ => h
  | p, a :: l, ⟨hp, hl⟩, hsame => by
      refine ⟨hp, ?_⟩
      rw [hsame a List.mem_cons_self]
      exact hl.frame fun b hb => hsame b (List.mem_cons_of_mem a hb)

/-- The list behind a cell. -/
theorem behind {p : Option α} {l r : List α} {a : α} (h : IsChain next p (l ++ a :: r)) :
    IsChain next (next a) r := by
  induction l generalizing p with
  | nil => exact h.2
  | cons b l ih => exact ih h.2

/-- Another list behind a cell. -/
theorem graft [DecidableEq α] {p q : Option α} {l r r' : List α} {a : α}
    (h : IsChain next p (l ++ a :: r)) (ha : a ∉ l) (ha' : a ∉ r') (hr' : IsChain next q r') :
    IsChain (Function.update next a q) p (l ++ a :: r') := by
  induction l generalizing p with
  | nil =>
      refine ⟨h.1, ?_⟩
      rw [Function.update_self]
      exact hr'.frame fun b hb => Function.update_of_ne (ne_of_mem_of_not_mem hb ha') _ _
  | cons b l ih =>
      have hne : b ≠ a := fun hba => ha (hba ▸ List.mem_cons_self)
      refine ⟨h.1, ?_⟩
      rw [Function.update_of_ne hne]
      exact ih h.2 fun hal => ha (List.mem_cons_of_mem b hal)

/-- A list is cut behind a cell. -/
theorem cut [DecidableEq α] {p : Option α} {l r : List α} {a : α}
    (h : IsChain next p (l ++ a :: r)) (ha : a ∉ l) :
    IsChain (Function.update next a none) p (l ++ [a]) :=
  h.graft ha (List.not_mem_nil) rfl

end IsChain

end Slist
