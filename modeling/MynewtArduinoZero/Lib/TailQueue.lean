import Mathlib.Data.List.Nodup

/-!
# Tail queues

A `TAILQ` of `sys/queue.h`, by what can be told apart without addresses: the
chain of elements from `tqh_first` along `tqe_next`, and for each element
whether its `tqe_prev` is NULL, which programs use to tell whether the element
is queued.

`INSERT_BEFORE` and `REMOVE` store through `tqe_prev`, so they return `none`
where it is NULL.  `WF` says that the two views agree; every operation keeps it.
-/

/-- A tail queue and the link fields of its elements. -/
structure TailQueue (α : Type*) where
  /-- The elements from `tqh_first` along `tqe_next`. -/
  chain : List α
  /-- `tqe_prev` is not NULL. -/
  prev : α → Bool

namespace TailQueue

variable {α : Type*} [DecidableEq α]

/-- A link field is set. -/
def setPrev (prev : α → Bool) (a : α) (value : Bool) : α → Bool := fun x =>
  if x = a then value else prev x

/-- `TAILQ_FIRST`. -/
def first (q : TailQueue α) : Option α := q.chain.head?

/-- `TAILQ_INSERT_TAIL`. -/
def insertTail (q : TailQueue α) (a : α) : TailQueue α :=
  { chain := q.chain ++ [a], prev := setPrev q.prev a true }

/-- `TAILQ_INSERT_HEAD`. -/
def insertHead (q : TailQueue α) (a : α) : TailQueue α :=
  { chain := a :: q.chain
    prev := setPrev (q.chain.head?.elim q.prev fun b => setPrev q.prev b true) a true }

/-- A list with `a` put before the first `b`. -/
def putBefore (b a : α) : List α → List α
  | [] => []
  | c :: l => if c = b then a :: c :: l else c :: putBefore b a l

/-- `TAILQ_INSERT_BEFORE`. -/
def insertBefore (q : TailQueue α) (b a : α) : Option (TailQueue α) :=
  if q.prev b then
    some { chain := putBefore b a q.chain, prev := setPrev (setPrev q.prev a true) b true }
  else none

/-- The element behind the first `a` of a list: `TAILQ_NEXT`. -/
def nextOf (a : α) : List α → Option α
  | [] => none
  | c :: l => if c = a then l.head? else nextOf a l

/-- `TAILQ_REMOVE`, which leaves the links of `a` itself alone. -/
def remove (q : TailQueue α) (a : α) : Option (TailQueue α) :=
  if q.prev a then
    some
      { chain := q.chain.erase a
        prev := (nextOf a q.chain).elim q.prev fun b => setPrev q.prev b true }
  else none

/-- The chain has no element twice, and `tqe_prev` is set on its elements only. -/
structure WF (q : TailQueue α) : Prop where
  nodup : q.chain.Nodup
  prev_iff : ∀ a, q.prev a = true ↔ a ∈ q.chain

theorem setPrev_self (prev : α → Bool) (a : α) (value : Bool) : setPrev prev a value a = value :=
  if_pos rfl

theorem setPrev_of_ne (prev : α → Bool) {a x : α} (h : x ≠ a) (value : Bool) :
    setPrev prev a value x = prev x :=
  if_neg h

/-- Setting a link that is set changes nothing. -/
theorem setPrev_eq_self {prev : α → Bool} {a : α} {value : Bool} (h : prev a = value) :
    setPrev prev a value = prev := by
  funext x
  unfold setPrev
  split
  · rename_i hx
    rw [hx, h]
  · rfl

theorem mem_of_nextOf {a b : α} : ∀ {l : List α}, nextOf a l = some b → b ∈ l
  | c :: l, h => by
      rw [nextOf] at h
      split at h
      · exact List.mem_cons_of_mem c (List.mem_of_mem_head? h)
      · exact List.mem_cons_of_mem c (mem_of_nextOf h)

/-- Putting an element before the first one that satisfies `p`. -/
theorem putBefore_find {p : α → Bool} {a b : α} : ∀ {l : List α}, l.find? p = some b →
    putBefore b a l = l.takeWhile (fun c => !p c) ++ a :: l.dropWhile fun c => !p c
  | c :: l, h => by
      cases hc : p c with
      | true =>
          rw [List.find?_cons_of_pos hc, Option.some.injEq] at h
          rw [putBefore, if_pos h, List.takeWhile_cons_of_neg (by simp [hc]),
            List.dropWhile_cons_of_neg (by simp [hc]), List.nil_append]
      | false =>
          rw [List.find?_cons_of_neg (by simp [hc])] at h
          have hne : c ≠ b := by
            rintro rfl
            rw [List.find?_some h] at hc
            cases hc
          rw [putBefore, if_neg hne, List.takeWhile_cons_of_pos (by simp [hc]),
            List.dropWhile_cons_of_pos (by simp [hc]), putBefore_find h, List.cons_append]

/-! ## The first element -/

/-- Putting an element somewhere makes it the first or leaves the first one. -/
theorem head?_putBefore {a b c : α} : ∀ {l : List α}, (putBefore b a l).head? = some c →
    c = a ∨ l.head? = some c
  | d :: l, h => by
      rw [putBefore] at h
      split at h
      · rw [List.head?_cons, Option.some.injEq] at h
        exact .inl h.symm
      · exact .inr h

theorem first_insertTail {q : TailQueue α} {a c : α} (h : (q.insertTail a).first = some c) :
    c = a ∨ q.first = some c := by
  rw [first, insertTail, List.head?_append] at h
  cases hhead : q.chain.head? with
  | none =>
      rw [hhead, Option.none_or, List.head?_cons, Option.some.injEq] at h
      exact .inl h.symm
  | some b =>
      rw [hhead, Option.some_or] at h
      exact .inr (hhead.trans h)

/-- Behind the removal of the first element comes the next one. -/
theorem head?_erase_first {a : α} : ∀ {l : List α}, l.head? = some a →
    (l.erase a).head? = nextOf a l
  | c :: l, h => by
      rw [List.head?_cons, Option.some.injEq] at h
      subst h
      rw [List.erase_cons_head, nextOf, if_pos rfl]

/-- Removing another element leaves the first one. -/
theorem head?_erase_of_ne {a : α} : ∀ {l : List α}, l.head? ≠ some a →
    (l.erase a).head? = l.head?
  | [], _ => rfl
  | c :: l, h => by
      have hne : ¬ c = a := fun hca => h (by rw [List.head?_cons, hca])
      rw [List.erase_cons_tail (by simpa using hne), List.head?_cons, List.head?_cons]

/-! ## Well-formed queues -/

namespace WF

variable {q : TailQueue α}

/-- An element put anywhere into the chain. -/
theorem insert (h : q.WF) {a : α} {s t : List α} (hst : s ++ t = q.chain) (ha : a ∉ q.chain) :
    WF ⟨s ++ a :: t, setPrev q.prev a true⟩ := by
  have hperm : List.Perm (s ++ a :: t) (a :: q.chain) := by
    rw [← hst]
    exact List.perm_middle
  refine { nodup := hperm.nodup_iff.mpr (List.nodup_cons.mpr ⟨ha, h.nodup⟩), prev_iff := ?_ }
  intro x
  rw [hperm.mem_iff, List.mem_cons]
  by_cases hx : x = a
  · simp [hx, setPrev_self]
  · simp [hx, setPrev_of_ne, h.prev_iff]

theorem insertTail (h : q.WF) {a : α} (ha : a ∉ q.chain) : (q.insertTail a).WF :=
  h.insert (List.append_nil _) ha

/-- Removing a queued element and clearing its link, as every caller of `REMOVE` here does. -/
theorem remove (h : q.WF) {a : α} (ha : a ∈ q.chain) :
    q.remove a = some ⟨q.chain.erase a, q.prev⟩ := by
  rw [TailQueue.remove, if_pos ((h.prev_iff a).mpr ha)]
  cases hnext : nextOf a q.chain with
  | none => rfl
  | some b =>
      rw [Option.elim_some, setPrev_eq_self ((h.prev_iff b).mpr (mem_of_nextOf hnext))]

theorem erase (h : q.WF) (a : α) : WF ⟨q.chain.erase a, setPrev q.prev a false⟩ where
  nodup := h.nodup.erase a
  prev_iff := by
    intro x
    rw [h.nodup.mem_erase_iff]
    by_cases hx : x = a
    · simp [hx, setPrev_self]
    · simp [hx, setPrev_of_ne, h.prev_iff]

end WF

end TailQueue
