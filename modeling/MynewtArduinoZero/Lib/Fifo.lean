import Mathlib.Data.List.Basic

/-!
# Bounded queues

A queue of capacity `cap` takes a value at its end, unless it is full, and gives
the first one, unless it is empty.  A call reports whether it succeeded and what
it took.  What the successful puts were given is what the gets took, followed by
what is still there (`calls_conserved`), and a machine whose calls report what
the queue's do, from related states to related states, does so over every run
(`calls_simulates`).
-/

namespace Fifo

variable {α σ : Type*}

/-- A call. -/
inductive Op (α : Type*) where
  | put (a : α)
  | get
  deriving DecidableEq

/-- Whether a call succeeded, and what it took. -/
abbrev Result (α : Type*) := Bool × Option α

/-- A call of a queue of capacity `cap`. -/
def call (cap : Nat) (q : List α) : Op α → Result α × List α
  | .put a => if q.length < cap then ((true, none), q ++ [a]) else ((false, none), q)
  | .get =>
      match q with
      | [] => ((false, none), [])
      | a :: rest => ((true, some a), rest)

/-- The results of calls, in order, and the state behind them. -/
def calls (f : σ → Op α → Result α × σ) : σ → List (Op α) → List (Result α) × σ
  | s, [] => ([], s)
  | s, op :: ops =>
      ((f s op).1 :: (calls f (f s op).2 ops).1, (calls f (f s op).2 ops).2)

/-- What the successful puts were given. -/
def accepted : List (Op α) → List (Result α) → List α
  | .put a :: ops, (true, _) :: rs => a :: accepted ops rs
  | _ :: ops, _ :: rs => accepted ops rs
  | _, _ => []

/-- What the gets took. -/
def taken (rs : List (Result α)) : List α := rs.filterMap Prod.snd

@[simp] theorem call_put_room {cap : Nat} {q : List α} (h : q.length < cap) (a : α) :
    call cap q (.put a) = ((true, none), q ++ [a]) := if_pos h

@[simp] theorem call_put_full {cap : Nat} {q : List α} (h : cap ≤ q.length) (a : α) :
    call cap q (.put a) = ((false, none), q) := if_neg (Nat.not_lt.mpr h)

/-- The values stay in order, and each is taken once. -/
theorem calls_conserved (cap : Nat) (ops : List (Op α)) (q : List α) :
    q ++ accepted ops (calls (call cap) q ops).1 =
      taken (calls (call cap) q ops).1 ++ (calls (call cap) q ops).2 := by
  induction ops generalizing q with
  | nil => simp [calls, accepted, taken]
  | cons op ops ih =>
      cases op with
      | put a =>
          cases Nat.lt_or_ge q.length cap with
          | inl hroom =>
              simpa [calls, accepted, taken, call_put_room hroom] using ih (q ++ [a])
          | inr hfull => simpa [calls, accepted, taken, call_put_full hfull] using ih q
      | get =>
          cases q with
          | nil => simpa [calls, accepted, taken, call] using ih []
          | cons a q => simpa [calls, accepted, taken, call] using ih q

/-- A machine that reports what the queue reports, call by call, does so over every run. -/
theorem calls_simulates {f : σ → Op α → Result α × σ} {cap : Nat} {R : σ → List α → Prop}
    (hcall : ∀ s q op, R s q → (f s op).1 = (call cap q op).1 ∧ R (f s op).2 (call cap q op).2)
    (ops : List (Op α)) {s : σ} {q : List α} (h : R s q) :
    (calls f s ops).1 = (calls (call cap) q ops).1 ∧
      R (calls f s ops).2 (calls (call cap) q ops).2 := by
  induction ops generalizing s q with
  | nil => exact ⟨rfl, h⟩
  | cons op ops ih =>
      obtain ⟨hresult, hnext⟩ := hcall s q op h
      obtain ⟨hresults, hlast⟩ := ih hnext
      refine ⟨?_, hlast⟩
      simp only [calls, hresult, hresults]

end Fifo
