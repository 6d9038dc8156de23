import Mathlib.Data.Int.Notation
import Mathlib.Tactic.Common

/-!
# Checked tables

Programs on a state that has tables of `n` entries.  A table is used at an
index, which is any integer: `index` is the entry, or the program faults.  A
program may also fail an assertion, which stops it.

`Keeps I Q x s` says that `x`, from `s`, uses no table outside, and where it
comes to an end `I` holds of the state and `Q` of the result.
-/

namespace Checked

/-- What ends a program early. -/
inductive Fault (τ : Type*) where
  /-- A table is used outside. -/
  | outside (table : τ) (index : Int)
  | assertion
deriving DecidableEq, Repr

/-- Programs. -/
abbrev Prog (τ σ α : Type) := StateT σ (Except (Fault τ)) α

variable {τ σ α β : Type} {I : σ → Prop}

/-- The entry at an index of a table. -/
def index (n : Nat) (table : τ) (i : Int) : Prog τ σ (Fin n) := fun s =>
  if h : 0 ≤ i ∧ i < n then .ok (⟨i.toNat, by omega⟩, s) else .error (.outside table i)

/-- `assert`. -/
def check (p : Prop) [Decidable p] : Prog τ σ Unit := fun s =>
  if p then .ok ((), s) else .error .assertion

/-- The program uses no table outside. -/
def Inside (x : Prog τ σ α) (s : σ) : Prop := ∀ table i, x s ≠ .error (.outside table i)

/-- Nor does it break the invariant. -/
def Keeps (I : σ → Prop) (Q : α → Prop) (x : Prog τ σ α) (s : σ) : Prop :=
  match x s with
  | .ok (a, t) => I t ∧ Q a
  | .error .assertion => True
  | .error (.outside _ _) => False

theorem Keeps.inside {Q : α → Prop} {x : Prog τ σ α} {s : σ} (h : Keeps I Q x s) : Inside x s := by
  intro table i heq
  rw [Keeps, heq] at h
  exact h

theorem inside_of_ok {x : Prog τ σ α} {s : σ} {r : α × σ} (h : x s = .ok r) : Inside x s := by
  intro table i heq
  cases h.symm.trans heq

theorem Keeps.ok {Q : α → Prop} {x : Prog τ σ α} {s t : σ} {a : α} (h : Keeps I Q x s)
    (heq : x s = .ok (a, t)) : I t ∧ Q a := by
  rw [Keeps, heq] at h
  exact h

theorem Keeps.mono {Q R : α → Prop} {x : Prog τ σ α} {s : σ} (h : Keeps I Q x s)
    (hQ : ∀ a, Q a → R a) : Keeps I R x s := by
  unfold Keeps at h ⊢
  split
  · rename_i heq
    rw [heq] at h
    exact ⟨h.1, hQ _ h.2⟩
  · trivial
  · rename_i heq
    rw [heq] at h
    exact h

theorem bind_apply (x : Prog τ σ α) (f : α → Prog τ σ β) (s : σ) :
    (x >>= f) s = match x s with
      | .ok (a, t) => f a t
      | .error e => .error e := by
  change Except.bind (x s) _ = _
  cases x s <;> rfl

theorem keeps_pure {Q : α → Prop} {a : α} {s : σ} (hs : I s) (ha : Q a) :
    Keeps I Q (pure a : Prog τ σ α) s := ⟨hs, ha⟩

/-- One program behind another. -/
theorem keeps_bind {Q : α → Prop} {R : β → Prop} {x : Prog τ σ α} {f : α → Prog τ σ β} {s : σ}
    (hx : Keeps I Q x s) (hf : ∀ a t, Q a → I t → Keeps I R (f a) t) :
    Keeps I R (x >>= f) s := by
  unfold Keeps at hx ⊢
  rw [bind_apply]
  cases heq : x s with
  | ok r =>
      obtain ⟨a, t⟩ := r
      rw [heq] at hx
      exact hf a t hx.2 hx.1
  | error e =>
      rw [heq] at hx
      cases e with
      | assertion => trivial
      | outside => exact hx

theorem keeps_check {p : Prop} [Decidable p] {s : σ} (hs : I s) :
    Keeps I (fun _ => p) (check p : Prog τ σ Unit) s := by
  unfold Keeps check
  by_cases hp : p
  · rw [if_pos hp]
    exact ⟨hs, hp⟩
  · rw [if_neg hp]
    trivial

theorem keeps_index {n : Nat} {table : τ} {i : Int} {s : σ} (hs : I s) (h : 0 ≤ i ∧ i < n) :
    Keeps I (fun k => (k.val : Int) = i) (index n table i : Prog τ σ (Fin n)) s := by
  unfold Keeps index
  rw [dif_pos h]
  exact ⟨hs, Int.toNat_of_nonneg h.1⟩

theorem index_inside {n : Nat} {table : τ} (i : Fin n) (s : σ) :
    (index n table i : Prog τ σ (Fin n)) s = .ok (i, s) := by
  rw [index, dif_pos ⟨Int.natCast_nonneg _, Int.ofNat_lt.mpr i.isLt⟩]
  rfl

theorem index_outside {n : Nat} {table : τ} {i : Int} (h : ¬ (0 ≤ i ∧ i < n)) (s : σ) :
    (index n table i : Prog τ σ (Fin n)) s = .error (.outside table i) := dif_neg h

theorem bind_error {x : Prog τ σ α} {f : α → Prog τ σ β} {s : σ} {e : Fault τ}
    (h : x s = .error e) : (x >>= f) s = .error e := by
  rw [bind_apply, h]

theorem bind_ok {x : Prog τ σ α} {f : α → Prog τ σ β} {s t : σ} {a : α}
    (h : x s = .ok (a, t)) : (x >>= f) s = f a t := by
  rw [bind_apply, h]

theorem modify_bind {g : σ → σ} {f : PUnit → Prog τ σ β} (s : σ) :
    (modify g >>= f) s = f ⟨⟩ (g s) := rfl

theorem get_bind {f : σ → Prog τ σ β} (s : σ) : (get >>= f) s = f s s := rfl

end Checked
