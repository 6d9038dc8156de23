import MynewtArduinoZero.Lib.Run

/-!
# Runs without end

An endless run has a state and a label at every time.  It is fair to a kind of
step `H` when it takes such a step whenever one stays possible.  `leads_to` is
the rule for what must happen: from `P` the run comes to `Q` if a step of the
kind is possible throughout `P`, every step stays in `P` or reaches `Q`, and the
steps of the kind decrease a measure that no other step increases.
-/

namespace Run

variable {σ ε : Type*}

/-- A run without end. -/
structure Endless (step : σ → ε → Option σ) where
  state : Nat → σ
  label : Nat → ε
  next : ∀ n, step (state n) (label n) = some (state (n + 1))

namespace Endless

variable {step : σ → ε → Option σ}

/-- Whenever a step of the kind `H` stays possible, one is taken. -/
def Fair (r : Endless step) (H : σ → ε → Prop) : Prop :=
  ∀ n, (∀ m ≥ n, ∃ e, H (r.state m) e) → ∃ m ≥ n, H (r.state m) (r.label m)

/-- What every step keeps, an endless run keeps. -/
theorem invariant {I : σ → Prop} (hstep : ∀ s e t, I s → step s e = some t → I t)
    (r : Endless step) (h : I (r.state 0)) (n : Nat) : I (r.state n) := by
  induction n with
  | zero => exact h
  | succ n ih => exact hstep _ _ _ ih (r.next n)

theorem leads_to {H : σ → ε → Prop} {P Q : σ → Prop} (μ : σ → Nat)
    (henabled : ∀ s, P s → ∃ e, H s e)
    (hstep : ∀ s e t, P s → step s e = some t →
      Q t ∨ (P t ∧ μ t ≤ μ s ∧ (H s e → μ t < μ s)))
    {r : Endless step} (hfair : r.Fair H) {n : Nat} (hn : P (r.state n)) :
    ∃ m ≥ n, Q (r.state m) := by
  induction hμ : μ (r.state n) using Nat.strongRecOn generalizing n with
  | _ x ih =>
      by_contra hnever
      -- as long as `Q` does not come, `P` stays and the measure does not grow
      have hstays : ∀ k, P (r.state (n + k)) ∧ μ (r.state (n + k)) ≤ x := by
        intro k
        induction k with
        | zero => exact ⟨hn, Nat.le_of_eq hμ⟩
        | succ k ihk =>
            rcases hstep _ _ _ ihk.1 (r.next (n + k)) with hQ | ⟨hP, hle, -⟩
            · exact absurd ⟨n + k + 1, by omega, hQ⟩ hnever
            · exact ⟨hP, Nat.le_trans hle ihk.2⟩
      have hstays' : ∀ m ≥ n, P (r.state m) ∧ μ (r.state m) ≤ x := by
        intro m hm
        obtain ⟨k, rfl⟩ := Nat.exists_eq_add_of_le hm
        exact hstays k
      obtain ⟨m, hm, htaken⟩ := hfair n fun m hm => henabled _ (hstays' m hm).1
      rcases hstep _ _ _ (hstays' m hm).1 (r.next m) with hQ | ⟨hP, -, hlt⟩
      · exact hnever ⟨m + 1, by omega, hQ⟩
      · obtain ⟨k, hk, hQ⟩ := ih _ (Nat.lt_of_lt_of_le (hlt htaken) (hstays' m hm).2) hP rfl
        exact hnever ⟨k, by omega, hQ⟩

end Endless

end Run
