import Mathlib.Data.Option.Basic

/-!
# Runs of a partial step function

A system is a function `step : σ → ε → Option σ`.  The labels `ε` say what
happens (a call, an interrupt, a message), and `none` says that it cannot
happen in that state.  `run` takes the steps of a list in order.

An invariant is kept by a run when every step keeps it (`run_invariant`).
Often a step keeps it only where some condition on the state and the label
holds.  `Along step C s es` says that the run from `s` along `es` meets `C` at
each of its steps, and `run_invariant_along` is the rule for such runs.  Where a step that
fails the condition also breaks the property, the condition is exact:
`throughout_iff_along`.
-/

namespace Run

variable {σ ε : Type*}

/-! ## Runs -/

/-- The state after the steps of a list, in order. -/
def run (step : σ → ε → Option σ) : σ → List ε → Option σ
  | s, [] => some s
  | s, e :: es => (step s e).bind fun t => run step t es

@[simp] theorem run_nil (step : σ → ε → Option σ) (s : σ) : run step s [] = some s := rfl

theorem run_cons_eq_some {step : σ → ε → Option σ} {s u : σ} {e : ε} {es : List ε} :
    run step s (e :: es) = some u ↔ ∃ t, step s e = some t ∧ run step t es = some u := by
  simp only [run, Option.bind_eq_some_iff]

/-- A run goes on by one more step. -/
theorem run_concat {step : σ → ε → Option σ} {s t u : σ} {e : ε} {es : List ε}
    (hrun : run step s es = some t) (hstep : step t e = some u) :
    run step s (es ++ [e]) = some u := by
  induction es generalizing s with
  | nil =>
      rw [run_nil, Option.some.injEq] at hrun
      rw [hrun]
      exact run_cons_eq_some.mpr ⟨u, hstep, rfl⟩
  | cons e' es ih =>
      obtain ⟨v, hv, hrest⟩ := run_cons_eq_some.mp hrun
      exact run_cons_eq_some.mpr ⟨v, hv, ih hrest⟩

/-- Steps that can always happen can be taken in any order. -/
theorem exists_run {step : σ → ε → Option σ} (h : ∀ s e, ∃ t, step s e = some t) :
    ∀ (es : List ε) (s : σ), ∃ t, run step s es = some t
  | [], s => ⟨s, run_nil step s⟩
  | e :: es, s => by
      obtain ⟨u, hu⟩ := h s e
      obtain ⟨t, ht⟩ := exists_run h es u
      exact ⟨t, run_cons_eq_some.mpr ⟨u, hu, ht⟩⟩

/-! ## Invariants -/

/-- What every step keeps, a run keeps. -/
theorem run_invariant {step : σ → ε → Option σ} {I : σ → Prop}
    (hstep : ∀ s e t, I s → step s e = some t → I t) :
    ∀ {es : List ε} {s t : σ}, I s → run step s es = some t → I t
  | [], s, t, hs, h => by
      rw [run_nil, Option.some.injEq] at h
      exact h ▸ hs
  | e :: es, s, t, hs, h => by
      obtain ⟨u, hu, hrest⟩ := run_cons_eq_some.mp h
      exact run_invariant hstep (hstep s e u hs hu) hrest

/-- The run from `s` along `es` meets `C` at each of its steps. -/
def Along (step : σ → ε → Option σ) (C : σ → ε → Prop) : σ → List ε → Prop
  | _, [] => True
  | s, e :: es => C s e ∧ ∀ t, step s e = some t → Along step C t es

/-- What every step that meets `C` keeps, a run that meets `C` keeps. -/
theorem run_invariant_along {step : σ → ε → Option σ} {C : σ → ε → Prop} {I : σ → Prop}
    (hstep : ∀ s e t, I s → C s e → step s e = some t → I t) :
    ∀ {es : List ε} {s t : σ}, I s → Along step C s es → run step s es = some t → I t
  | [], s, t, hs, _, h => by
      rw [run_nil, Option.some.injEq] at h
      exact h ▸ hs
  | e :: es, s, t, hs, hC, h => by
      obtain ⟨u, hu, hrest⟩ := run_cons_eq_some.mp h
      exact run_invariant_along hstep (hstep s e u hs hC.1 hu) (hC.2 u hu) hrest

/-- `P` holds in every state of the run from `s` along `es`. -/
def Throughout (step : σ → ε → Option σ) (P : σ → Prop) : σ → List ε → Prop
  | s, [] => P s
  | s, e :: es => P s ∧ ∀ t, step s e = some t → Throughout step P t es

theorem Throughout.head {step : σ → ε → Option σ} {P : σ → Prop} {s : σ} :
    ∀ {es : List ε}, Throughout step P s es → P s
  | [], h => h
  | _ :: _, h => h.1

/-- A run that has a property throughout meets it behind each of its steps. -/
theorem Throughout.along {step : σ → ε → Option σ} {P : σ → Prop} :
    ∀ {es : List ε} {s : σ}, Throughout step P s es →
      Along step (fun s e => ∀ t, step s e = some t → P t) s es
  | [], _, _ => trivial
  | _ :: _, _, h => ⟨fun t ht => (h.2 t ht).head, fun t ht => (h.2 t ht).along⟩

theorem Along.and {step : σ → ε → Option σ} {C D : σ → ε → Prop} :
    ∀ {es : List ε} {s : σ}, Along step C s es → Along step D s es →
      Along step (fun s e => C s e ∧ D s e) s es
  | [], _, _, _ => trivial
  | _ :: _, _, hC, hD => ⟨⟨hC.1, hD.1⟩, fun t ht => (hC.2 t ht).and (hD.2 t ht)⟩

/-- Where steps that meet `C` keep an invariant, which has the property, and steps that do not meet
it break the property, a run has the property throughout exactly when it meets `C`. -/
theorem throughout_iff_along {step : σ → ε → Option σ} {C : σ → ε → Prop} {I P : σ → Prop}
    (hI : ∀ s, I s → P s) (hkeep : ∀ s e t, I s → C s e → step s e = some t → I t)
    (hbreak : ∀ s e t, I s → ¬ C s e → step s e = some t → ¬ P t) :
    ∀ {es : List ε} {s t : σ}, I s → run step s es = some t →
      (Throughout step P s es ↔ Along step C s es)
  | [], s, t, hs, _ => iff_of_true (hI s hs) trivial
  | e :: es, s, t, hs, h => by
      obtain ⟨u, hu, hrest⟩ := run_cons_eq_some.mp h
      constructor
      · rintro ⟨-, hafter⟩
        by_cases hC : C s e
        · refine ⟨hC, fun u' hu' => ?_⟩
          obtain rfl := Option.some.inj (hu.symm.trans hu')
          exact (throughout_iff_along hI hkeep hbreak (hkeep s e u hs hC hu) hrest).mp (hafter u hu)
        · exact absurd (hafter u hu).head (hbreak s e u hs hC hu)
      · rintro ⟨hC, hafter⟩
        refine ⟨hI s hs, fun u' hu' => ?_⟩
        obtain rfl := Option.some.inj (hu.symm.trans hu')
        exact (throughout_iff_along hI hkeep hbreak (hkeep s e u hs hC hu) hrest).mpr (hafter u hu)

instance Along.decidable (step : σ → ε → Option σ) (C : σ → ε → Prop)
    [∀ s e, Decidable (C s e)] : ∀ s es, Decidable (Along step C s es)
  | _, [] => .isTrue trivial
  | s, e :: es =>
      match h : step s e with
      | none => decidable_of_iff (C s e) (by simp [Along, h])
      | some t =>
          have := Along.decidable step C t es
          decidable_of_iff (C s e ∧ Along step C t es) (by simp [Along, h])

instance Throughout.decidable (step : σ → ε → Option σ) (P : σ → Prop) [DecidablePred P] :
    ∀ s es, Decidable (Throughout step P s es)
  | s, [] => inferInstanceAs (Decidable (P s))
  | s, e :: es =>
      match h : step s e with
      | none => decidable_of_iff (P s) (by simp [Throughout, h])
      | some t =>
          have := Throughout.decidable step P t es
          decidable_of_iff (P s ∧ Throughout step P t es) (by simp [Throughout, h])

end Run
