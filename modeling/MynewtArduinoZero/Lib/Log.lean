import Mathlib.Data.List.Infix

/-!
# Logs

A log of observations, the latest first.  `AllJustified J log` says that every
observation of it is one that `J` allows behind the earlier ones.
-/

namespace Log

variable {α : Type*} {J : List α → α → Prop}

/-- Every observation is justified by the earlier ones. -/
def AllJustified (J : List α → α → Prop) (log : List α) : Prop :=
  ∀ o earlier, (o :: earlier) <:+ log → J earlier o

theorem allJustified_nil : AllJustified J [] :=
  fun _ _ h => by cases List.suffix_nil.mp h

theorem AllJustified.cons {log : List α} {o : α} (h : AllJustified J log) (ho : J log o) :
    AllJustified J (o :: log) := by
  intro o' earlier hsuffix
  rcases List.suffix_cons_iff.mp hsuffix with heq | hold
  · cases heq
    exact ho
  · exact h o' earlier hold

/-- The latest observation is justified. -/
theorem AllJustified.head {log : List α} {o : α} (h : AllJustified J (o :: log)) : J log o :=
  h o log (List.suffix_refl _)

theorem AllJustified.tail {log : List α} {o : α} (h : AllJustified J (o :: log)) :
    AllJustified J log :=
  fun o' earlier hsuffix => h o' earlier (hsuffix.trans (List.suffix_cons o log))

end Log
