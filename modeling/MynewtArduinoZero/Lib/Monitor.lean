import Mathlib.Data.Fintype.Basic
import Mathlib.Data.List.Induction
import MynewtArduinoZero.Lib.Run

/-!
# A recursive mutex around a shared device

Tasks run scripts.  An action of a script takes or releases the one mutex, which
nests in a task and blocks the others, enters or leaves a use of the device, or
works on the device.  A task may be preempted between any two actions.

The device is used by one task at a time (`Exclusive`) when every use holds the
mutex.  Some tasks are `free` to enter without it.  Their uses are the only ones
that can meet another, and `exclusive_iff_alone` says that they decide: the
device is used by one task at a time exactly when no free use begins, or is met,
while another task is inside.

A script is well formed from where its task stands if it is `Disciplined` there.
Scripts are put together from pieces that leave their task as they found it
(`Neutral`).
-/

namespace Monitor

variable {τ α π : Type*}

/-! ## Scripts -/

inductive Action (α : Type*) where
  | acquire
  | release
  | enter
  | leave
  | work (a : α)
deriving DecidableEq, Repr

/-- What a task does that holds the mutex `d` times and is inside `i` times: it ends outside and
without the mutex, never takes or gives up the mutex inside a use it does not cover, and works
inside only. -/
def Disciplined (free : Bool) : (d i : Nat) → List (Action α) → Prop
  | d, i, [] => d = 0 ∧ i = 0
  | d, i, .acquire :: l => (d = 0 → i = 0) ∧ Disciplined free (d + 1) i l
  | d, i, .release :: l => 0 < d ∧ (d = 1 → i = 0) ∧ Disciplined free (d - 1) i l
  | d, i, .enter :: l => (free = true ∨ 0 < d) ∧ Disciplined free d (i + 1) l
  | d, i, .leave :: l => 0 < i ∧ Disciplined free d (i - 1) l
  | d, i, .work _ :: l => 0 < i ∧ Disciplined free d i l

/-- A piece of a script that leaves its task as it found it. -/
def Neutral (free : Bool) (d i : Nat) (l : List (Action α)) : Prop :=
  ∀ rest, Disciplined free d i rest → Disciplined free d i (l ++ rest)

/-- With the mutex. -/
def locked (l : List (Action α)) : List (Action α) := .acquire :: (l ++ [.release])

/-- A use of the device. -/
def within (l : List (Action α)) : List (Action α) := .enter :: (l ++ [.leave])

section Neutral

variable {free : Bool} {d i : Nat} {l l' : List (Action α)}

theorem Neutral.nil : Neutral free d i ([] : List (Action α)) := fun _ hrest => hrest

theorem Neutral.append (hl : Neutral free d i l) (hl' : Neutral free d i l') :
    Neutral free d i (l ++ l') := by
  intro rest hrest
  rw [List.append_assoc]
  exact hl _ (hl' _ hrest)

theorem Neutral.flatMap {β : Type*} {f : β → List (Action α)} {xs : List β}
    (h : ∀ x ∈ xs, Neutral free d i (f x)) : Neutral free d i (xs.flatMap f) := by
  induction xs with
  | nil => exact .nil
  | cons x xs ih =>
      exact (h x List.mem_cons_self).append (ih fun y hy => h y (List.mem_cons_of_mem x hy))

theorem Neutral.ite {p : Prop} [Decidable p] (hl : Neutral free d i l)
    (hl' : Neutral free d i l') : Neutral free d i (if p then l else l') := by
  split
  · exact hl
  · exact hl'

theorem Neutral.work (hi : 0 < i) (a : α) : Neutral free d i [.work a] :=
  fun _ hrest => ⟨hi, hrest⟩

theorem Neutral.works (hi : 0 < i) (as : List α) : Neutral free d i (as.map .work) := by
  induction as with
  | nil => exact .nil
  | cons a as ih => exact (Neutral.work hi a).append ih

theorem Neutral.locked (hi : d = 0 → i = 0) (hl : Neutral free (d + 1) i l) :
    Neutral free d i (locked l) := by
  intro rest hrest
  refine ⟨hi, ?_⟩
  change Disciplined free (d + 1) i (l ++ [.release] ++ rest)
  rw [List.append_assoc]
  refine hl _ ⟨d.succ_pos, fun hd => hi ?_, hrest⟩
  omega

theorem Neutral.within (hd : free = true ∨ 0 < d) (hl : Neutral free d (i + 1) l) :
    Neutral free d i (within l) := by
  intro rest hrest
  refine ⟨hd, ?_⟩
  change Disciplined free d (i + 1) (l ++ [.leave] ++ rest)
  rw [List.append_assoc]
  exact hl _ ⟨i.succ_pos, hrest⟩

/-- The mutex given up and taken again. -/
theorem Neutral.yield (hi : d = 0 → i = 0) :
    Neutral free (d + 1) i ([.release, .acquire] : List (Action α)) := by
  intro rest hrest
  refine ⟨d.succ_pos, fun hd => hi ?_, hi, hrest⟩
  omega

theorem Neutral.disciplined (hl : Neutral free 0 0 l) : Disciplined free 0 0 l := by
  have h := hl [] ⟨rfl, rfl⟩
  rwa [List.append_nil] at h

end Neutral

/-! ## The system -/

structure State (τ α : Type*) where
  /-- The task that holds the mutex, and how often it has taken it. -/
  owner : Option τ
  level : Nat
  /-- How many uses of the device a task is inside. -/
  inside : τ → Nat
  /-- What is left of the script a task runs. -/
  script : τ → List (Action α)

namespace State

/-- No task runs. -/
def idle : State τ α where
  owner := none
  level := 0
  inside _ := 0
  script _ := []

variable [DecidableEq τ]

/-- How often a task holds the mutex. -/
def held (s : State τ α) (t : τ) : Nat := if s.owner = some t then s.level else 0

def setScript (s : State τ α) (t : τ) (l : List (Action α)) : State τ α :=
  { s with script := Function.update s.script t l }

def setInside (s : State τ α) (t : τ) (i : Nat) : State τ α :=
  { s with inside := Function.update s.inside t i }

/-- A task takes the mutex, unless another holds it. -/
def acquire (s : State τ α) (t : τ) : Option (State τ α) :=
  if s.owner = none ∨ s.owner = some t then
    some { s with owner := some t, level := s.held t + 1 }
  else none

/-- The owner gives up the mutex once.  The call of another task has no effect. -/
def release (s : State τ α) (t : τ) : State τ α :=
  if s.owner = some t then
    if s.level ≤ 1 then { s with owner := none, level := 0 } else { s with level := s.level - 1 }
  else s

/-- The effect of an action. -/
def act (s : State τ α) (t : τ) : Action α → Option (State τ α)
  | .acquire => s.acquire t
  | .release => some (s.release t)
  | .enter => some (s.setInside t (s.inside t + 1))
  | .leave => some (s.setInside t (s.inside t - 1))
  | .work _ => some s

end State

/-- What happens: a task begins a program, or takes the next action of its script. -/
inductive Event (τ π : Type*) where
  | begin (t : τ) (p : π)
  | next (t : τ)
deriving DecidableEq, Repr

section System

variable [DecidableEq τ] (body : τ → π → Option (List (Action α)))

/-- One step.  `body t p` is the script of a program, if the task can run it. -/
def step (s : State τ α) : Event τ π → Option (State τ α)
  | .begin t p =>
      match s.script t with
      | [] => (body t p).map fun l => s.setScript t l
      | _ :: _ => none
  | .next t =>
      match s.script t with
      | [] => none
      | a :: l => (s.act t a).map fun u => u.setScript t l

/-- At most one task is inside. -/
def Exclusive (s : State τ α) : Prop := ∀ t u, t ≠ u → s.inside t = 0 ∨ s.inside u = 0

/-- A free task uses the device, or is about to, and does not hold the mutex. -/
def Uncovered (free : τ → Bool) (s : State τ α) (t : τ) : Prop := free t = true ∧ s.held t = 0

/-- A use that begins uncovered meets no other, and no use begins that meets one that is
uncovered. -/
def Alone (free : τ → Bool) (s : State τ α) : Event τ π → Prop
  | .begin _ _ => True
  | .next t =>
      (s.script t).head? = some .enter →
        ∀ u, t ≠ u → Uncovered free s t ∨ Uncovered free s u → s.inside u = 0

/-! ## The invariant -/

variable {body : τ → π → Option (List (Action α))} {free : τ → Bool} {s s' : State τ α}

structure Inv (free : τ → Bool) (s : State τ α) : Prop where
  disciplined : ∀ t, Disciplined (free t) (s.held t) (s.inside t) (s.script t)
  /-- A task that is not free is inside with the mutex only. -/
  covered : ∀ t, free t = false → s.held t = 0 → s.inside t = 0
  exclusive : Exclusive s

theorem Inv.idle : Inv free (State.idle : State τ α) where
  disciplined _ := ⟨rfl, rfl⟩
  covered _ _ _ := rfl
  exclusive _ _ _ := .inl rfl

/-- What a step of one task leaves to the others. -/
structure Frame (s s' : State τ α) (t : τ) : Prop where
  held : ∀ u, t ≠ u → s'.held u = s.held u
  inside : ∀ u, t ≠ u → s'.inside u = s.inside u
  script : ∀ u, t ≠ u → s'.script u = s.script u

/-- The invariant is kept by a step of one task that keeps it there. -/
theorem Inv.of_frame (hs : Inv free s) {t : τ} (hframe : Frame s s' t)
    (hdisciplined : Disciplined (free t) (s'.held t) (s'.inside t) (s'.script t))
    (hcovered : free t = false → s'.held t = 0 → s'.inside t = 0)
    (hexclusive : ∀ u, t ≠ u → s'.inside t = 0 ∨ s.inside u = 0) : Inv free s' where
  disciplined u := by
    by_cases htu : t = u
    · exact htu ▸ hdisciplined
    · rw [hframe.held u htu, hframe.inside u htu, hframe.script u htu]
      exact hs.disciplined u
  covered u := by
    by_cases htu : t = u
    · exact htu ▸ hcovered
    · rw [hframe.held u htu, hframe.inside u htu]
      exact hs.covered u
  exclusive u v huv := by
    by_cases htu : t = u
    · subst htu
      rw [hframe.inside v huv]
      exact hexclusive v huv
    · by_cases htv : t = v
      · subst htv
        rw [hframe.inside u htu]
        exact (hexclusive u htu).symm
      · rw [hframe.inside u htu, hframe.inside v htv]
        exact hs.exclusive u v huv

/-! ## The actions -/

theorem step_begin {t : τ} {p : π} (h : step body s (.begin t p) = some s') :
    ∃ l, s.script t = [] ∧ body t p = some l ∧ s' = s.setScript t l := by
  cases hscript : s.script t with
  | nil =>
      simp only [step, hscript, Option.map_eq_some_iff] at h
      obtain ⟨l, hbody, rfl⟩ := h
      exact ⟨l, rfl, hbody, rfl⟩
  | cons a l => simp [step, hscript] at h

theorem step_next {t : τ} (h : step body s (.next t) = some s') :
    ∃ a l u, s.script t = a :: l ∧ s.act t a = some u ∧ s' = u.setScript t l := by
  cases hscript : s.script t with
  | nil => simp [step, hscript] at h
  | cons a l =>
      simp only [step, hscript, Option.map_eq_some_iff] at h
      obtain ⟨u, hact, rfl⟩ := h
      exact ⟨a, l, u, rfl, hact, rfl⟩

theorem State.acquire_eq_some {t : τ} {u : State τ α} :
    s.acquire t = some u ↔
      (s.owner = none ∨ s.owner = some t) ∧
        { s with owner := some t, level := s.held t + 1 } = u := by
  simp [State.acquire, Option.ite_none_right_eq_some]

theorem State.held_of_owner {t u : τ} (howner : s.owner = none ∨ s.owner = some t) (htu : t ≠ u) :
    s.held u = 0 := by
  rcases howner with h | h <;> simp [State.held, h, htu]

theorem State.held_release (s : State τ α) (t : τ) : (s.release t).held t = s.held t - 1 := by
  by_cases howner : s.owner = some t
  · by_cases hlevel : s.level ≤ 1
    · simp [State.release, State.held, howner, hlevel]
    · simp [State.release, State.held, howner, hlevel]
  · simp [State.release, State.held, howner]

theorem State.held_release_of_ne {t u : τ} (htu : t ≠ u) : (s.release t).held u = s.held u := by
  by_cases howner : s.owner = some t
  · by_cases hlevel : s.level ≤ 1
    · simp [State.release, State.held, howner, hlevel, htu]
    · simp [State.release, State.held, howner, hlevel, htu]
  · simp [State.release, howner]

theorem State.inside_release (s : State τ α) (t : τ) : (s.release t).inside = s.inside := by
  by_cases howner : s.owner = some t
  · by_cases hlevel : s.level ≤ 1 <;> simp [State.release, howner, hlevel]
  · simp [State.release, howner]

theorem State.script_release (s : State τ α) (t : τ) : (s.release t).script = s.script := by
  by_cases howner : s.owner = some t
  · by_cases hlevel : s.level ≤ 1 <;> simp [State.release, howner, hlevel]
  · simp [State.release, howner]

theorem Frame.of_setScript (s : State τ α) (t : τ) (l : List (Action α)) :
    Frame s (s.setScript t l) t where
  held _ _ := rfl
  inside _ _ := rfl
  script _ htu := Function.update_of_ne (Ne.symm htu) _ _

theorem Frame.of_setInside (s : State τ α) (t : τ) (i : Nat) : Frame s (s.setInside t i) t where
  held _ _ := rfl
  inside _ htu := Function.update_of_ne (Ne.symm htu) _ _
  script _ _ := rfl

theorem Frame.trans {u : State τ α} {t : τ} (h : Frame s u t) (h' : Frame u s' t) :
    Frame s s' t where
  held v htv := (h'.held v htv).trans (h.held v htv)
  inside v htv := (h'.inside v htv).trans (h.inside v htv)
  script v htv := (h'.script v htv).trans (h.script v htv)

/-- An action changes nothing of the other tasks. -/
theorem Frame.of_act {t : τ} {a : Action α} {u : State τ α} (h : s.act t a = some u) :
    Frame s u t := by
  cases a with
  | acquire =>
      obtain ⟨howner, rfl⟩ := State.acquire_eq_some.mp h
      refine ⟨fun v htv => ?_, fun _ _ => rfl, fun _ _ => rfl⟩
      rw [State.held_of_owner howner htv]
      exact State.held_of_owner (.inr rfl) htv
  | release =>
      cases h
      exact ⟨fun v htv => State.held_release_of_ne htv,
        fun v _ => congrFun (s.inside_release t) v, fun v _ => congrFun (s.script_release t) v⟩
  | enter => cases h; exact .of_setInside ..
  | leave => cases h; exact .of_setInside ..
  | work a => cases h; exact ⟨fun _ _ => rfl, fun _ _ => rfl, fun _ _ => rfl⟩

/-- Where an action leaves its task: how often it holds the mutex, and how many uses it is
inside. -/
inductive Lands (free : Bool) (d i : Nat) : Action α → (d' i' : Nat) → Prop where
  | acquire (hi : d = 0 → i = 0) : Lands free d i .acquire (d + 1) i
  | release (hd : 0 < d) (hi : d = 1 → i = 0) : Lands free d i .release (d - 1) i
  | enter (hd : free = true ∨ 0 < d) : Lands free d i .enter d (i + 1)
  | leave (hi : 0 < i) : Lands free d i .leave d (i - 1)
  | work (a : α) (hi : 0 < i) : Lands free d i (.work a) d i

/-- A disciplined task makes disciplined steps. -/
theorem Disciplined.lands {t : τ} {a : Action α} {l : List (Action α)} {u : State τ α}
    {free : Bool} (hl : Disciplined free (s.held t) (s.inside t) (a :: l))
    (h : s.act t a = some u) :
    Lands free (s.held t) (s.inside t) a (u.held t) (u.inside t) ∧
      Disciplined free (u.held t) (u.inside t) l := by
  cases a with
  | acquire =>
      obtain ⟨howner, rfl⟩ := State.acquire_eq_some.mp h
      have hheld : State.held { s with owner := some t, level := s.held t + 1 } t = s.held t + 1 :=
        if_pos rfl
      rw [hheld]
      exact ⟨.acquire hl.1, hl.2⟩
  | release =>
      cases h
      rw [State.held_release, State.inside_release]
      exact ⟨.release hl.1 hl.2.1, hl.2.2⟩
  | enter =>
      cases h
      have hinside : (s.setInside t (s.inside t + 1)).inside t = s.inside t + 1 :=
        Function.update_self ..
      rw [hinside]
      exact ⟨.enter hl.1, hl.2⟩
  | leave =>
      cases h
      have hinside : (s.setInside t (s.inside t - 1)).inside t = s.inside t - 1 :=
        Function.update_self ..
      rw [hinside]
      exact ⟨.leave hl.1, hl.2⟩
  | work a =>
      cases h
      exact ⟨.work a hl.1, hl.2⟩

theorem Lands.covered {free : Bool} {a : Action α} {d i d' i' : Nat} (h : Lands free d i a d' i')
    (hcovered : free = false → d = 0 → i = 0) : free = false → d' = 0 → i' = 0 := by
  intro hfree hd'
  cases h with
  | acquire => exact absurd hd' d.succ_ne_zero
  | release hd hi => exact hi (by omega)
  | enter hd =>
      rcases hd with h | h
      · exact absurd h (by simp [hfree])
      · omega
  | leave hi => rw [hcovered hfree hd']
  | work a hi => exact hcovered hfree hd'

/-- Only `enter` brings a task inside. -/
theorem Lands.outside {free : Bool} {a : Action α} {d i d' i' : Nat} (h : Lands free d i a d' i')
    (ha : a ≠ .enter) (hi : i = 0) : i' = 0 := by
  cases h with
  | acquire => exact hi
  | release => exact hi
  | enter => exact absurd rfl ha
  | leave => rw [hi]
  | work => exact hi

/-! ## Runs -/

/-- Two tasks do not both hold the mutex. -/
theorem State.held_eq_zero {t u : τ} (htu : t ≠ u) (ht : s.held t ≠ 0) : s.held u = 0 := by
  refine State.held_of_owner (.inr ?_) htu
  by_contra howner
  exact ht (if_neg howner)

/-- A task that enters where its use is alone finds no other inside. -/
theorem Inv.others_outside (hs : Inv free s) {t : τ} {l : List (Action α)}
    (hscript : s.script t = .enter :: l) (halone : Alone (π := π) free s (.next t)) {u : τ}
    (htu : t ≠ u) : s.inside u = 0 := by
  have hheld : s.held t = 0 ∨ s.held u = 0 := by
    by_cases ht : s.held t = 0
    · exact .inl ht
    · exact .inr (State.held_eq_zero htu ht)
  have hmeet := halone (by rw [hscript]; rfl) u htu
  have hdisciplined := hs.disciplined t
  rw [hscript] at hdisciplined
  rcases hheld with ht | hu
  · have hfree : free t = true := hdisciplined.1.resolve_right (by omega)
    exact hmeet (.inl ⟨hfree, ht⟩)
  · by_cases hfree : free u = true
    · exact hmeet (.inr ⟨hfree, hu⟩)
    · exact hs.covered u (by simpa using hfree) hu

theorem Inv.begin {t : τ} {p : π} (hs : Inv free s)
    (hbody : ∀ t p l, body t p = some l → Disciplined (free t) 0 0 l)
    (h : step body s (.begin t p) = some s') : Inv free s' := by
  obtain ⟨l, hscript, hl, rfl⟩ := step_begin h
  have hidle := hs.disciplined t
  rw [hscript] at hidle
  refine hs.of_frame (.of_setScript s t l) ?_ (hs.covered t) (hs.exclusive t)
  have hself : (s.setScript t l).script t = l := Function.update_self ..
  rw [hself]
  change Disciplined (free t) (s.held t) (s.inside t) l
  rw [hidle.1, hidle.2]
  exact hbody t p l hl

theorem Inv.next {t : τ} (hs : Inv free s) (halone : Alone (π := π) free s (.next t))
    (h : step body s (.next t) = some s') : Inv free s' := by
  obtain ⟨a, l, u, hscript, hact, rfl⟩ := step_next h
  have hdisciplined := hs.disciplined t
  rw [hscript] at hdisciplined
  obtain ⟨hlands, hl⟩ := hdisciplined.lands hact
  refine hs.of_frame ((Frame.of_act hact).trans (.of_setScript u t l)) ?_
    (hlands.covered (hs.covered t)) fun v htv => ?_
  · have hself : (u.setScript t l).script t = l := Function.update_self ..
    rw [hself]
    exact hl
  · by_cases ha : a = .enter
    · subst ha
      exact .inr (hs.others_outside hscript halone htv)
    · exact (hs.exclusive t v htv).imp_left (hlands.outside ha)

/-- A use that is not alone meets another. -/
theorem not_exclusive_of_not_alone {e : Event τ π} (halone : ¬ Alone free s e)
    (h : step body s e = some s') : ¬ Exclusive s' := by
  cases e with
  | begin t p => exact absurd trivial halone
  | next t =>
      obtain ⟨a, l, u, hscript, hact, rfl⟩ := step_next h
      simp only [Alone, not_forall] at halone
      obtain ⟨hhead, v, htv, -, hv⟩ := halone
      rw [hscript] at hhead
      cases hhead
      cases hact
      intro hexclusive
      rcases hexclusive t v htv with ht | hv'
      · have hself : ((s.setInside t (s.inside t + 1)).setScript t l).inside t = s.inside t + 1 :=
          Function.update_self ..
        rw [hself] at ht
        exact Nat.succ_ne_zero _ ht
      · have hother : ((s.setInside t (s.inside t + 1)).setScript t l).inside v = s.inside v :=
          Function.update_of_ne (Ne.symm htv) _ _
        exact hv (hother ▸ hv')

/-- Where every program is disciplined, at most one task is inside in every state
of a run exactly when every uncovered use is alone. -/
theorem exclusive_iff_alone {es : List (Event τ π)} {t : State τ α}
    (hbody : ∀ t p l, body t p = some l → Disciplined (free t) 0 0 l)
    (hrun : Run.run (step body) .idle es = some t) :
    Run.Throughout (step body) Exclusive .idle es ↔
      Run.Along (step body) (Alone free) .idle es := by
  refine Run.throughout_iff_along (I := Inv free) (fun _ hs => hs.exclusive) ?_
    (fun _ _ _ _ => not_exclusive_of_not_alone) .idle hrun
  intro s e s' hs halone h
  cases e with
  | begin t p => exact hs.begin hbody h
  | next t => exact hs.next halone h

end System

end Monitor
