import Mathlib.Tactic.Common

/-!
# Dialogues

A program that talks to a peer: it asks a question and goes on with the answer.
The peer is not part of the program.  It is given afterwards, as a relation
`Step s q x t`: in state `s` it may answer `q` by `x` and be in `t` then.

`Ensures Step d s Q` says that the dialogue `d`, with a peer in state `s`, never
asks a question the peer has no answer to, and that `Q` holds of its result and
of the state of the peer then, whichever answers the peer gives.  Every dialogue
comes to an end, so that this is total correctness.

A routine is a dialogue with variables of its own.  What a caller asks of a layer
of routines is a dialogue again, and `interp` carries it out.
-/

/-- A program that asks questions and goes on with the answers. -/
inductive Dialogue (Q A α : Type) where
  | done (a : α)
  | ask (q : Q) (k : A → Dialogue Q A α)

namespace Dialogue

variable {Q A α β σ : Type}

def bind : Dialogue Q A α → (α → Dialogue Q A β) → Dialogue Q A β
  | done a, f => f a
  | ask q k, f => ask q fun x => (k x).bind f

instance : Monad (Dialogue Q A) where
  pure := done
  bind := bind

/-- One question. -/
def put (q : Q) : Dialogue Q A A := ask q done

@[simp] theorem pure_eq_done (a : α) : (pure a : Dialogue Q A α) = done a := rfl

@[simp] theorem done_bind (a : α) (f : α → Dialogue Q A β) : done a >>= f = f a := rfl

@[simp] theorem ask_bind (q : Q) (k : A → Dialogue Q A α) (f : α → Dialogue Q A β) :
    ask q k >>= f = ask q fun x => k x >>= f := rfl

/-! ## Against a peer -/

variable {Step : σ → Q → A → σ → Prop}

/-- The dialogue never asks in vain, and ends as `post` says. -/
def Ensures (Step : σ → Q → A → σ → Prop) : Dialogue Q A α → σ → (α → σ → Prop) → Prop
  | done a, s, post => post a s
  | ask q k, s, post =>
      (∃ x t, Step s q x t) ∧ ∀ x t, Step s q x t → Ensures Step (k x) t post

@[simp] theorem ensures_done {a : α} {s : σ} {post : α → σ → Prop} :
    Ensures Step (done a) s post ↔ post a s := Iff.rfl

theorem ensures_ask {q : Q} {k : A → Dialogue Q A α} {s : σ} {post : α → σ → Prop} :
    Ensures Step (ask q k) s post ↔
      (∃ x t, Step s q x t) ∧ ∀ x t, Step s q x t → Ensures Step (k x) t post := Iff.rfl

theorem ensures_bind {f : α → Dialogue Q A β} {post : β → σ → Prop} :
    ∀ {d : Dialogue Q A α} {s : σ},
      Ensures Step (d >>= f) s post ↔
        Ensures Step d s fun a t => Ensures Step (f a) t post
  | done _, _ => Iff.rfl
  | ask q k, s => by
      simp only [ask_bind, ensures_ask, ensures_bind (d := k _)]

theorem Ensures.mono {post post' : α → σ → Prop} :
    ∀ {d : Dialogue Q A α} {s : σ}, Ensures Step d s post → (∀ a t, post a t → post' a t) →
      Ensures Step d s post'
  | done _, _, h, hpost => hpost _ _ h
  | ask _ _, _, h, hpost => ⟨h.1, fun x t hstep => (h.2 x t hstep).mono hpost⟩

/-- A peer that does only what another may do, and always something. -/
theorem Ensures.restrict {Step' : σ → Q → A → σ → Prop} {post : α → σ → Prop}
    (hsub : ∀ s q x t, Step' s q x t → Step s q x t) (hany : ∀ s q, ∃ x t, Step' s q x t) :
    ∀ {d : Dialogue Q A α} {s : σ}, Ensures Step d s post → Ensures Step' d s post
  | done _, _, h => h
  | ask q _, s, h =>
      ⟨hany s q, fun x t hstep => (h.2 x t (hsub s q x t hstep)).restrict hsub hany⟩

/-- There is a way for the peer to answer, and it ends as all of them do. -/
theorem Ensures.exists {post : α → σ → Prop} :
    ∀ {d : Dialogue Q A α} {s : σ}, Ensures Step d s post → ∃ a t, post a t
  | done a, s, h => ⟨a, s, h⟩
  | ask _ _, _, ⟨⟨x, t, hstep⟩, h⟩ => (h x t hstep).exists

theorem Ensures.and {post post' : α → σ → Prop} :
    ∀ {d : Dialogue Q A α} {s : σ}, Ensures Step d s post → Ensures Step d s post' →
      Ensures Step d s fun a t => post a t ∧ post' a t
  | done _, _, h, h' => ⟨h, h'⟩
  | ask _ _, _, h, h' => ⟨h.1, fun x t hstep => (h.2 x t hstep).and (h'.2 x t hstep)⟩

/-- A first part with its specification, and what comes behind. -/
theorem Ensures.bind {d : Dialogue Q A α} {f : α → Dialogue Q A β} {s : σ}
    {mid : α → σ → Prop} {post : β → σ → Prop} (h : Ensures Step d s mid)
    (hf : ∀ a t, mid a t → Ensures Step (f a) t post) : Ensures Step (d >>= f) s post :=
  ensures_bind.mpr (h.mono hf)

/-- States with an answer to every question, and which no answer leaves. -/
def Absorbing (Step : σ → Q → A → σ → Prop) (bad : σ → Prop) : Prop :=
  ∀ s q, bad s → (∃ x t, Step s q x t) ∧ ∀ x t, Step s q x t → bad t

theorem Absorbing.ensures {bad : σ → Prop} (h : Absorbing Step bad) :
    ∀ (d : Dialogue Q A α) {s : σ}, bad s → Ensures Step d s fun _ t => bad t
  | done _, _, hs => hs
  | ask q k, s, hs => ⟨(h s q hs).1, fun x t hstep => h.ensures (k x) ((h s q hs).2 x t hstep)⟩

/-! ## One dialogue carried out by another -/

variable {m : Type → Type} [Monad m] {P B : Type} {γ δ ε : Type}

/-- The dialogue with its questions answered by a program. -/
def interp (f : P → m B) : Dialogue P B γ → m γ
  | done a => pure a
  | ask q k => f q >>= fun x => interp f (k x)

@[simp] theorem interp_done (f : P → m B) (a : γ) : interp f (done a) = pure a := rfl

@[simp] theorem interp_ask (f : P → m B) (q : P) (k : B → Dialogue P B γ) :
    interp f (ask q k) = f q >>= fun x => interp f (k x) := rfl

/-! ## Routines -/

/-- A program with variables of type `γ`, in a dialogue. -/
abbrev Routine (Q A γ α : Type) := StateT γ (Dialogue Q A) α

namespace Routine

variable {v : γ} {s : σ}

/-- One question, which leaves the variables. -/
def call (q : Q) : Routine Q A γ A := fun v => ask q fun x => done (x, v)

/-- The routine, begun with the variables `v`, ends as `post` says. -/
def Ends (Step : σ → Q → A → σ → Prop) (r : Routine Q A γ δ) (v : γ) (s : σ)
    (post : δ → γ → σ → Prop) : Prop :=
  Ensures Step (r v) s fun p t => post p.1 p.2 t

@[simp] theorem ends_pure {a : δ} {post : δ → γ → σ → Prop} :
    Ends Step (pure a : Routine Q A γ δ) v s post ↔ post a v s := Iff.rfl

@[simp] theorem ends_get {post : γ → γ → σ → Prop} :
    Ends Step (get : Routine Q A γ γ) v s post ↔ post v v s := Iff.rfl

@[simp] theorem ends_modify {f : γ → γ} {post : PUnit → γ → σ → Prop} :
    Ends Step (modify f : Routine Q A γ PUnit) v s post ↔ post ⟨⟩ (f v) s := Iff.rfl

theorem ends_call {q : Q} {post : A → γ → σ → Prop} :
    Ends Step (call q) v s post ↔
      (∃ x t, Step s q x t) ∧ ∀ x t, Step s q x t → post x v t := Iff.rfl

theorem ends_bind {r : Routine Q A γ δ} {f : δ → Routine Q A γ ε} {post : ε → γ → σ → Prop} :
    Ends Step (r >>= f) v s post ↔ Ends Step r v s fun a v t => Ends Step (f a) v t post :=
  ensures_bind

theorem Ends.mono {r : Routine Q A γ δ} {post post' : δ → γ → σ → Prop}
    (h : Ends Step r v s post) (hpost : ∀ a v t, post a v t → post' a v t) :
    Ends Step r v s post' :=
  Ensures.mono h fun p t => hpost p.1 p.2 t

/-- A first part with its specification, and what comes behind. -/
theorem Ends.bind {r : Routine Q A γ δ} {f : δ → Routine Q A γ ε} {p : δ → γ → σ → Prop}
    {post : ε → γ → σ → Prop} (h : Ends Step r v s p)
    (hf : ∀ a v t, p a v t → Ends Step (f a) v t post) : Ends Step (r >>= f) v s post :=
  ends_bind.mpr (h.mono hf)

theorem Ends.and {r : Routine Q A γ δ} {post post' : δ → γ → σ → Prop} (h : Ends Step r v s post)
    (h' : Ends Step r v s post') : Ends Step r v s fun a v t => post a v t ∧ post' a v t :=
  Ensures.and h h'

/-- A specification for the states that are not bad. -/
theorem ends_or {bad : σ → Prop} (hbad : Absorbing Step bad) {r : Routine Q A γ δ}
    {post : δ → γ → σ → Prop}
    (h : ¬ bad s → Ends Step r v s fun a v t => bad t ∨ post a v t) :
    Ends Step r v s fun a v t => bad t ∨ post a v t := by
  by_cases hs : bad s
  · exact (hbad.ensures (r v) hs).mono fun _ _ => .inl
  · exact h hs

/-! ### Invariants -/

/-- Whatever the peer answers, the routine ends, and what held before it holds then. -/
def Keeps (Step : σ → Q → A → σ → Prop) (inv : γ → σ → Prop) (r : Routine Q A γ δ) : Prop :=
  ∀ v s, inv v s → Ends Step r v s fun _ v t => inv v t

namespace Keeps

variable {inv : γ → σ → Prop}

theorem pure (a : δ) : Keeps Step inv (Pure.pure a : Routine Q A γ δ) := fun _ _ h => h

theorem bind {r : Routine Q A γ δ} {f : δ → Routine Q A γ ε} (h : Keeps Step inv r)
    (hf : ∀ a, Keeps Step inv (f a)) : Keeps Step inv (r >>= f) :=
  fun v s hv => (h v s hv).bind fun a v t ht => hf a v t ht

theorem ite {c : Prop} [Decidable c] {r r' : Routine Q A γ δ} (h : Keeps Step inv r)
    (h' : Keeps Step inv r') : Keeps Step inv (if c then r else r') := by
  split
  · exact h
  · exact h'

theorem modify {f : γ → γ} (h : ∀ v s, inv v s → inv (f v) s) :
    Keeps Step inv (modify f : Routine Q A γ PUnit) :=
  fun v s hv => h v s hv

theorem get_bind {f : γ → Routine Q A γ δ} (h : ∀ v, Keeps Step inv (f v)) :
    Keeps Step inv (get >>= f) :=
  fun v s hv => h v v s hv

/-- What every answer keeps, a dialogue carried out keeps. -/
theorem interp {f : P → Routine Q A γ B} (hf : ∀ q, Keeps Step inv (f q)) :
    ∀ d : Dialogue P B δ, Keeps Step inv (d.interp f)
  | done a => pure a
  | ask q k => bind (hf q) fun x => interp hf (k x)

end Keeps

end Routine

end Dialogue
